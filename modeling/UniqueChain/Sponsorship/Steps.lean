import UniqueChain.Library.RateLimit
import UniqueChain.Runtime.Steps
import UniqueChain.Sponsorship.Requests

/-!
# What a step of the sponsored chain can do

`SponsoredStep x call x'` says what each call does.  A handler makes some withdrawals
from the sponsor of one collection (`Charged`), and for a call of the EVM the sponsor of
a contract may be named after that (`ContractDecided`).  The calls of `app-promotion` are
calls of the other pallets on its own behalf.
-/

namespace UniqueChain

open Execution CollectionDispatch

variable {T : UniqueChain.Config} {S : SponsorConfig T} {x x' y : SponsoredState S}

variable {handle : CollectionHandle T} {collectionId : CollectionId} {id : CollectionId}
  {who : T.CrossAccountId} {callContext : CallContext S.Input} {defaultRateLimit blockNumber : ℕ}
  {s s' : ContractHelpersStorage T} {sender : T.CrossAccountId}

/-! ## Withdrawals from the sponsor of a collection -/

/-- The state after a withdrawal that is granted. -/
def granted (handle : CollectionHandle T) (withdrawal : Withdrawal T) (unique : UniqueStorage T)
    (x : SponsoredState S) : SponsoredState S :=
  { x with
    chain := x.chain.mapUnique fun _ => unique
    decisions := ⟨handle, withdrawal, x.blockNumber⟩ :: x.decisions }

/-- Some withdrawals from the sponsor of the collection, one after the other. -/
inductive WithdrawnBy (handle : CollectionHandle T) (x : SponsoredState S) :
    SponsoredState S → Prop
  | none : WithdrawnBy handle x x
  | granted {y : SponsoredState S} {withdrawal : Withdrawal T} {unique : UniqueStorage T}
      (hbefore : WithdrawnBy handle x y)
      (hrun : Sponsoring.run handle y.blockNumber y.chain withdrawal = some unique) :
      WithdrawnBy handle x (UniqueChain.granted handle withdrawal unique y)

theorem WithdrawnBy.trans (hfirst : WithdrawnBy handle x y)
    (hsecond : WithdrawnBy handle y x') : WithdrawnBy handle x x' := by
  induction hsecond with
  | none => exact hfirst
  | granted hbefore hrun ih => exact .granted ih hrun

/-- What a charge may do to the state: withdrawals from the sponsor of one collection. -/
inductive Charged (x : SponsoredState S) : SponsoredState S → Prop
  | none : Charged x x
  | collection {handle : CollectionHandle T} {x' : SponsoredState S}
      (hstored : x.chain.common.collectionById.get handle.id = some handle.collection)
      (hwithdrawn : WithdrawnBy handle x x') : Charged x x'

/-- No withdrawal changes the settings. -/
theorem WithdrawnBy.common (hwithdrawn : WithdrawnBy handle x x') :
    x'.chain.common = x.chain.common := by
  induction hwithdrawn with
  | none => rfl
  | granted hbefore hrun ih => exact ih

theorem Charged.common (hcharged : Charged x x') : x'.chain.common = x.chain.common := by
  cases hcharged with
  | none => rfl
  | collection hstored hwithdrawn => exact hwithdrawn.common

theorem withdraw_moves {withdrawal : Withdrawal T} :
    Moves (WithdrawnBy handle) (withdraw handle withdrawal : Handler S Unit) := by
  intro x
  change WithdrawnBy handle x ((okOr (Sponsoring.run handle x.blockNumber x.chain withdrawal)
    Refusal.declined >>= fun unique => update fun x =>
      UniqueChain.granted handle withdrawal unique x).run x).state
  cases hrun : Sponsoring.run handle x.blockNumber x.chain withdrawal with
  | none => exact .none
  | some unique => exact .granted .none hrun

theorem Request.perform_moves (request : Request T) :
    Moves (WithdrawnBy handle) (request.perform handle : Handler S Unit) := by
  cases request with
  | single who withdrawal => exact withdraw_moves
  | mintCross who dataSize =>
    refine Moves.bind .trans withdraw_moves fun _ => ?_
    refine Moves.bind .trans (Moves.read fun _ => .none) fun x => ?_
    exact Moves.bind .trans (Moves.okOr fun _ => .none) fun _ => withdraw_moves

theorem FeeCall.charged_perform {α : Type} (call : FeeCall S) (name : T.AccountId → α) :
    Charged x ((Inquiry.perform name (call.inquiry x.chain)).run x).state := by
  cases hasked : call.inquiry x.chain with
  | none => exact .none
  | some asked =>
    exact .collection (inquiry_stored hasked).1
      (Moves.bind .trans asked.request.perform_moves (fun _ => Moves.pure fun _ => .none) x)

theorem UniqueSponsorshipHandler.getSponsor_moves (who : T.AccountId) (call : UniqueCall T) :
    Moves Charged (getSponsor who call : Handler S T.AccountId) := by
  intro x
  rw [run_getSponsor]
  exact FeeCall.charged_perform _ id

theorem UniqueEthSponsorshipHandler.getSponsor_moves (callContext : CallContext S.Input) :
    Moves Charged (getSponsor who callContext) := by
  intro x
  rw [run_getSponsor]
  exact FeeCall.charged_perform _ S.fromSub

/-! ## The sponsor of a contract -/

/-- What the sponsor of a contract is named for. -/
structure MaySponsor (defaultRateLimit blockNumber : ℕ) (s : ContractHelpersStorage T)
    (contract user : H160) (maxFee : ℕ) (sponsor : T.CrossAccountId) : Prop where
  enabled : ContractHelpers.sponsoringMode s contract ≠ .disabled
  sponsored : ContractHelpers.getSponsor s contract = some sponsor
  allowed : ContractHelpers.sponsoringMode s contract = .allowlisted →
    ContractHelpers.allowed s contract user = true
  rated : RateLimit.passes (2 ^ 32)
    (HelpersContractSponsoring.rateLimit defaultRateLimit s contract) blockNumber
    (s.sponsorBasket.get (contract, user)) = true
  affordable : maxFee ≤ ContractHelpers.getSponsoringFeeLimit s contract

/-- The block of a sponsored call is entered in the basket. -/
def recordBlock (contract user : H160) (blockNumber : ℕ) (s : ContractHelpersStorage T) :
    ContractHelpersStorage T :=
  { s with sponsorBasket := s.sponsorBasket.insert (contract, user) blockNumber }

theorem HelpersContractSponsoring.getSponsor_ok {Input : Type}
    {who sponsor : T.CrossAccountId} {callContext : CallContext Input} :
    (getSponsor defaultRateLimit blockNumber who callContext).run s = .ok sponsor s' ↔
      MaySponsor defaultRateLimit blockNumber s callContext.contractAddress (T.asEth who)
        callContext.maxFee sponsor ∧
      recordBlock callContext.contractAddress (T.asEth who) blockNumber s = s' := by
  simp only [getSponsor, read_bind_ok, ensure_bind_ok, okOr_bind_ok, update_bind_ok, pure_ok,
    not_and, Bool.not_eq_false]
  constructor
  · rintro ⟨henabled, found, hsponsored, hallowed, hrated, haffordable, rfl, hs'⟩
    exact ⟨⟨henabled, hsponsored, hallowed, hrated, haffordable⟩, hs'⟩
  · rintro ⟨hmay, hs'⟩
    exact ⟨hmay.enabled, sponsor, hmay.sponsored, hmay.allowed, hmay.rated, hmay.affordable, rfl,
      hs'⟩

/-- A sponsor who declines has written nothing, and the decision never panics. -/
theorem HelpersContractSponsoring.getSponsor_error {Input : Type} {callContext : CallContext Input}
    {refusal : Refusal}
    (hrun : (getSponsor defaultRateLimit blockNumber who callContext).run s = .error refusal s') :
    refusal = .declined ∧ s' = s := by
  simp only [getSponsor, read_bind_error, ensure_bind_error, okOr_bind_error] at hrun
  rcases hrun with ⟨_, rfl, rfl⟩ | ⟨_, hrun⟩
  · exact ⟨rfl, rfl⟩
  rcases hrun with ⟨_, rfl, rfl⟩ | ⟨_, _, hrun⟩
  · exact ⟨rfl, rfl⟩
  rcases hrun with ⟨_, rfl, rfl⟩ | ⟨_, hrun⟩
  · exact ⟨rfl, rfl⟩
  rcases hrun with ⟨_, rfl, rfl⟩ | ⟨_, hrun⟩
  · exact ⟨rfl, rfl⟩
  rcases hrun with ⟨_, rfl, rfl⟩ | ⟨_, hrun⟩
  · exact ⟨rfl, rfl⟩
  cases hrun

/-- The state after the sponsor of a contract is named. -/
def decidedContract (contract user : H160) (maxFee : ℕ) (sponsor : T.CrossAccountId)
    (x : SponsoredState S) : SponsoredState S :=
  { x with
    helpers := recordBlock contract user x.blockNumber x.helpers
    contractDecisions := ⟨contract, user, maxFee, sponsor, x.blockNumber⟩ :: x.contractDecisions }

/-- What the handler for contracts may do. -/
inductive ContractDecided (x : SponsoredState S) : SponsoredState S → Prop
  | none : ContractDecided x x
  | named {contract user : H160} {maxFee : ℕ} {sponsor : T.CrossAccountId}
      (hmay : MaySponsor S.defaultSponsoringRateLimit x.blockNumber x.helpers contract user maxFee
        sponsor) :
      ContractDecided x (decidedContract contract user maxFee sponsor x)

theorem contractSponsor_moves : Moves ContractDecided (contractSponsor who callContext) := by
  intro x
  unfold contractSponsor
  dsimp only
  cases hrun : (HelpersContractSponsoring.getSponsor S.defaultSponsoringRateLimit x.blockNumber who
    callContext).run x.helpers with
  | ok sponsor helpers =>
    obtain ⟨hmay, rfl⟩ := HelpersContractSponsoring.getSponsor_ok.mp hrun
    exact .named hmay
  | error refusal helpers =>
    obtain ⟨_, rfl⟩ := HelpersContractSponsoring.getSponsor_error hrun
    exact .none

/-- What a charge for a call of the EVM may do. -/
def ChargedEvm (x x' : SponsoredState S) : Prop := ∃ y, Charged x y ∧ ContractDecided y x'

theorem ChargedEvm.common (hcharged : ChargedEvm x x') : x'.chain.common = x.chain.common := by
  obtain ⟨y, hcharged, hdecided⟩ := hcharged
  cases hdecided with
  | none => exact hcharged.common
  | named hmay => exact hcharged.common

theorem EvmSponsorshipHandler.getSponsor_moves : Moves ChargedEvm (getSponsor who callContext) := by
  intro x
  have hcharged := @UniqueEthSponsorshipHandler.getSponsor_moves _ S who callContext x
  rw [getSponsor, run_attempt_bind]
  cases hrun : (UniqueEthSponsorshipHandler.getSponsor who callContext).run x with
  | ok sponsor y =>
    rw [hrun] at hcharged
    exact ⟨y, hcharged, .none⟩
  | error refusal y =>
    rw [hrun] at hcharged
    cases refusal with
    | declined => exact ⟨y, hcharged, contractSponsor_moves y⟩
    | panicked => exact ⟨y, hcharged, .none⟩

/-- Whether a sponsor is looked for at all. -/
def EvmFee.accepted (S : SponsorConfig T) (fee : EvmFee S.Input) : Bool :=
  match fee.maxFeePerGas with
  | some maxFeePerGas => acceptGasFee S.minGasPrice maxFeePerGas
  | none => !fee.isTransactional

def EvmFee.maxFee {Input : Type} (fee : EvmFee Input) : ℕ :=
  min (fee.maxFeePerGas.getD 0 * fee.gasLimit) u256Max

theorem EvmFee.getSponsor_eq (fee : EvmFee S.Input) :
    (fee.getSponsor : Handler S T.CrossAccountId) =
      if fee.accepted S then whoPaysFee fee.source fee.maxFee fee.reason else fail .declined := by
  obtain ⟨source, maxFeePerGas, gasLimit, reason, isTransactional, isCheck⟩ := fee
  cases maxFeePerGas with
  | some maxFeePerGas =>
    change (ensure (acceptGasFee S.minGasPrice maxFeePerGas = true) Refusal.declined >>= _) =
      if acceptGasFee S.minGasPrice maxFeePerGas = true then _ else _
    rw [ensure]
    split <;> rfl
  | none => cases isTransactional <;> rfl

theorem EvmFee.getSponsor_moves (fee : EvmFee S.Input) : Moves ChargedEvm fee.getSponsor := by
  have hnone : ∀ x : SponsoredState S, ChargedEvm x x := fun x => ⟨x, .none, .none⟩
  rw [getSponsor_eq]
  split
  · cases fee.reason with
    | call target input => exact EvmSponsorshipHandler.getSponsor_moves
    | create => exact hnone
  · exact hnone

/-! ## Burning an item -/

/-- The call that `burn_item` amounts to; an NFT may also be burnt zero times. -/
inductive BurnsItem (s : State T) (sender : T.CrossAccountId) (collectionId : CollectionId)
    (itemId : TokenId) : ℕ → State T → Prop
  | nonfungible {s' : State T}
      (hrun : (Call.nonfungible collectionId (.burn sender itemId)).execute.run s = .ok () s') :
      BurnsItem s sender collectionId itemId 1 s'
  | unburnt : BurnsItem s sender collectionId itemId 0 s
  | fungible {value : ℕ} {s' : State T}
      (hrun : (Call.fungible collectionId (.burn sender value)).execute.run s = .ok () s') :
      BurnsItem s sender collectionId itemId value s'
  | refungible {value : ℕ} {s' : State T}
      (hrun : (Call.refungible collectionId (.burn sender itemId value)).execute.run s =
        .ok () s') :
      BurnsItem s sender collectionId itemId value s'

/-- The entries of an item are removed from the baskets for NFTs. -/
def forgetItem (token : Token) (unique : UniqueStorage T) : UniqueStorage T :=
  { unique with
    nftTransferBasket := unique.nftTransferBasket.erase token
    nftApproveBasket := unique.nftApproveBasket.erase token }

theorem dispatchBurnItem_ok {itemId : TokenId} {value : ℕ} {s s' : State T}
    (hrun : (dispatchBurnItem sender collectionId itemId value).run s = .ok () s') :
    BurnsItem s sender collectionId itemId value s' := by
  have hrun := read_bind_ok.mp hrun
  cases hfound : dispatch s collectionId with
  | none =>
    rw [hfound] at hrun
    exact absurd hrun fail_ok
  | some dispatched =>
    rw [hfound] at hrun
    cases dispatched with
    | nonfungible handle =>
      obtain ⟨_, hamount, hburn⟩ : _ ∧ value ≤ 1 ∧ _ := by
        simpa only [CollectionHandle.checkIsInternal_bind_ok, Nonfungible.burnItem,
          ensure_bind_ok] using hrun
      rcases ite_ok.mp hburn with ⟨rfl, hburn⟩ | ⟨hone, hcheck⟩
      · exact .nonfungible (Call.nonfungible_ok.mpr ⟨handle, hfound, hburn⟩)
      · obtain rfl : value = 0 := by omega
        simp only [Nonfungible.checkTokenImmediateOwnership, read_bind_ok, okOr_bind_ok,
          ensure_ok] at hcheck
        obtain ⟨_, _, _, rfl⟩ := hcheck
        exact .unburnt
    | fungible handle =>
      obtain ⟨_, _, hburn⟩ : _ ∧ itemId = 0 ∧ _ := by
        simpa only [CollectionHandle.checkIsInternal_bind_ok, Fungible.burnItem,
          ensure_bind_ok] using hrun
      exact .fungible (Call.fungible_ok.mpr ⟨handle, hfound, hburn⟩)
    | refungible handle =>
      have hburn := (CollectionHandle.checkIsInternal_bind_ok.mp hrun).2
      exact .refungible (Call.refungible_ok.mpr ⟨handle, hfound, hburn⟩)
    | nativeFungible => exact absurd hrun fail_ok

theorem burnItem_ok {itemId : TokenId} {value : ℕ} {s s' : State T}
    (hrun : (burnItem sender collectionId itemId value).run s = .ok () s') :
    ∃ s₁, BurnsItem s sender collectionId itemId value s₁ ∧
      s' = if value = 1 then s₁.mapUnique (forgetItem (collectionId, itemId)) else s₁ := by
  obtain ⟨s₁, hburn, hrun⟩ := bind_unit_ok.mp hrun
  refine ⟨s₁, dispatchBurnItem_ok hburn, ?_⟩
  rcases ite_ok.mp hrun with ⟨hone, hrun⟩ | ⟨hone, hrun⟩
  · rw [if_pos hone]
    exact (update_ok.mp hrun).symm
  · rw [if_neg hone]
    exact (pure_ok.mp hrun).2.symm

/-! ## Steps -/

section Steps

variable {α : Type} {value : α}

theorem onPallets_ok {body : Exec T α} :
    (onPallets body : SponsoredExec S α).run x = .ok value x' ↔
      ∃ chain, body.run x.chain = .ok value chain ∧ { x with chain } = x' := by
  unfold onPallets
  dsimp only
  cases body.run x.chain with
  | ok result chain =>
    simp only [Outcome.ok.injEq]
    constructor
    · rintro ⟨rfl, hstate⟩
      exact ⟨chain, ⟨rfl, rfl⟩, hstate⟩
    · rintro ⟨_, ⟨rfl, rfl⟩, hstate⟩
      exact ⟨rfl, hstate⟩
  | error failure chain => simp

theorem onHelpers_ok {body : HelpersExec T α} :
    (onHelpers body : SponsoredExec S α).run x = .ok value x' ↔
      ∃ helpers, body.run x.helpers = .ok value helpers ∧ { x with helpers } = x' := by
  unfold onHelpers
  dsimp only
  cases body.run x.helpers with
  | ok result helpers =>
    simp only [Outcome.ok.injEq]
    constructor
    · rintro ⟨rfl, hstate⟩
      exact ⟨helpers, ⟨rfl, rfl⟩, hstate⟩
    · rintro ⟨_, ⟨rfl, rfl⟩, hstate⟩
      exact ⟨rfl, hstate⟩
  | error failure helpers => simp

theorem committed_eq_some {body : SponsoredExec S Unit} :
    committed x body = some x' ↔ body.run x = .ok () x' := by
  unfold committed
  cases body.run x with
  | ok value y => simp
  | error failure y => simp

/-- A handler is charged for along its relation. -/
theorem moved_of_charged {R : SponsoredState S → SponsoredState S → Prop} {handler : Handler S α}
    (hmoves : Moves R handler) (hcharged : charged x handler = some x') : R x x' := by
  have hmoved := hmoves x
  unfold charged at hcharged
  cases hrun : handler.run x with
  | ok value y =>
    rw [hrun] at hmoved hcharged
    cases hcharged
    exact hmoved
  | error refusal y =>
    rw [hrun] at hmoved hcharged
    cases refusal with
    | declined =>
      cases hcharged
      exact hmoved
    | panicked => cases hcharged

end Steps

/-- What each call does. -/
inductive SponsoredStep (x : SponsoredState S) : SponsoredCall S → SponsoredState S → Prop
  | nextBlock (hwidth : x.blockNumber + 1 < 2 ^ 32) :
      SponsoredStep x .nextBlock { x with blockNumber := x.blockNumber + 1 }
  | extrinsic {submitted : Extrinsic T} {chain : State T}
      (hcall : submitted.call.isWithdrawal = false) (hstep : step x.chain submitted = some chain) :
      SponsoredStep x (.extrinsic submitted) { x with chain }
  | burnItem {sender : T.AccountId} {collectionId : CollectionId} {itemId : TokenId}
      {value budget : ℕ} {chain : State T}
      (hburns : BurnsItem (x.chain.setBudget budget) (S.fromSub sender) collectionId itemId value
        chain) :
      SponsoredStep x (.burnItem sender collectionId itemId value budget)
        { x with
          chain := if value = 1 then chain.mapUnique (forgetItem (collectionId, itemId))
            else chain }
  | charge {who : T.AccountId} {call : UniqueCall T} {x' : SponsoredState S}
      (hcharged : Charged x x') : SponsoredStep x (.charge who call) x'
  | chargeEvm {fee : EvmFee S.Input} {x' : SponsoredState S} (hcharged : ChargedEvm x x') :
      SponsoredStep x (.chargeEvm fee) x'
  | helpers {call : ContractHelpers.Call} {helpers : ContractHelpersStorage T}
      (hrun : call.execute.run x.helpers = .ok () helpers) :
      SponsoredStep x (.helpers call) { x with helpers }
  | setAdminAddress {admin : T.AccountId} :
      SponsoredStep x (.setAdminAddress admin) { x with admin := some admin }
  | sponsorCollection {adminId : T.AccountId} {collectionId : CollectionId} {chain : State T}
      (hadmin : x.admin = some adminId)
      (hrun : (Call.settings collectionId (.forceSetSponsor S.promotionAccount)).execute.run
        x.chain =
        .ok () chain) :
      SponsoredStep x (.sponsorCollection adminId collectionId) { x with chain }
  | stopSponsoringCollection {adminId : T.AccountId} {collectionId : CollectionId}
      {chain : State T} (hadmin : x.admin = some adminId)
      (hrun : (Call.settings collectionId .forceRemoveSponsor).execute.run x.chain =
        .ok () chain) :
      SponsoredStep x (.stopSponsoringCollection adminId collectionId) { x with chain }
  | sponsorContract {adminId : T.AccountId} {contractId : H160} {helpers : ContractHelpersStorage T}
      (hadmin : x.admin = some adminId)
      (hrun : (ContractHelpers.forceSetSponsor contractId (S.fromSub S.promotionAccount)).run
        x.helpers = .ok () helpers) :
      SponsoredStep x (.sponsorContract adminId contractId) { x with helpers }
  | stopSponsoringContract {adminId : T.AccountId} {contractId : H160}
      {helpers : ContractHelpersStorage T} (hadmin : x.admin = some adminId)
      (hrun : (ContractHelpers.forceRemoveSponsor contractId).run x.helpers = .ok () helpers) :
      SponsoredStep x (.stopSponsoringContract adminId contractId) { x with helpers }

theorem AppPromotion.ensureAdmin_bind_ok {α : Type} {adminId : T.AccountId}
    {next : Unit → SponsoredExec S α} {value : α} :
    (ensureAdmin adminId >>= next).run x = .ok value x' ↔
      x.admin = some adminId ∧ (next ()).run x = .ok value x' := by
  have hcheck : ∀ {x x' : SponsoredState S},
      (ensureAdmin adminId).run x = .ok () x' ↔ x.admin = some adminId ∧ x = x' := by
    intro x x'
    simp only [ensureAdmin, read_bind_ok, okOr_bind_ok, ensure_ok]
    constructor
    · rintro ⟨admin, hadmin, rfl, rfl⟩
      exact ⟨hadmin, rfl⟩
    · rintro ⟨hadmin, rfl⟩
      exact ⟨adminId, hadmin, rfl, rfl⟩
  exact bind_ok_of_check hcheck

/-- A change of the settings of a collection, with the collection looked up first. -/
theorem settings_ok_of_tryGet {call : SettingsCall T}
    (hget : (onPallets (tryGet collectionId) : SponsoredExec S _).run x = .ok handle y)
    (hrun : (onPallets (call.execute handle) : SponsoredExec S Unit).run y = .ok () x') :
    ∃ chain, (Call.settings collectionId call).execute.run x.chain = .ok () chain ∧
      { x with chain } = x' := by
  obtain ⟨_, hfound, rfl⟩ := onPallets_ok.mp hget
  obtain ⟨rfl, hstored, rfl⟩ := tryGet_ok.mp hfound
  obtain ⟨chain, hcall, rfl⟩ := onPallets_ok.mp hrun
  exact ⟨chain, Call.settings_ok.mpr ⟨handle, ⟨rfl, hstored⟩, hcall⟩, rfl⟩

theorem sponsoredStep_ok {call : SponsoredCall S} (hstep : sponsoredStep x call = some x') :
    SponsoredStep x call x' := by
  cases call with
  | nextBlock =>
    simp only [sponsoredStep, Option.ite_none_right_eq_some, Option.some.injEq] at hstep
    obtain ⟨hwidth, rfl⟩ := hstep
    exact .nextBlock hwidth
  | extrinsic submitted =>
    simp only [sponsoredStep, Option.ite_none_left_eq_some, Bool.not_eq_true,
      Option.map_eq_some_iff] at hstep
    obtain ⟨hcall, chain, hstep, rfl⟩ := hstep
    exact .extrinsic hcall hstep
  | burnItem sender collectionId itemId value budget =>
    obtain ⟨chain, hrun, rfl⟩ := onPallets_ok.mp (committed_eq_some.mp hstep)
    obtain ⟨s₁, hburns, rfl⟩ := burnItem_ok hrun
    exact .burnItem hburns
  | charge who call =>
    exact .charge (moved_of_charged (UniqueSponsorshipHandler.getSponsor_moves who call) hstep)
  | chargeEvm fee =>
    simp only [sponsoredStep] at hstep
    split at hstep
    · cases hstep
      exact .chargeEvm ⟨x, .none, .none⟩
    · exact .chargeEvm (moved_of_charged (EvmFee.getSponsor_moves fee) hstep)
  | helpers call =>
    obtain ⟨helpers, hrun, rfl⟩ := onHelpers_ok.mp (committed_eq_some.mp hstep)
    exact .helpers hrun
  | setAdminAddress admin =>
    cases hstep
    exact .setAdminAddress
  | sponsorCollection adminId collectionId =>
    obtain ⟨hadmin, hrun⟩ := AppPromotion.ensureAdmin_bind_ok.mp (committed_eq_some.mp hstep)
    obtain ⟨handle, y, hget, hrun⟩ := bind_ok.mp hrun
    have hset : (onPallets ((SettingsCall.forceSetSponsor S.promotionAccount).execute handle) :
      SponsoredExec S Unit).run y = .ok () x' := hrun
    obtain ⟨chain, hcall, rfl⟩ := settings_ok_of_tryGet hget hset
    exact .sponsorCollection hadmin hcall
  | stopSponsoringCollection adminId collectionId =>
    obtain ⟨hadmin, hrun⟩ := AppPromotion.ensureAdmin_bind_ok.mp (committed_eq_some.mp hstep)
    obtain ⟨handle, y, hget, hrun⟩ := bind_ok.mp hrun
    obtain ⟨sponsor, _, hrun⟩ := okOr_bind_ok.mp hrun
    have hremove : (onPallets (SettingsCall.forceRemoveSponsor.execute handle) :
      SponsoredExec S Unit).run y = .ok () x' := (ensure_bind_ok.mp hrun).2
    obtain ⟨chain, hcall, rfl⟩ := settings_ok_of_tryGet hget hremove
    exact .stopSponsoringCollection hadmin hcall
  | sponsorContract adminId contractId =>
    obtain ⟨hadmin, hrun⟩ := AppPromotion.ensureAdmin_bind_ok.mp (committed_eq_some.mp hstep)
    obtain ⟨helpers, hset, rfl⟩ := onHelpers_ok.mp hrun
    exact .sponsorContract hadmin hset
  | stopSponsoringContract adminId contractId =>
    obtain ⟨hadmin, hrun⟩ := AppPromotion.ensureAdmin_bind_ok.mp (committed_eq_some.mp hstep)
    obtain ⟨sponsor, _, hrun⟩ := okOr_bind_ok.mp (read_bind_ok.mp hrun)
    obtain ⟨helpers, hremove, rfl⟩ := onHelpers_ok.mp (ensure_bind_ok.mp hrun).2
    exact .stopSponsoringContract hadmin hremove

end UniqueChain
