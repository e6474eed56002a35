import UniqueChain.Model.State

/-!
# Sponsors of contracts

The pallet `evm-contract-helpers` keeps for every contract who deployed it and who
sponsors the fees of its callers, within a rate limit, a limit for the fee and, if the
owner wants it, a list of allowed callers.  Its magic contract lets the owner of a
contract change these settings; `HelpersContractSponsoring` is asked at each call
whether the sponsor pays for it.
-/

namespace UniqueChain

open Execution

/-- Whom the sponsor of a contract pays for. -/
inductive SponsoringModeT where
  | disabled
  | allowlisted
  | generous
  deriving DecidableEq

/-- The number of methods of a contract that could have a limit for the fee. -/
def maxFeeLimitedMethods : ℕ := 5

/-- The key of the one limit that is used. -/
def allMethods : ℕ := 0xffffffff

/-- `U256::MAX`. -/
def u256Max : ℕ := 2 ^ 256 - 1

/-- The errors of the pallet. -/
inductive ContractHelpersError where
  | noPermission
  | noPendingSponsor
  | tooManyMethodsHaveSponsoredLimit
  deriving DecidableEq

/-- The events of the pallet. -/
inductive ContractHelpersEvent (T : Config) where
  | contractSponsorSet (contract : H160) (sponsor : T.AccountId)
  | contractSponsorshipConfirmed (contract : H160) (sponsor : T.AccountId)
  | contractSponsorRemoved (contract : H160)

/-- The logs say the same with Ethereum addresses; each is emitted by its contract. -/
inductive ContractHelpersLog where
  | contractSponsorSet (contract sponsor : H160)
  | contractSponsorshipConfirmed (contract sponsor : H160)
  | contractSponsorRemoved (contract : H160)

/-- The storage of the pallet. -/
structure ContractHelpersStorage (T : Config) where
  owner : FiniteMap H160 H160
  /-- Deprecated. -/
  selfSponsoring : FiniteMap H160 Bool
  sponsoring : FiniteMap H160 (SponsorshipState T.CrossAccountId)
  sponsoringMode : FiniteMap H160 SponsoringModeT
  sponsoringRateLimit : FiniteMap H160 ℕ
  sponsoringFeeLimit : FiniteMap H160 (FiniteMap ℕ ℕ)
  /-- The block of the last sponsored call of a user to a contract. -/
  sponsorBasket : FiniteMap (H160 × H160) ℕ
  allowlistEnabled : FiniteMap H160 Bool
  allowlist : FiniteMap (H160 × H160) Bool
  events : List (ContractHelpersEvent T)
  logs : List ContractHelpersLog

/-- The storage at genesis. -/
def ContractHelpersStorage.empty {T : Config} : ContractHelpersStorage T :=
  ⟨.empty, .empty, .empty, .empty, .empty, .empty, .empty, .empty, .empty, [], []⟩

/-- What a sponsor is asked to pay for: a call of a contract with some input. -/
structure CallContext (Input : Type) where
  contractAddress : H160
  input : Input
  maxFee : ℕ

/-- Why a handler names no sponsor. -/
inductive Refusal where
  | declined
  | panicked
  deriving DecidableEq

/-- An operation of the pallet. -/
abbrev HelpersExec (T : Config) (α : Type) :=
  Execution ContractHelpersError (ContractHelpersStorage T) α

namespace ContractHelpers

variable {T : Config}

/-! ## Reading -/

section Reading

variable (s : ContractHelpersStorage T)

/-- The zero address for an unknown contract. -/
def contractOwner (contract : H160) : H160 := s.owner.getD contract 0

/-- The sponsor of a contract and whether they confirmed. -/
def sponsorship (contract : H160) : SponsorshipState T.CrossAccountId :=
  s.sponsoring.getD contract .disabled

/-- The confirmed sponsor. -/
def getSponsor (contract : H160) : Option T.CrossAccountId := (sponsorship s contract).sponsor

/-- The mode, with the lazy migration from the deprecated storage. -/
def sponsoringMode (contract : H160) : SponsoringModeT :=
  let legacyMode := if s.selfSponsoring.getD contract false then
    some SponsoringModeT.allowlisted else none
  (s.sponsoringMode.get contract <|> legacyMode).getD .disabled

/-- The highest fee that is sponsored. -/
def getSponsoringFeeLimit (contract : H160) : ℕ :=
  ((s.sponsoringFeeLimit.getD contract .empty).get allMethods).getD u256Max

/-- The user is on the list, or is the owner of the contract. -/
def allowed (contract user : H160) : Bool :=
  s.allowlist.getD (contract, user) false || contractOwner s contract = user

end Reading

/-! ## Writing -/

/-- Refuses all but the owner of the contract. -/
def ensureOwner (contract user : H160) : HelpersExec T Unit := do
  let s ← read
  ensure (contractOwner s contract = user) .noPermission

variable (contract : H160)

/-- Store a sponsorship, with its events and logs. -/
def putSponsorship (sponsorship : SponsorshipState T.CrossAccountId)
    (events : List (ContractHelpersEvent T)) (logs : List ContractHelpersLog) :
    HelpersExec T Unit :=
  update fun s =>
    { s with
      sponsoring := s.sponsoring.insert contract sponsorship
      events := s.events ++ events
      logs := s.logs ++ logs }

variable (sender : T.CrossAccountId)

/-- Proposes a sponsor. -/
def setSponsor (contract : H160) (sponsor : T.CrossAccountId) : HelpersExec T Unit := do
  ensureOwner contract (T.asEth sender)
  putSponsorship contract (.unconfirmed sponsor) [.contractSponsorSet contract (T.asSub sponsor)]
    [.contractSponsorSet contract (T.asEth sponsor)]

/-- The sponsor need not confirm. -/
def forceSetSponsor (sponsor : T.CrossAccountId) : HelpersExec T Unit :=
  putSponsorship contract (.confirmed sponsor)
    [.contractSponsorSet contract (T.asSub sponsor),
      .contractSponsorshipConfirmed contract (T.asSub sponsor)]
    [.contractSponsorSet contract (T.asEth sponsor),
      .contractSponsorshipConfirmed contract (T.asEth sponsor)]

/-- Removes a sponsor without any check. -/
def forceRemoveSponsor : HelpersExec T Unit :=
  update fun s =>
    { s with
      sponsoring := s.sponsoring.erase contract
      events := s.events ++ [.contractSponsorRemoved contract]
      logs := s.logs ++ [.contractSponsorRemoved contract] }

/-- Removes a sponsor. -/
def removeSponsor (contract : H160) : HelpersExec T Unit := do
  ensureOwner contract (T.asEth sender)
  forceRemoveSponsor contract

/-- The proposed sponsor agrees. -/
def confirmSponsorship (contract : H160) : HelpersExec T Unit := do
  let s ← read
  match sponsorship s contract with
  | .unconfirmed sponsor => do
    ensure (sponsor = sender) .noPermission
    putSponsorship contract (.confirmed sponsor)
      [.contractSponsorshipConfirmed contract (T.asSub sponsor)]
      [.contractSponsorshipConfirmed contract (T.asEth sponsor)]
  | .disabled => fail .noPendingSponsor
  | .confirmed _ => fail .noPendingSponsor

/-- Stores the mode. -/
def setSponsoringMode (mode : SponsoringModeT) : HelpersExec T Unit :=
  update fun s =>
    { s with
      sponsoringMode :=
        if mode = .disabled then s.sponsoringMode.erase contract
        else s.sponsoringMode.insert contract mode
      selfSponsoring := s.selfSponsoring.erase contract }

/-- Stores the blocks between sponsored calls. -/
def setSponsoringRateLimit (rateLimit : ℕ) : HelpersExec T Unit :=
  update fun s => { s with sponsoringRateLimit := s.sponsoringRateLimit.insert contract rateLimit }

/-- The map of limits is a bounded one: a new key may not be one too many. -/
def setSponsoringFeeLimit (feeLimit : ℕ) : HelpersExec T Unit := do
  let s ← read
  let limits := s.sponsoringFeeLimit.getD contract .empty
  ensure (limits.contains allMethods ∨ limits.support.card < maxFeeLimitedMethods)
    .tooManyMethodsHaveSponsoredLimit
  update fun s =>
    { s with
      sponsoringFeeLimit :=
        s.sponsoringFeeLimit.insert contract (limits.insert allMethods feeLimit) }

/-- Switches the allow list on or off. -/
def toggleAllowlist (enabled : Bool) : HelpersExec T Unit :=
  update fun s => { s with allowlistEnabled := s.allowlistEnabled.insert contract enabled }

/-- Puts a user on the allow list, or takes them off. -/
def toggleAllowed (contract user : H160) (isAllowed : Bool) : HelpersExec T Unit :=
  update fun s => { s with allowlist := s.allowlist.insert (contract, user) isAllowed }

/-! ## Calls -/

/-- The calls that reach the pallet: those of the magic contract, the deployment of a
contract, and the migration from the deprecated storage. -/
inductive Call where
  | setSponsor (caller contract sponsor : H160)
  | selfSponsoredEnable (caller contract : H160)
  | removeSponsor (caller contract : H160)
  | confirmSponsorship (caller contract : H160)
  | setSponsoringMode (caller contract : H160) (mode : SponsoringModeT)
  | setSponsoringRateLimit (caller contract : H160) (rateLimit : BitVec 32)
  | setSponsoringFeeLimit (caller contract : H160) (feeLimit : BitVec 256)
  | toggleAllowed (caller contract user : H160) (isAllowed : Bool)
  | toggleAllowlist (caller contract : H160) (enabled : Bool)
  | onCreate (owner contract : H160)
  | migrateFromSelfSponsoring (addresses : List H160)

/-- The creator of a contract owns it. -/
def onCreate (owner contract : H160) : HelpersExec T Unit :=
  update fun s => { s with owner := s.owner.insert contract owner }

/-- Contracts that paid for themselves become their sponsors. -/
def migrateFromSelfSponsoring (addresses : List H160) : HelpersExec T Unit :=
  forEach (fun address => update fun s =>
    if s.selfSponsoring.getD address false then
      { s with
        sponsoringMode := s.sponsoringMode.insert address .allowlisted
        selfSponsoring := s.selfSponsoring.erase address }
    else s) addresses

/-- A setting that only the owner of the contract may change. -/
def asOwner (caller contract : H160) (body : HelpersExec T Unit) : HelpersExec T Unit := do
  ensureOwner contract caller
  body

/-- What a call does. -/
def Call.execute : Call → HelpersExec T Unit
  | .setSponsor caller contract sponsor =>
    ContractHelpers.setSponsor (T.fromEth caller) contract (T.fromEth sponsor)
  | .selfSponsoredEnable caller contract =>
    asOwner (T.asEth (T.fromEth caller)) contract
      (forceSetSponsor contract (T.fromEth contract))
  | .removeSponsor caller contract => ContractHelpers.removeSponsor (T.fromEth caller) contract
  | .confirmSponsorship caller contract =>
    ContractHelpers.confirmSponsorship (T.fromEth caller) contract
  | .setSponsoringMode caller contract mode =>
    asOwner caller contract (ContractHelpers.setSponsoringMode contract mode)
  | .setSponsoringRateLimit caller contract rateLimit =>
    asOwner caller contract (ContractHelpers.setSponsoringRateLimit contract rateLimit.toNat)
  | .setSponsoringFeeLimit caller contract feeLimit =>
    asOwner caller contract (ContractHelpers.setSponsoringFeeLimit contract feeLimit.toNat)
  | .toggleAllowed caller contract user isAllowed =>
    asOwner caller contract (ContractHelpers.toggleAllowed contract user isAllowed)
  | .toggleAllowlist caller contract enabled =>
    asOwner caller contract (ContractHelpers.toggleAllowlist contract enabled)
  | .onCreate owner contract => ContractHelpers.onCreate owner contract
  | .migrateFromSelfSponsoring addresses => ContractHelpers.migrateFromSelfSponsoring addresses

end ContractHelpers

/-! ## The decision -/

namespace HelpersContractSponsoring

open ContractHelpers

variable {T : Config}

/-- The rate limit of a contract, or the one of the chain where none is set. -/
def rateLimit (defaultRateLimit : ℕ) (s : ContractHelpersStorage T) (contract : H160) : ℕ :=
  s.sponsoringRateLimit.getD contract defaultRateLimit

/-- The sponsor of a call, if there is one who pays for it now.  Block numbers have 32
bits, and the sum of two is not a checked one. -/
def getSponsor {Input : Type} (defaultRateLimit blockNumber : ℕ) (who : T.CrossAccountId)
    (callContext : CallContext Input) :
    Execution Refusal (ContractHelpersStorage T) T.CrossAccountId := do
  let s ← read
  let contract := callContext.contractAddress
  let mode := sponsoringMode s contract
  ensure (mode ≠ .disabled) .declined
  let sponsor ← okOr (ContractHelpers.getSponsor s contract) .declined
  ensure (¬ (mode = .allowlisted ∧ allowed s contract (T.asEth who) = false)) .declined
  ensure ((s.sponsorBasket.get (contract, T.asEth who)).all (fun lastTxBlock =>
    (lastTxBlock + rateLimit defaultRateLimit s contract) % 2 ^ 32 ≤ blockNumber) = true) .declined
  ensure (callContext.maxFee ≤ getSponsoringFeeLimit s contract) .declined
  update fun s =>
    { s with sponsorBasket := s.sponsorBasket.insert (contract, T.asEth who) blockNumber }
  pure sponsor

end HelpersContractSponsoring

end UniqueChain
