import Mathlib.Data.Fintype.BigOperators
import UniqueChain.ForeignAssets.Reference
import UniqueChain.ForeignAssets.Users
import UniqueChain.Fungible.Ledger
import UniqueChain.Nonfungible.Ledger

/-!
# A withdrawal that is deposited again

What an account withdraws from this chain should be there again after it is
deposited for the same account.  For an NFT the two operations are a transfer to
the pallet account and one back; for a fungible asset they are a burn by the holder
and a mint by the pallet account.  A mint needs the right to mint, which the pallet
account has in the collections it registered, but not in the local ones: there a
withdrawal can be a loss.
-/

namespace UniqueChain

open Execution CollectionDispatch FiniteMap

variable {T : Config} {X : XcmConfig T} {x x' : XcmState X}

variable {handle : CollectionHandle T} {depositor : T.CrossAccountId}

/-- Mints and burns of the native currency are exact, and what was burnt can be
minted again. -/
structure ExactCurrency (X : XcmConfig T) (totalIssuance : T.Balances → ℕ) : Prop where
  burn : ∀ {balances after account amount}, X.burnFrom balances account amount = some after →
    T.balance after account + amount = T.balance balances account ∧
      totalIssuance after + amount = totalIssuance balances
  mint : ∀ {balances after account amount}, X.mintInto balances account amount = some after →
    T.balance after account = T.balance balances account + amount ∧
      totalIssuance after = totalIssuance balances + amount
  mintBurnt : ∀ {balances after account amount}, X.burnFrom balances account amount = some after →
    (X.mintInto after account amount).isSome

/-! ## Resolved assets -/

/-- What an operation finds for an asset. -/
structure Resolves (x : XcmState X) (assetId : AssetId) (locality : CollectionLocality)
    (kind : CollectionDispatch T) : Prop where
  asset : assetToCollection X x.foreign assetId = some locality
  found : dispatch x.chain locality.collection = some kind

/-- The kind of the collection of an asset. -/
def kindOfAsset (x : XcmState X) (assetId : AssetId) : Option (CollectionDispatch T) :=
  (assetToCollection X x.foreign assetId).bind fun locality =>
    dispatch x.chain locality.collection

/-- The token that stands for an instance of an asset. -/
def tokenOfInstance (x : XcmState X) (assetId : AssetId) (assetInstance : AssetInstance) :
    Option TokenId :=
  (assetToCollection X x.foreign assetId).bind fun locality =>
    assetInstanceToTokenId x.foreign locality assetInstance

/-- What is found depends on the collections only. -/
theorem Resolves.of_common {assetId : AssetId} {locality : CollectionLocality}
    {kind : CollectionDispatch T} {chain : State T} (hresolves : Resolves x assetId locality kind)
    (hcommon : chain.common = x.chain.common) : Resolves { x with chain } assetId locality kind :=
  ⟨hresolves.asset, (dispatch_congr hcommon).trans hresolves.found⟩

theorem kindOfAsset_eq_some {assetId : AssetId} {kind : CollectionDispatch T} :
    kindOfAsset x assetId = some kind ↔ ∃ locality, Resolves x assetId locality kind := by
  unfold kindOfAsset
  rw [Option.bind_eq_some_iff]
  exact ⟨fun ⟨locality, hasset, hfound⟩ => ⟨locality, hasset, hfound⟩,
    fun ⟨locality, hresolves⟩ => ⟨locality, hresolves.asset, hresolves.found⟩⟩

section Calls

variable {assetId : AssetId} {locality : CollectionLocality} {kind : CollectionDispatch T}
  {location : Location} {account : T.CrossAccountId} {amount : ℕ} {assetInstance : AssetInstance}
  {token : TokenId}

section

variable (hresolves : Resolves x assetId locality kind)

include hresolves

section

variable (havailable : XcmExtensions.available kind = true)

include havailable

theorem Resolves.bind_ok {error : XcmError} {α : Type} {result : α}
    {next : CollectionLocality × CollectionDispatch T → XcmExec X α} :
    (resolveAsset assetId error >>= next).run x = .ok result x' ↔
      (next (locality, kind)).run x = .ok result x' := by
  rw [Execution.bind_ok]
  constructor
  · rintro ⟨⟨_, _⟩, _, hresolve, hnext⟩
    obtain ⟨⟨hasset, hfound, _⟩, rfl⟩ := resolveAsset_ok.mp hresolve
    cases hresolves.asset.symm.trans hasset
    cases hresolves.found.symm.trans hfound
    exact hnext
  · intro hnext
    exact ⟨_, x, resolveAsset_ok.mpr ⟨⟨hresolves.asset, hresolves.found, havailable⟩, rfl⟩, hnext⟩

section

variable (haccount : X.locationToAccountId location = some account)

include haccount

theorem withdraw_fungible :
    xcmStep x (.withdrawAsset ⟨assetId, .fungible amount⟩ location) = some x' ↔
      ∃ chain, (XcmExtensions.burnItem X account Fungible.defaultToken amount kind).run
        (x.chain.setBudget 0) = .ok () chain ∧ { x with chain } = x' := by
  rw [xcmStep_eq_some]
  simp only [XcmCall.execute, withdrawAsset, haccount, okOr_bind_ok, Option.some.injEq,
    exists_eq_left', hresolves.bind_ok havailable, onChain_ok]

theorem deposit_fungible :
    xcmStep x (.depositAsset ⟨assetId, .fungible amount⟩ location) = some x' ↔
      ∃ token chain, (XcmExtensions.createItem X X.palletAccount account kind
        (.fungible amount)).run (x.chain.setBudget 0) = .ok token chain ∧
        { x with chain } = x' := by
  rw [xcmStep_eq_some]
  simp only [XcmCall.execute, depositAsset, haccount, okOr_bind_ok, Option.some.injEq,
    exists_eq_left', hresolves.bind_ok havailable]
  simp only [Execution.bind_ok, onChain_ok, pure_ok, true_and]
  constructor
  · rintro ⟨token, _, ⟨chain, hcreate, rfl⟩, rfl⟩
    exact ⟨token, chain, hcreate, rfl⟩
  · rintro ⟨token, chain, hcreate, rfl⟩
    exact ⟨token, _, ⟨chain, hcreate, rfl⟩, rfl⟩

section

variable (htoken : assetInstanceToTokenId x.foreign locality assetInstance = some token)

include htoken

theorem withdraw_instance :
    xcmStep x (.withdrawAsset ⟨assetId, .nonFungible assetInstance⟩ location) = some x' ↔
      ∃ chain, (XcmExtensions.transferItem account account X.palletAccount token 1 kind).run
        (x.chain.setBudget 0) = .ok () chain ∧ { x with chain } = x' := by
  rw [xcmStep_eq_some]
  simp only [XcmCall.execute, withdrawAsset, haccount, okOr_bind_ok, Option.some.injEq,
    exists_eq_left', hresolves.bind_ok havailable, withdrawAssetInstance, read_bind_ok, htoken,
    onChain_ok]

theorem deposit_instance :
    xcmStep x (.depositAsset ⟨assetId, .nonFungible assetInstance⟩ location) = some x' ↔
      ∃ chain, (XcmExtensions.transferItem X.palletAccount X.palletAccount account token 1 kind).run
        (x.chain.setBudget 0) = .ok () chain ∧ { x with chain } = x' := by
  rw [xcmStep_eq_some]
  simp only [XcmCall.execute, depositAsset, haccount, okOr_bind_ok, Option.some.injEq,
    exists_eq_left', hresolves.bind_ok havailable, depositAssetInstance, read_bind_ok, htoken,
    onChain_ok]

end

end

end

end

end Calls

/-! ## The three round trips -/

section RoundTrips

variable {assetId : AssetId} {locality : CollectionLocality} {location : Location}
  {account : T.CrossAccountId} {amount : ℕ}

/-- What was burnt of the native currency is minted again. -/
theorem native_roundTrip {totalIssuance : T.Balances → ℕ} (hexact : ExactCurrency X totalIssuance)
    (hresolves : Resolves x assetId locality .nativeFungible)
    (haccount : X.locationToAccountId location = some account)
    (huser : T.addressToToken account = none)
    (hwithdraw : xcmStep x (.withdrawAsset ⟨assetId, .fungible amount⟩ location) = some x') :
    ∃ x'', xcmStep x' (.depositAsset ⟨assetId, .fungible amount⟩ location) = some x'' ∧
      T.balance x''.chain.balances (T.asSub account) =
        T.balance x.chain.balances (T.asSub account) ∧
      totalIssuance x''.chain.balances = totalIssuance x.chain.balances := by
  obtain ⟨chain, hburn, rfl⟩ := (withdraw_fungible hresolves rfl haccount).mp hwithdraw
  simp only [XcmExtensions.burnItem, ensure_bind_ok, read_bind_ok, okOr_bind_ok, update_ok] at hburn
  obtain ⟨_, burnt, hburnt, rfl⟩ := hburn
  obtain ⟨minted, hminted⟩ := Option.isSome_iff_exists.mp (hexact.mintBurnt hburnt)
  obtain ⟨hless, hissued⟩ := hexact.burn hburnt
  obtain ⟨hmore, hissuance⟩ := hexact.mint hminted
  have hcreate : (XcmExtensions.createItem X X.palletAccount account .nativeFungible
      (.fungible amount)).run (((x.chain.setBudget 0).setBalances burnt).setBudget 0) =
      .ok Fungible.defaultToken ((x.chain.setBudget 0).setBalances minted) := by
    simp only [XcmExtensions.createItem, XcmExtensions.createItemInternal, ensure_bind_ok,
      read_bind_ok, okOr_bind_ok, update_bind_ok, pure_ok]
    exact ⟨huser, minted, hminted, trivial, rfl⟩
  have hcommon : ((x.chain.setBudget 0).setBalances burnt).common = x.chain.common := rfl
  have hdeposit := (deposit_fungible (hresolves.of_common hcommon) rfl haccount).mpr
    ⟨_, _, hcreate, rfl⟩
  exact ⟨_, hdeposit, hmore.trans hless, hissuance.trans hissued⟩

/-- The right to mint for an account. -/
def MayMint (s : State T) (handle : CollectionHandle T) (depositor account : T.CrossAccountId) :
    Prop :=
  handle.isOwnerOrAdmin s depositor = true ∨
    handle.collection.permissions.mintMode = true ∧
      handle.allowlisted s depositor = true ∧ handle.allowlisted s account = true

theorem mayMint_congr {s s' : State T} (hcommon : s'.common = s.common) :
    MayMint s' handle depositor account ↔ MayMint s handle depositor account := by
  unfold MayMint CollectionHandle.isOwnerOrAdmin CollectionHandle.allowlisted
  rw [hcommon]

/-- What was burnt of a fungible collection is minted again if the pallet account
may mint in it. -/
theorem fungible_roundTrip_iff (hledger : Fungible.Ledger x.chain.fungible)
    (hresolves : Resolves x assetId locality (.fungible handle))
    (haccount : X.locationToAccountId location = some account)
    (huser : T.addressToToken account = none)
    (hwithdraw : xcmStep x (.withdrawAsset ⟨assetId, .fungible amount⟩ location) = some x') :
    (∃ x'', xcmStep x' (.depositAsset ⟨assetId, .fungible amount⟩ location) = some x'' ∧
      Fungible.balanceOf x''.chain handle.id account =
        Fungible.balanceOf x.chain handle.id account ∧
      x''.chain.fungible.totalSupply.getD handle.id 0 =
        x.chain.fungible.totalSupply.getD handle.id 0) ↔
    MayMint x.chain handle X.palletAccount account ∧ isCollection (T.asEth account) = false := by
  obtain ⟨chain, hburn, rfl⟩ := (withdraw_fungible hresolves rfl haccount).mp hwithdraw
  obtain ⟨_, hburn⟩ := ensure_bind_ok.mp hburn
  obtain ⟨hchecks, hstorage⟩ := Fungible.burn_ok hburn
  obtain ⟨hcommon, _, hfungible, _⟩ := State.storage_eq_iff.mp hstorage
  have hbudget : (chain.setBudget 0).common = x.chain.common := hcommon
  have hsupply : (chain.setBudget 0).fungible.totalSupply.getD handle.id 0 + amount =
      x.chain.fungible.totalSupply.getD handle.id 0 := by
    show chain.fungible.totalSupply.getD handle.id 0 + amount = _
    rw [hfungible]
    simp only [Fungible.burntState, State.setChildren_fungible, State.mapFungible,
      getD_insert, if_pos]
    exact Nat.sub_add_cancel hchecks.supplied
  have hbalance : Fungible.balanceOf (chain.setBudget 0) handle.id account + amount =
      Fungible.balanceOf x.chain handle.id account := by
    show chain.fungible.balance.getD (handle.id, account) 0 + amount = _
    rw [hfungible]
    simp only [Fungible.burntState, State.setChildren_fungible, State.mapFungible,
      getD_putAmount, if_pos]
    exact Nat.sub_add_cancel hchecks.covered
  have hwidth := hledger.width handle.id
  have hsmaller := hledger.balance_le handle.id account
  have hsucceeds : (∃ s', (Fungible.createMultipleItems handle X.palletAccount
      ⟨[(account, amount)], List.nodup_singleton _⟩).run (chain.setBudget 0) = .ok () s') ↔
      MayMint x.chain handle X.palletAccount account ∧ isCollection (T.asEth account) = false := by
    rw [Fungible.createMultipleItems_succeeds_iff_of_user huser, hsupply, hbalance]
    constructor
    · rintro ⟨hmay, _, _, hcollection⟩
      exact ⟨(mayMint_congr hbudget).mp hmay, hcollection⟩
    · rintro ⟨hmay, hcollection⟩
      exact ⟨(mayMint_congr hbudget).mpr hmay, hwidth, Nat.le_trans hsmaller hwidth, hcollection⟩
  rw [← hsucceeds]
  constructor
  · rintro ⟨x'', hdeposit, _⟩
    obtain ⟨token, s, hcreate, _⟩ :=
      (deposit_fungible (hresolves.of_common hcommon) rfl haccount).mp hdeposit
    obtain ⟨_, hcreate⟩ := ensure_bind_ok.mp hcreate
    obtain ⟨s₁, hcreate, _⟩ := bind_unit_ok.mp hcreate
    exact ⟨s₁, hcreate⟩
  · rintro ⟨s, hcreate⟩
    have hitem : (XcmExtensions.createItem X X.palletAccount account (.fungible handle)
        (.fungible amount)).run (chain.setBudget 0) = .ok Fungible.defaultToken s :=
      ensure_bind_ok.mpr ⟨huser, bind_unit_ok.mpr ⟨s, hcreate, pure_ok.mpr ⟨rfl, rfl⟩⟩⟩
    have hdeposit := (deposit_fungible (hresolves.of_common hcommon) rfl haccount).mpr
      ⟨_, _, hitem, rfl⟩
    refine ⟨_, hdeposit, ?_⟩
    obtain ⟨_, hstorage⟩ := Fungible.createMultipleItems_ok hcreate
    have hminted := (State.storage_eq_iff.mp hstorage).2.2.1
    constructor
    · rw [← hbalance]
      show s.fungible.balance.getD (handle.id, account) 0 = _
      rw [hminted]
      simp [Fungible.mintedState, State.mapFungible, Fungible.mintedBalance, getD_insert]
    · rw [← hsupply]
      show s.fungible.totalSupply.getD handle.id 0 = _
      rw [hminted]
      simp [Fungible.mintedState, State.mapFungible, AssocMap.values, getD_insert]

section Return

variable {s s' : State T} {handle : CollectionHandle T} {from' to' : T.CrossAccountId}
  {token : TokenId}

/-- A transfer between accounts that are no tokens changes no children. -/
theorem Nonfungible.tokenHasChildren_of_transfer_user (hfrom : T.addressToToken from' = none)
    (hto : T.addressToToken to' = none)
    (hrun : (Nonfungible.transferInternal handle depositor from' to' token).run s = .ok () s')
    (other : Token) :
    Nonfungible.tokenHasChildren s' other = Nonfungible.tokenHasChildren s other := by
  obtain ⟨_, hstorage⟩ := Nonfungible.transferInternal_ok hrun
  have hnonfungible := (State.storage_eq_iff.mp hstorage).2.1
  unfold Nonfungible.tokenHasChildren
  rw [hnonfungible, nestingParent_of_not_token hfrom, nestingParent_of_not_token hto]
  rfl

/-- When a token that was sent can be sent back. -/
theorem Nonfungible.return_succeeds_iff (depositor : T.CrossAccountId)
    (hfrom : T.addressToToken from' = none) (hto : T.addressToToken to' = none)
    (hrun : (Nonfungible.transferInternal handle from' from' to' token).run s = .ok () s')
    (budget : ℕ) :
    (∃ s'', (Nonfungible.transferInternal handle depositor to' from' token).run
        (s'.setBudget budget) = .ok () s'') ↔
      T.zeroAccount ≠ from' ∧ isCollection (T.asEth from') = false ∧
        (from' ≠ to' → s.nonfungible.accountBalance.getD (handle.id, from') 0 ≤
          handle.collection.limits.accountTokenOwnershipLimit) := by
  obtain ⟨hchecks, hstorage⟩ := Nonfungible.transferInternal_ok hrun
  obtain ⟨henabled, _⟩ := (Nonfungible.transferInternal_succeeds_iff hto).mp ⟨s', hrun⟩
  obtain ⟨hcommon, hnonfungible, _⟩ := State.storage_eq_iff.mp hstorage
  have howned : (s'.setBudget budget).nonfungible.tokenData.get (handle.id, token) =
      some ⟨to'⟩ := by
    show s'.nonfungible.tokenData.get (handle.id, token) = some ⟨to'⟩
    rw [hnonfungible]
    exact get_insert_self ..
  have hlisted : ∀ user, handle.allowlisted (s'.setBudget budget) user =
      handle.allowlisted s user := by
    intro user
    unfold CollectionHandle.allowlisted
    show s'.common.allowlist.getD _ _ = _
    rw [hcommon]
    rfl
  -- the counters of the two accounts after the first transfer
  have hcounters : s'.nonfungible.accountBalance = if from' = to' then
      s.nonfungible.accountBalance
    else (s.nonfungible.accountBalance.putAmount (handle.id, from')
        (s.nonfungible.accountBalance.getD (handle.id, from') 0 - 1)).insert (handle.id, to')
      (s.nonfungible.accountBalance.getD (handle.id, to') 0 + 1) := by
    rw [hnonfungible]
    rfl
  have hreceiver : 1 ≤ s'.nonfungible.accountBalance.getD (handle.id, to') 0 := by
    rw [hcounters]
    split
    · rename_i hsame
      rw [← hsame]
      exact hchecks.counted
    · rw [getD_insert, if_pos rfl]
      exact Nat.le_add_left _ _
  have hsender : from' ≠ to' → s'.nonfungible.accountBalance.getD (handle.id, from') 0 + 1 =
      s.nonfungible.accountBalance.getD (handle.id, from') 0 := by
    intro hne
    have hkey : (handle.id, from') ≠ (handle.id, to') := fun heq => hne (Prod.mk.inj heq).2
    rw [hcounters, if_neg hne, getD_insert, if_neg hkey, getD_putAmount, if_pos rfl]
    exact Nat.sub_add_cancel hchecks.counted
  rw [Nonfungible.transferInternal_succeeds_iff hfrom]
  constructor
  · rintro ⟨_, _, _, hzero, _, hlimit, hcollection⟩
    refine ⟨hzero, hcollection, fun hne => ?_⟩
    rw [← hsender hne]
    exact hlimit hne.symm
  · rintro ⟨hzero, hcollection, hlimit⟩
    refine ⟨henabled, howned, fun hlist => ?_, hzero, hreceiver, fun hne => ?_, hcollection⟩
    · rw [hlisted, hlisted]
      exact (hchecks.access hlist).symm
    · show s'.nonfungible.accountBalance.getD (handle.id, from') 0 + 1 ≤ _
      rw [hsender hne.symm]
      exact hlimit hne.symm

theorem Nonfungible.totalSupply_of_transfer
    (hrun : (Nonfungible.transferInternal handle depositor from' to' token).run s = .ok () s')
    (collection : CollectionId) :
    Nonfungible.totalSupply s' collection = Nonfungible.totalSupply s collection := by
  obtain ⟨_, hstorage⟩ := Nonfungible.transferInternal_ok hrun
  unfold Nonfungible.totalSupply
  rw [(State.storage_eq_iff.mp hstorage).2.1]
  rfl

end Return

/-- An NFT comes back if its owner may receive it. -/
theorem instance_roundTrip_iff {assetInstance : AssetInstance}
    (hresolves : Resolves x assetId locality (.nonfungible handle))
    (haccount : X.locationToAccountId location = some account)
    (huser : T.addressToToken account = none)
    (hwithdraw : xcmStep x (.withdrawAsset ⟨assetId, .nonFungible assetInstance⟩ location) =
      some x') :
    (∃ x'', xcmStep x' (.depositAsset ⟨assetId, .nonFungible assetInstance⟩ location) = some x'' ∧
      (∃ token, assetInstanceToTokenId x.foreign locality assetInstance = some token ∧
        x''.chain.nonfungible.tokenData.get (handle.id, token) = some ⟨account⟩) ∧
      Nonfungible.totalSupply x''.chain handle.id = Nonfungible.totalSupply x.chain handle.id) ↔
    T.zeroAccount ≠ account ∧ isCollection (T.asEth account) = false ∧
      (account ≠ X.palletAccount →
        x.chain.nonfungible.accountBalance.getD (handle.id, account) 0 ≤
          handle.collection.limits.accountTokenOwnershipLimit) := by
  have htoken : ∃ token, assetInstanceToTokenId x.foreign locality assetInstance = some token := by
    have hrun := xcmStep_eq_some.mp hwithdraw
    simp only [XcmCall.execute, withdrawAsset, haccount, okOr_bind_ok, Option.some.injEq,
      exists_eq_left', hresolves.bind_ok rfl, withdrawAssetInstance, read_bind_ok] at hrun
    exact ⟨hrun.choose, hrun.choose_spec.1⟩
  obtain ⟨token, htoken⟩ := htoken
  obtain ⟨chain, hsend, rfl⟩ := (withdraw_instance hresolves rfl haccount htoken).mp hwithdraw
  simp only [XcmExtensions.transferItem, ensure_bind_ok, read_bind_ok] at hsend
  obtain ⟨hpallet, hchildless, hsend⟩ := hsend
  obtain ⟨_, hsend⟩ := ensure_bind_ok.mp hsend
  have hcommon : chain.common = x.chain.common :=
    (State.storage_eq_iff.mp (Nonfungible.transferInternal_ok hsend).2).1
  have hstill : Nonfungible.tokenHasChildren (chain.setBudget 0) (handle.id, token) = false :=
    (Nonfungible.tokenHasChildren_of_transfer_user huser hpallet hsend _).trans hchildless
  have hdeposit : ∀ {x''}, xcmStep { x with chain }
      (.depositAsset ⟨assetId, .nonFungible assetInstance⟩ location) = some x'' ↔
        ∃ s, (Nonfungible.transferInternal handle X.palletAccount X.palletAccount account
          token).run (chain.setBudget 0) = .ok () s ∧ { x with chain := s } = x'' := by
    intro x''
    rw [deposit_instance (hresolves.of_common hcommon) rfl haccount htoken]
    simp only [XcmExtensions.transferItem, XcmExtensions.transferItemInternal,
      XcmExtensions.tokenHasChildren, ensure_bind_ok, read_bind_ok, huser, hstill, true_and]
  refine Iff.trans ?_ (Nonfungible.return_succeeds_iff X.palletAccount huser hpallet hsend 0)
  constructor
  · rintro ⟨x'', hx'', _⟩
    obtain ⟨s, hreturn, _⟩ := hdeposit.mp hx''
    exact ⟨s, hreturn⟩
  · rintro ⟨s, hreturn⟩
    refine ⟨_, hdeposit.mpr ⟨s, hreturn, rfl⟩, ⟨token, htoken, ?_⟩, ?_⟩
    · have hstorage := (Nonfungible.transferInternal_ok hreturn).2
      show s.nonfungible.tokenData.get (handle.id, token) = some ⟨account⟩
      rw [(State.storage_eq_iff.mp hstorage).2.1]
      exact get_insert_self ..
    · calc Nonfungible.totalSupply s handle.id
          = Nonfungible.totalSupply chain handle.id :=
            Nonfungible.totalSupply_of_transfer hreturn handle.id
        _ = Nonfungible.totalSupply x.chain handle.id :=
            Nonfungible.totalSupply_of_transfer hsend handle.id

end RoundTrips

/-! ## All assets -/

/-- The native currency and fungible collections have amounts, NFT collections have
instances. -/
def XcmAsset.Regular (x : XcmState X) (what : XcmAsset) : Prop :=
  match kindOfAsset x what.id, what.fungibility with
  | some .nativeFungible, .fungible _ => True
  | some (.fungible _), .fungible _ => True
  | some (.nonfungible _), .nonFungible _ => True
  | _, _ => False

/-- The account has in `x'` what it had in `x` of the asset, and the supply is the
same. -/
def XcmAsset.Restored (totalIssuance : T.Balances → ℕ) (account : T.CrossAccountId)
    (x x' : XcmState X) (what : XcmAsset) : Prop :=
  match kindOfAsset x what.id, what.fungibility with
  | some .nativeFungible, _ =>
    T.balance x'.chain.balances (T.asSub account) =
      T.balance x.chain.balances (T.asSub account) ∧
    totalIssuance x'.chain.balances = totalIssuance x.chain.balances
  | some (.fungible handle), _ =>
    Fungible.balanceOf x'.chain handle.id account =
      Fungible.balanceOf x.chain handle.id account ∧
    x'.chain.fungible.totalSupply.getD handle.id 0 =
      x.chain.fungible.totalSupply.getD handle.id 0
  | some (.nonfungible handle), .nonFungible assetInstance =>
    (∃ token, tokenOfInstance x what.id assetInstance = some token ∧
      x'.chain.nonfungible.tokenData.get (handle.id, token) = some ⟨account⟩) ∧
    Nonfungible.totalSupply x'.chain handle.id = Nonfungible.totalSupply x.chain handle.id
  | _, _ => False

/-- The asset can be given back to the account: the pallet account may mint the
fungible asset for it, or the account may receive the NFT. -/
def XcmAsset.Returnable (account : T.CrossAccountId) (x : XcmState X) (what : XcmAsset) : Prop :=
  match kindOfAsset x what.id with
  | some (.fungible handle) =>
    MayMint x.chain handle X.palletAccount account ∧ isCollection (T.asEth account) = false
  | some (.nonfungible handle) =>
    T.zeroAccount ≠ account ∧ isCollection (T.asEth account) = false ∧
      (account ≠ X.palletAccount →
        x.chain.nonfungible.accountBalance.getD (handle.id, account) 0 ≤
          handle.collection.limits.accountTokenOwnershipLimit)
  | _ => True

/-- What an account withdraws is there again after a deposit for it, exactly if the
asset can be given back to it. -/
theorem withdraw_then_deposit_lossless_iff {totalIssuance : T.Balances → ℕ}
    (hexact : ExactCurrency X totalIssuance) {balances : T.Balances}
    {history : List (CallRecord (XcmState X) (XcmCall X))} (hrun : XcmReaches balances history x)
    {what : XcmAsset} (hregular : what.Regular x) {location : Location}
    {account : T.CrossAccountId} (haccount : X.locationToAccountId location = some account)
    (huser : T.addressToToken account = none)
    (hwithdraw : xcmStep x (.withdrawAsset what location) = some x') :
    (∃ x'', xcmStep x' (.depositAsset what location) = some x'' ∧
      what.Restored totalIssuance account x x'') ↔ what.Returnable account x := by
  obtain ⟨assetId, fungibility⟩ := what
  cases hkind : kindOfAsset x assetId with
  | none => simp [XcmAsset.Regular, hkind] at hregular
  | some kind =>
    obtain ⟨locality, hresolves⟩ := kindOfAsset_eq_some.mp hkind
    cases kind with
    | refungible handle => simp [XcmAsset.Regular, hkind] at hregular
    | nativeFungible =>
      cases fungibility with
      | nonFungible assetInstance => simp [XcmAsset.Regular, hkind] at hregular
      | fungible amount =>
        simp only [XcmAsset.Restored, XcmAsset.Returnable, hkind, iff_true]
        exact native_roundTrip hexact hresolves haccount huser hwithdraw
    | fungible handle =>
      cases fungibility with
      | nonFungible assetInstance => simp [XcmAsset.Regular, hkind] at hregular
      | fungible amount =>
        have hledger : Fungible.Ledger x.chain.fungible :=
          hrun.chain_invariant (OfStorage.fungible Fungible.Ledger) .empty
            fun _ _ _ hledger hstep => hstep.pallets.fungible.ledger hledger
        simp only [XcmAsset.Restored, XcmAsset.Returnable, hkind]
        exact fungible_roundTrip_iff hledger hresolves haccount huser hwithdraw
    | nonfungible handle =>
      cases fungibility with
      | fungible amount => simp [XcmAsset.Regular, hkind] at hregular
      | nonFungible assetInstance =>
        simp only [XcmAsset.Restored, XcmAsset.Returnable, hkind, tokenOfInstance,
          hresolves.asset, Option.bind_some]
        exact instance_roundTrip_iff hresolves haccount huser hwithdraw

/-! ## Examples -/

namespace reference

instance : Fintype ReferenceAccount :=
  .ofEquiv (Fin (2 ^ 64) ⊕ Fin (2 ^ 160))
    { toFun := fun
        | .inl key => .substrate (.ofFin key)
        | .inr address => .ethereum (.ofFin address)
      invFun := fun
        | .substrate key => .inl key.toFin
        | .ethereum address => .inr address.toFin
      left_inv := fun number => by cases number <;> rfl
      right_inv := fun account => by cases account <;> rfl }

/-- What all accounts have together. -/
def totalIssuance (balances : ReferenceAccount → ℕ) : ℕ := ∑ account, balances account

theorem totalIssuance_update (balances : ReferenceAccount → ℕ) (account : ReferenceAccount)
    (balance : ℕ) :
    totalIssuance (Function.update balances account balance) + balances account =
      totalIssuance balances + balance := by
  have hothers := Finset.sum_update_of_mem (Finset.mem_univ account) balances balance
  have hall := Finset.sum_eq_add_sum_sdiff_singleton_of_mem (Finset.mem_univ account) balances
  unfold totalIssuance
  omega

theorem burn_exact {balances after : ReferenceAccount → ℕ} {account : ReferenceAccount}
    {amount : ℕ} (hburn : parachain.burnFrom balances account amount = some after) :
    after account + amount = balances account ∧
      totalIssuance after + amount = totalIssuance balances := by
  obtain ⟨hcovered, hafter⟩ := Option.ite_none_right_eq_some.mp hburn
  cases hafter
  have htotal := totalIssuance_update balances account (balances account - amount)
  constructor
  · rw [Function.update_self]
    exact Nat.sub_add_cancel hcovered
  · omega

theorem mint_exact (balances : ReferenceAccount → ℕ) (account : ReferenceAccount) (amount : ℕ) :
    Function.update balances account (balances account + amount) account =
        balances account + amount ∧
      totalIssuance (Function.update balances account (balances account + amount)) =
        totalIssuance balances + amount := by
  have htotal := totalIssuance_update balances account (balances account + amount)
  constructor
  · rw [Function.update_self]
  · omega

theorem exactCurrency_parachain : ExactCurrency parachain totalIssuance where
  burn := burn_exact
  mint := by
    intro balances after account amount hmint
    cases hmint
    exact mint_exact balances account amount
  mintBurnt := fun _ => rfl

end reference

open reference in
/-- A foreign asset: the pallet account owns its collection. -/
theorem withdraw_then_deposit_lossless_foreign :
    let calls : List (XcmCall parachain) := [.forceRegisterForeignAsset moonbeam [] (.fungible 18),
      .depositAsset ⟨moonbeam, .fungible 7⟩ atAlice]
    let what : XcmAsset := ⟨moonbeam, .fungible 3⟩
    ∃ (hcalls : (xcmHistory? calls).isSome)
      (hwithdraw : (xcmStep (xcmStateOf calls hcalls) (.withdrawAsset what atAlice)).isSome),
      ∃ x, xcmStep ((xcmStep (xcmStateOf calls hcalls) (.withdrawAsset what atAlice)).get hwithdraw)
          (.depositAsset what atAlice) = some x ∧
        what.Restored totalIssuance ReferenceAccount.alice (xcmStateOf calls hcalls) x := by
  refine ⟨by decide +kernel, by decide +kernel, ?_⟩
  refine (withdraw_then_deposit_lossless_iff exactCurrency_parachain (run_replay _ _ _ _)
    (by trivial) rfl (by decide +kernel) (Option.some_get _).symm).mpr ?_
  exact ⟨.inl (by decide +kernel), by decide +kernel⟩

open reference in
/-- A local collection: what its holder withdraws cannot be deposited again. -/
theorem withdraw_local_fungible_lost :
    let calls : List (XcmCall parachain) := [.extrinsic (reference.create (.fungible 0)),
      .extrinsic ⟨.fungible 1 (.createMultipleItems ReferenceAccount.alice
        (AssocMap.empty.insert ReferenceAccount.bob 7)), 5⟩,
      .withdrawAsset ⟨⟨0, [.generalIndex 1]⟩, .fungible 3⟩ atBob]
    ∃ hcalls : (xcmHistory? calls).isSome,
      let x := xcmStateOf calls hcalls
      XcmReaches noBalances (xcmHistoryOf calls hcalls) x ∧
        reference.addressToToken ReferenceAccount.bob = none ∧
        Fungible.balanceOf x.chain 1 ReferenceAccount.bob = 4 ∧
        x.chain.fungible.totalSupply.getD 1 0 = 4 ∧
        (xcmStep x (.depositAsset ⟨⟨0, [.generalIndex 1]⟩, .fungible 3⟩ atBob)).isNone := by
  exact ⟨by decide +kernel, run_replay _ _ _ _, by decide +kernel⟩

end UniqueChain
