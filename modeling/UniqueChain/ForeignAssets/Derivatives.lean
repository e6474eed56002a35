import UniqueChain.ForeignAssets.Registry
import UniqueChain.ForeignAssets.RoundTrip
import UniqueChain.Nesting.Permissions
import UniqueChain.Nesting.Indexed
import UniqueChain.Runtime.Burnt

/-!
# Derivative tokens of foreign NFTs

A foreign NFT instance that comes in for the first time gets a derivative token, and
the pallet remembers the pair.  When the instance leaves, its token waits in the
account of the pallet for the next deposit.  The token lives in the pallet of NFTs,
where its owner may do with it as with any other: also burn it.  The pallet of foreign
assets does not notice, keeps the pair, and can neither transfer the token that is
gone nor create another.  As long as no derivative token is burnt by its owner, the
maps and the tokens agree, and every instance that is not in the hands of a user can
be deposited.
-/

namespace UniqueChain

open Execution CollectionDispatch FiniteMap

variable {T : Config} {X : XcmConfig T} {x x' : XcmState X}

variable {collection : CollectionId} {history : List (CallRecord (XcmState X) (XcmCall X))}

/-! ## The calls of a run -/

/-- Of the collections of foreign assets, users use the tokens: they change no settings
and destroy no collection. -/
def XcmCall.KeepsHosts (x : XcmState X) : XcmCall X → Prop
  | .extrinsic submitted => ∀ collection,
      x.foreign.collectionToForeignAsset.get collection ≠ none →
        (∀ operation, submitted.call ≠ .settings collection operation) ∧
        ∀ sender, submitted.call ≠ .destroyCollection sender collection
  | _ => True

/-- No user burns a derivative token. -/
def XcmCall.SparesDerivatives (x : XcmState X) : XcmCall X → Prop
  | .extrinsic submitted => ∀ token,
      x.foreign.tokenIdToForeignReserveAssetInstance.get token ≠ none →
        ¬ Nonfungible.Burns token submitted.call
  | _ => True

/-! ## What a step of the chain keeps -/

section Chain

variable {s s' : State T} {call : Call T}

/-- An NFT that is not burnt stays. -/
theorem ChainStep.tokenData_ne_none (hstep : ChainStep s call s') {token : Token}
    (hexists : s.nonfungible.tokenData.get token ≠ none)
    (hspares : ¬ Nonfungible.Burns token call) : s'.nonfungible.tokenData.get token ≠ none := by
  have hstorage := hstep.pallets.nonfungible
  generalize s'.nonfungible = nonfungible at hstorage ⊢
  cases hstorage with
  | cleared hempty =>
    have hnone := anyKey_eq_false_iff.mp hempty token
    simp only [Nonfungible.clearCollection]
    grind
  | children => exact hexists
  | @operation handle operation _ hcall hfound hoperation =>
    subst hcall
    cases hoperation with
    | createMultipleItems hchecks hkept =>
      show (FiniteMap.insertEach _ _ _ _).get token ≠ none
      rw [get_insertEach_ne_none]
      exact .inr hexists
    | transfer hchecks =>
      simp only [Nonfungible.transferredStorage]
      grind
    | transferFrom hallowed hchecks =>
      simp only [Nonfungible.transferredStorage]
      grind
    | @burn sender number hchecks =>
      have hne : token ≠ (handle.id, number) := by
        rintro rfl
        exact hspares .burn
      show (FiniteMap.erase _ _).get token ≠ none
      rw [get_erase_of_ne _ hne]
      exact hexists
    | @burnFrom spender from' number hallowed hchecks =>
      have hne : token ≠ (handle.id, number) := by
        rintro rfl
        exact hspares .burnFrom
      show (FiniteMap.erase _ _).get token ≠ none
      rw [get_erase_of_ne _ hne]
      exact hexists
    | setAllowance haccess hitem hallowed => exact hexists
    | setAllowanceFrom haccess hmirror hitem hallowed => exact hexists
    | setAllowanceForAll => exact hexists
    | modifyTokenProperties happly =>
      split
      · exact hexists
      · exact hexists

end Chain

/-! ## The invariant -/

/-- The maps of instances, the tokens and the settings of their collections agree. -/
structure Derivatives (X : XcmConfig T) (chain : State T) (foreign : ForeignAssetsStorage) :
    Prop where
  inverse : ∀ collection, InverseMaps
    (fun assetInstance =>
      foreign.foreignReserveAssetInstanceToTokenId.get (collection, assetInstance))
    (fun token => foreign.tokenIdToForeignReserveAssetInstance.get (collection, token))
  mapped : ∀ token, foreign.tokenIdToForeignReserveAssetInstance.get token ≠ none →
    foreign.collectionToForeignAsset.get token.1 ≠ none ∧
      chain.nonfungible.tokenData.get token ≠ none
  hosted : ∀ collection, foreign.collectionToForeignAsset.get collection ≠ none →
    ∃ data, chain.common.collectionById.get collection = some data ∧ Hosted X data
  childless : ∀ collection, foreign.collectionToForeignAsset.get collection ≠ none →
    Childless chain collection

/-- What holds in every run. -/
structure DerivativesBase (x : XcmState X) : Prop where
  registry : RegistryBase x
  ledger : Nonfungible.Ledger x.chain.nonfungible
  index : IndexBase x.chain

theorem derivativesBase_of_reaches {balances : T.Balances} (hrun : XcmReaches balances history x) :
    DerivativesBase x where
  registry := registryBase_of_reaches hrun
  ledger := hrun.chain_invariant (OfStorage.nonfungible Nonfungible.Ledger) .empty
    fun _ _ _ hledger hstep => hstep.pallets.nonfungible.ledger hledger
  index := hrun.chain_invariant ofStorage_indexBase indexBase_genesis
    fun _ _ _ hbase hstep => hstep.indexBase hbase

namespace Derivatives

variable {foreign : ForeignAssetsStorage} {s s' : State T} {call : Call T}

section

variable (hderivatives : Derivatives X s foreign)

include hderivatives

theorem of_storage (hstorage : s'.storage = s.storage) : Derivatives X s' foreign := by
  obtain ⟨hcommon, hnonfungible, _⟩ := State.storage_eq_iff.mp hstorage
  refine ⟨hderivatives.inverse, ?_, ?_, ?_⟩
  · rw [hnonfungible]
    exact hderivatives.mapped
  · rw [hcommon]
    exact hderivatives.hosted
  · unfold Childless
    rw [hnonfungible]
    exact hderivatives.childless

theorem nestingOff (hclaimed : foreign.collectionToForeignAsset.get collection ≠ none) :
    NestingOff s collection := by
  intro data hdata
  obtain ⟨_, hstored, hhosted⟩ := hderivatives.hosted collection hclaimed
  cases hdata.symm.trans hstored
  rw [hhosted.permissions]
  exact ⟨rfl, rfl⟩

/-- A step of the chain that leaves the settings and the derivative tokens alone. -/
theorem chain_step (hstep : ChainStep s call s')
    (hcreated : ∀ collection, foreign.collectionToForeignAsset.get collection ≠ none →
      collection ≤ s.common.createdCollectionCount)
    (hhosts : ∀ collection, foreign.collectionToForeignAsset.get collection ≠ none →
      (∀ operation, call ≠ .settings collection operation) ∧
        ∀ sender, call ≠ .destroyCollection sender collection)
    (hspares : ∀ token, foreign.tokenIdToForeignReserveAssetInstance.get token ≠ none →
      ¬ Nonfungible.Burns token call) : Derivatives X s' foreign where
  inverse := hderivatives.inverse
  mapped token hmapped :=
    ⟨(hderivatives.mapped token hmapped).1,
      hstep.tokenData_ne_none (hderivatives.mapped token hmapped).2 (hspares token hmapped)⟩
  hosted collection hclaimed := by
    obtain ⟨hsettings, hdestroy⟩ := hhosts collection hclaimed
    have hne : collection ≠ s.common.createdCollectionCount + 1 :=
      (Nat.lt_succ_of_le (hcreated collection hclaimed)).ne
    rw [hstep.collectionById_eq (fun _ _ _ _ => hne) hsettings hdestroy]
    exact hderivatives.hosted collection hclaimed
  childless collection hclaimed :=
    hstep.childless (hderivatives.childless collection hclaimed) (hderivatives.nestingOff hclaimed)

/-- A new collection has no tokens, so none of its tokens has children. -/
theorem registered (hindex : IndexBase s) {sender : T.CrossAccountId} {issuer : CollectionIssuer T}
    {data : CreateCollectionData T.CrossAccountId}
    (hstep : ChainStep s (.createCollection sender issuer data) s')
    (hcreated : ∀ collection, foreign.collectionToForeignAsset.get collection ≠ none →
      collection ≤ s.common.createdCollectionCount)
    (hstored : ∃ collection, s'.common.collectionById.get s'.common.createdCollectionCount =
      some collection ∧ Hosted X collection)
    (assetId : AssetId) :
    Derivatives X s' (registeredForeign assetId s'.common.createdCollectionCount foreign) := by
  have hkept := hderivatives.chain_step hstep hcreated
    (fun _ _ => ⟨by rintro _ ⟨⟩, by rintro _ ⟨⟩⟩) fun _ _ => nofun
  have hclaims : ∀ collection, (registeredForeign assetId s'.common.createdCollectionCount
      foreign).collectionToForeignAsset.get collection ≠ none →
      collection = s'.common.createdCollectionCount ∨
        foreign.collectionToForeignAsset.get collection ≠ none := by
    intro collection hclaimed
    by_cases hself : collection = s'.common.createdCollectionCount
    · exact .inl hself
    · rw [registeredForeign, get_insert_of_ne _ _ hself] at hclaimed
      exact .inr hclaimed
  refine ⟨hderivatives.inverse, fun token hmapped => ?_, fun collection hclaimed => ?_,
    fun collection hclaimed => ?_⟩
  · obtain ⟨hclaimed, hexists⟩ := hkept.mapped token hmapped
    refine ⟨?_, hexists⟩
    simp only [registeredForeign]
    grind
  · rcases hclaims collection hclaimed with rfl | hbefore
    · exact hstored
    · exact hkept.hosted collection hbefore
  · rcases hclaims collection hclaimed with rfl | hbefore
    · rintro token child htoken hentry
      have hold : IsChild s.nonfungible.tokenChildren token child := by
        cases hstep with
        | createCollection hwidth hmode hlimits => exact hentry
      obtain ⟨handle, hfound⟩ := hindex.parent_found hold
      have hstored := (dispatch_eq_nonfungible.mp hfound).2.2.1
      have hbound := hindex.holdings.registered token.1 (hstored ▸ Option.some_ne_none _)
      rw [htoken, hstep.createdCollectionCount_of_create] at hbound
      exact absurd hbound (Nat.not_succ_le_self _)
    · exact hkept.childless collection hbefore

/-- A collection whose asset is moved stays in the registry. -/
theorem moved {existingAssetId newAssetId : AssetId}
    (hclaimed : foreign.collectionToForeignAsset.get collection ≠ none) :
    Derivatives X s (movedForeign existingAssetId newAssetId collection foreign) := by
  have hclaims : ∀ other, (movedForeign existingAssetId newAssetId collection
      foreign).collectionToForeignAsset.get other ≠ none ↔
        foreign.collectionToForeignAsset.get other ≠ none := by
    intro other
    simp only [movedForeign]
    grind
  refine ⟨hderivatives.inverse, fun token hmapped => ?_, fun other hother => ?_,
    fun other hother => ?_⟩
  · rw [hclaims]
    exact hderivatives.mapped token hmapped
  · exact hderivatives.hosted other ((hclaims other).mp hother)
  · exact hderivatives.childless other ((hclaims other).mp hother)

/-- The number of a new token is in no pair. -/
theorem entered (hledger : Nonfungible.Ledger s.nonfungible)
    {assetInstance : AssetInstance} {depositor to' : T.CrossAccountId}
    (hcreated : ∀ collection, foreign.collectionToForeignAsset.get collection ≠ none →
      collection ≤ s.common.createdCollectionCount)
    (hclaimed : foreign.collectionToForeignAsset.get collection ≠ none)
    (hnew : foreign.foreignReserveAssetInstanceToTokenId.get (collection, assetInstance) = none)
    (hstep : ChainStep s
      (.nonfungible collection (.createMultipleItems depositor [⟨to', []⟩])) s') :
    Derivatives X s' (enteredForeign collection assetInstance
      (s'.nonfungible.tokensMinted.getD collection 0) foreign) := by
  have hkept := hderivatives.chain_step hstep hcreated
    (fun _ _ => ⟨by rintro _ ⟨⟩, by rintro _ ⟨⟩⟩) fun _ _ => nofun
  have hminted : s'.nonfungible.tokensMinted.getD collection 0 =
      s.nonfungible.tokensMinted.getD collection 0 + 1 ∧
        s'.nonfungible.tokenData.get
          (collection, s.nonfungible.tokensMinted.getD collection 0 + 1) = some ⟨to'⟩ := by
    cases hstep with
    | nonfungible hfound hoperation =>
      cases hoperation with
      | createMultipleItems hchecks hkept =>
        constructor
        · exact getD_insert .. |>.trans (if_pos rfl)
        · exact get_insert_self ..
  obtain ⟨hcounter, hexists⟩ := hminted
  rw [hcounter]
  -- a token that is in a pair exists, so its number was given out before
  have hfree : foreign.tokenIdToForeignReserveAssetInstance.get
      (collection, s.nonfungible.tokensMinted.getD collection 0 + 1) = none := by
    by_contra hmapped
    exact Nat.not_succ_le_self _
      (hledger.numbered _ _ (hderivatives.mapped _ hmapped).2).2
  refine ⟨fun other => ?_, fun token hmapped => ?_, hkept.hosted, hkept.childless⟩
  · by_cases hother : other = collection
    · subst hother
      have hinsert := (hderivatives.inverse other).insert hnew hfree
      intro name token
      have hpair := hinsert name token
      simp only [enteredForeign, get_insert, Prod.mk.injEq, true_and]
      exact hpair
    · intro name token
      have hpair := hderivatives.inverse other name token
      simp only [enteredForeign, get_insert, Prod.mk.injEq, hother, false_and, if_false]
      exact hpair
  · by_cases hself : token = (collection, s.nonfungible.tokensMinted.getD collection 0 + 1)
    · subst hself
      exact ⟨hclaimed, by rw [hexists]; exact Option.some_ne_none _⟩
    · rw [enteredForeign, get_insert_of_ne _ _ hself] at hmapped
      exact hkept.mapped token hmapped

end

end Derivatives

/-- An XCM operation burns no derivative token: it burns at most a token with number
zero, and there is none. -/
theorem AssetMove.keeps_derivatives {move : Call T} (hmove : AssetMove move)
    (hbase : DerivativesBase x) (hderivatives : Derivatives X x.chain x.foreign) :
    (∀ collection, (∀ operation, move ≠ .settings collection operation) ∧
      ∀ sender, move ≠ .destroyCollection sender collection) ∧
    ∀ token, x.foreign.tokenIdToForeignReserveAssetInstance.get token ≠ none →
      ¬ Nonfungible.Burns token move := by
  cases hmove with
  | burnDefault =>
    refine ⟨fun _ => ⟨by rintro _ ⟨⟩, by rintro _ ⟨⟩⟩,
      fun token hmapped hburns => ?_⟩
    have hnumber := (hbase.ledger.numbered token.1 token.2 (hderivatives.mapped token hmapped).2).1
    obtain ⟨collection, number⟩ := token
    cases hburns
    exact absurd hnumber (Nat.not_succ_le_zero 0)
  | _ => exact ⟨fun _ => ⟨by rintro _ ⟨⟩, by rintro _ ⟨⟩⟩, fun _ _ => nofun⟩

theorem XcmStep.derivatives {call : XcmCall X} {s : State T} {foreign : ForeignAssetsStorage}
    (hstep : XcmStep x call s foreign) (hbase : DerivativesBase x)
    (hderivatives : Derivatives X x.chain x.foreign) (hhosts : call.KeepsHosts x)
    (hspares : call.SparesDerivatives x) : Derivatives X s foreign := by
  have hcreated := hbase.registry.created
  have hbefore : ∀ budget, Derivatives X (x.chain.setBudget budget) x.foreign :=
    fun budget => hderivatives.of_storage State.storage_setBudget
  cases hstep with
  | extrinsic hchain => exact (hbefore _).chain_step hchain hcreated hhosts hspares
  | registered hid hnew hchain hstored =>
    exact (hbefore 0).registered (ofStorage_indexBase State.storage_setBudget hbase.index) hchain
      hcreated hstored _
  | moved hexisting hnew hfound =>
    exact hderivatives.moved (hbase.registry.claimed _ _ hfound)
  | asset hcall hmove hchain =>
    obtain ⟨hsettings, hburns⟩ := hmove.keeps_derivatives hbase hderivatives
    exact (hbefore 0).chain_step hchain hcreated (fun collection _ => hsettings collection) hburns
  | entered hasset hnew hchain =>
    exact (hbefore 0).entered hbase.ledger hcreated (hbase.registry.claimed _ _ hasset) hnew hchain

theorem derivatives_of_reaches {balances : T.Balances} (hrun : XcmReaches balances history x)
    (hhosts : ∀ event ∈ history, event.call.KeepsHosts event.state)
    (hspares : ∀ event ∈ history, event.call.SparesDerivatives event.state) :
    Derivatives X x.chain x.foreign := by
  refine Run.invariant_of_base (P := fun x : XcmState X => Derivatives X x.chain x.foreign)
    (fun x call => call.KeepsHosts x ∧ call.SparesDerivatives x) derivativesBase_of_reaches ?_ ?_
    hrun fun event hevent => ⟨hhosts event hevent, hspares event hevent⟩
  · exact ⟨fun _ => InverseMaps.empty, fun _ hmapped => absurd rfl hmapped,
      fun _ hclaimed => absurd rfl hclaimed, fun _ hclaimed => absurd rfl hclaimed⟩
  · intro x call x' hbase _ hderivatives hallowed hstep
    obtain ⟨s, hstep, hstorage⟩ := xcmStepTo_of_xcmStep hstep
    exact (hstep.derivatives hbase hderivatives hallowed.1 hallowed.2).of_storage hstorage

/-! ## Deposits -/

section Deposits

variable {assetId : AssetId} {collection : CollectionId} {handle : CollectionHandle T}
  {assetInstance : AssetInstance} {location : Location} {account : T.CrossAccountId}

/-- An account that can be given tokens: no token, no collection, and not the reserved
one. -/
structure OrdinaryAccount (account : T.CrossAccountId) : Prop where
  no_token : T.addressToToken account = none
  no_collection : isCollection (T.asEth account) = false
  nonzero : T.zeroAccount ≠ account

theorem resolves_of_registered
    (hasset : x.foreign.foreignAssetToCollection.get assetId = some collection)
    (hfound : dispatch x.chain collection = some (.nonfungible handle)) :
    Resolves x assetId (.foreign collection) (.nonfungible handle) := by
  refine ⟨?_, hfound⟩
  unfold assetToCollection
  rw [hasset]

/-- The token that waits in the account of the pallet is handed out. -/
theorem deposit_waiting {token : TokenId} (hledger : Nonfungible.Ledger x.chain.nonfungible)
    (hderivatives : Derivatives X x.chain x.foreign) (hbase : RegistryBase x)
    (hasset : x.foreign.foreignAssetToCollection.get assetId = some collection)
    (hfound : dispatch x.chain collection = some (.nonfungible handle))
    (haccount : X.locationToAccountId location = some account) (hordinary : OrdinaryAccount account)
    (hroom : x.chain.nonfungible.accountBalance.getD (collection, account) 0 <
      handle.collection.limits.accountTokenOwnershipLimit)
    (hmapped : x.foreign.foreignReserveAssetInstanceToTokenId.get (collection, assetInstance) =
      some token)
    (hwaits : x.chain.nonfungible.tokenData.get (collection, token) = some ⟨X.palletAccount⟩) :
    ∃ x', xcmStep x (.depositAsset ⟨assetId, .nonFungible assetInstance⟩ location) = some x' := by
  obtain ⟨_, rfl, hstored, _⟩ := dispatch_eq_nonfungible.mp hfound
  have hclaimed := hbase.claimed _ _ hasset
  obtain ⟨data, hdata, hhosted⟩ := hderivatives.hosted _ hclaimed
  cases hdata.symm.trans hstored
  have hchildless : Nonfungible.tokenHasChildren (x.chain.setBudget 0) (handle.id, token) =
    false := by
    refine anyKey_eq_false_iff.mpr ?_
    rintro ⟨parent, child⟩ rfl
    exact Classical.not_not.mp (hderivatives.childless _ hclaimed _ child rfl)
  obtain ⟨s, htransfer⟩ : ∃ s, (Nonfungible.transferInternal handle X.palletAccount X.palletAccount
      account token).run (x.chain.setBudget 0) = .ok () s := by
    refine (Nonfungible.transferInternal_succeeds_iff hordinary.no_token).mpr
      ⟨?_, hwaits, fun hlist => ?_, hordinary.nonzero, hledger.one_le_accountBalance hwaits,
        fun _ => hroom, hordinary.no_collection⟩
    · rw [hhosted.limits]
      rfl
    · rw [hhosted.permissions] at hlist
      cases hlist
  have hitem : (XcmExtensions.transferItem X.palletAccount X.palletAccount account token 1
      (.nonfungible handle)).run (x.chain.setBudget 0) = .ok () s :=
    ensure_bind_ok.mpr ⟨hordinary.no_token, read_bind_ok.mpr (ensure_bind_ok.mpr ⟨hchildless,
      ensure_bind_ok.mpr ⟨rfl, htransfer⟩⟩)⟩
  exact ⟨_, (deposit_instance (resolves_of_registered hasset hfound) rfl haccount hmapped).mpr
    ⟨s, hitem, rfl⟩⟩

/-- An instance without a token gets one. -/
theorem deposit_new (hderivatives : Derivatives X x.chain x.foreign) (hbase : RegistryBase x)
    (hasset : x.foreign.foreignAssetToCollection.get assetId = some collection)
    (hfound : dispatch x.chain collection = some (.nonfungible handle))
    (haccount : X.locationToAccountId location = some account) (hordinary : OrdinaryAccount account)
    (hroom : x.chain.nonfungible.accountBalance.getD (collection, account) 0 <
      handle.collection.limits.accountTokenOwnershipLimit)
    (hnumber : x.chain.nonfungible.tokensMinted.getD collection 0 < u32Max)
    (hnew : x.foreign.foreignReserveAssetInstanceToTokenId.get (collection, assetInstance) = none) :
    ∃ x', xcmStep x (.depositAsset ⟨assetId, .nonFungible assetInstance⟩ location) = some x' := by
  obtain ⟨_, rfl, hstored, _⟩ := dispatch_eq_nonfungible.mp hfound
  obtain ⟨data, hdata, hhosted⟩ := hderivatives.hosted _ (hbase.claimed _ _ hasset)
  cases hdata.symm.trans hstored
  have hresolves := resolves_of_registered hasset hfound
  obtain ⟨s, hcreate⟩ : ∃ s, (Nonfungible.createMultipleItems handle X.palletAccount
      [⟨account, []⟩]).run (x.chain.setBudget 0) = .ok () s := by
    refine (Nonfungible.createMultipleItems_succeeds_iff_of_user hordinary.no_token).mpr
      ⟨.inl ?_, hordinary.nonzero, hnumber, ?_, hroom, hordinary.no_collection⟩
    · simp [CollectionHandle.isOwnerOrAdmin, hhosted.owner]
    · rw [hhosted.limits]
      exact hnumber
  have hitem : (XcmExtensions.createItem X X.palletAccount account (.nonfungible handle) .nft).run
      (x.chain.setBudget 0) = .ok (s.nonfungible.tokensMinted.getD handle.id 0) s :=
    ensure_bind_ok.mpr ⟨hordinary.no_token, bind_unit_ok.mpr ⟨s, hcreate,
      read_bind_ok.mpr (pure_ok.mpr ⟨rfl, rfl⟩)⟩⟩
  have hdeposit : ∃ x', (XcmCall.depositAsset ⟨assetId, .nonFungible assetInstance⟩
      location).execute.run x = .ok () x' := by
    simp only [XcmCall.execute, depositAsset, haccount, okOr_bind_ok, Option.some.injEq,
      exists_eq_left', hresolves.bind_ok rfl, depositAssetInstance, read_bind_ok,
      assetInstanceToTokenId, hnew, createForeignAssetInstance]
    exact ⟨_, Execution.bind_ok.mpr ⟨_, _, onChain_ok.mpr ⟨s, hitem, rfl⟩, update_ok.mpr rfl⟩⟩
  obtain ⟨x', hx'⟩ := hdeposit
  exact ⟨x', xcmStep_eq_some.mpr hx'⟩

end Deposits

/-- In every run in which users change no settings of the collections of foreign assets
and burn no derivative token, for each of these collections that holds NFTs: the maps
between instances and tokens are inverse to each other, every token in them exists, and
an instance whose token is not in the hands of a user can be deposited for every
ordinary account below its limit, if there is a number left for a new token. -/
theorem foreign_instances_depositable {balances : T.Balances}
    {history : List (CallRecord (XcmState X) (XcmCall X))} (hrun : XcmReaches balances history x)
    (hhosts : ∀ event ∈ history, event.call.KeepsHosts event.state)
    (hspares : ∀ event ∈ history, event.call.SparesDerivatives event.state)
    {collection : CollectionId} {handle : CollectionHandle T}
    (hfound : dispatch x.chain collection = some (.nonfungible handle)) :
    InverseMaps
      (fun assetInstance =>
        x.foreign.foreignReserveAssetInstanceToTokenId.get (collection, assetInstance))
      (fun token => x.foreign.tokenIdToForeignReserveAssetInstance.get (collection, token)) ∧
    (∀ token, x.foreign.tokenIdToForeignReserveAssetInstance.get (collection, token) ≠ none →
      x.chain.nonfungible.tokenData.get (collection, token) ≠ none) ∧
    ∀ assetId assetInstance location account,
      x.foreign.foreignAssetToCollection.get assetId = some collection →
      (∀ token, x.foreign.foreignReserveAssetInstanceToTokenId.get (collection, assetInstance) =
        some token →
        x.chain.nonfungible.tokenData.get (collection, token) = some ⟨X.palletAccount⟩ ∨
          x.chain.nonfungible.tokenData.get (collection, token) = none) →
      X.locationToAccountId location = some account → OrdinaryAccount account →
      x.chain.nonfungible.accountBalance.getD (collection, account) 0 <
        handle.collection.limits.accountTokenOwnershipLimit →
      (x.foreign.foreignReserveAssetInstanceToTokenId.get (collection, assetInstance) = none →
        x.chain.nonfungible.tokensMinted.getD collection 0 < u32Max) →
      ∃ x', xcmStep x (.depositAsset ⟨assetId, .nonFungible assetInstance⟩ location) = some x' := by
  have hderivatives := derivatives_of_reaches hrun hhosts hspares
  have hbase := derivativesBase_of_reaches hrun
  refine ⟨hderivatives.inverse collection, fun token hmapped => (hderivatives.mapped _ hmapped).2,
    fun assetId assetInstance location account hasset hfree haccount hordinary hroom hnumber => ?_⟩
  cases hget : x.foreign.foreignReserveAssetInstanceToTokenId.get (collection, assetInstance) with
  | none =>
    exact deposit_new hderivatives hbase.registry hasset hfound haccount hordinary hroom
      (hnumber hget) hget
  | some token =>
    have hback : x.foreign.tokenIdToForeignReserveAssetInstance.get (collection, token) =
        some assetInstance := (hderivatives.inverse collection assetInstance token).mp hget
    have hexists := (hderivatives.mapped (collection, token) (hback ▸ Option.some_ne_none _)).2
    exact deposit_waiting hbase.ledger hderivatives hbase.registry hasset hfound haccount hordinary
      hroom hget ((hfree token hget).resolve_right hexists)

namespace DerivativesExample

open reference

/-- An instance of the foreign collection. -/
def statue : XcmAsset := ⟨statemint, .nonFungible (.index 7)⟩

/-- It comes in for alice, is given to bob, and leaves again. -/
def travel : List (XcmCall parachain) :=
  [.forceRegisterForeignAsset statemint [] .nft, .depositAsset statue atAlice,
    .extrinsic ⟨.nonfungible 1 (.transfer ReferenceAccount.alice ReferenceAccount.bob 1), 5⟩,
    .withdrawAsset statue atBob]

/-- The user of the run neither changes settings nor burns the token. -/
theorem ordinary_of_mem_travel (x : XcmState parachain) {call : XcmCall parachain}
    (hcall : call ∈ travel) : call.KeepsHosts x ∧ call.SparesDerivatives x := by
  simp only [travel, List.mem_cons, List.not_mem_nil, or_false] at hcall
  rcases hcall with rfl | rfl | rfl | rfl
  · exact ⟨trivial, trivial⟩
  · exact ⟨trivial, trivial⟩
  · exact ⟨fun _ _ => ⟨by rintro _ ⟨⟩, by rintro _ ⟨⟩⟩,
      fun ⟨_, _⟩ _ hburns => by cases hburns⟩
  · exact ⟨trivial, trivial⟩

theorem travel_succeeds : (xcmHistory? travel).isSome := by decide +kernel

/-- After it the token waits in the account of the pallet. -/
theorem waits_after_travel :
    (xcmStateOf travel travel_succeeds).foreign.foreignAssetToCollection.get statemint = some 1 ∧
      (xcmStateOf travel travel_succeeds).foreign.foreignReserveAssetInstanceToTokenId.get
        (1, .index 7) = some 1 ∧
      ((xcmStateOf travel travel_succeeds).chain.nonfungible.tokenData.get (1, 1)).map (·.owner) =
        (some palletAccount : Option reference.CrossAccountId) ∧
      ((xcmStateOf travel travel_succeeds).chain.common.collectionById.get 1).map
        (fun data => (data.mode, data.limits.accountTokenOwnershipLimit)) = some (.nft, 100000000) ∧
      (xcmStateOf travel travel_succeeds).chain.nonfungible.accountBalance.getD
        (1, ReferenceAccount.alice) 0 = 0 := by
  decide +kernel

/-- It can come in again. -/
theorem foreign_instances_depositable_travel :
    ∃ x, xcmStep (xcmStateOf travel travel_succeeds) (.depositAsset statue atAlice) = some x := by
  obtain ⟨hasset, hmapped, howner, hmode, hbalance⟩ := waits_after_travel
  obtain ⟨data, hdata, hsettings⟩ := Option.map_eq_some_iff.mp hmode
  obtain ⟨hnft, hlimit⟩ := Prod.mk.inj hsettings
  obtain ⟨⟨owner⟩, hitem, rfl⟩ := Option.map_eq_some_iff.mp howner
  have hordinary : OrdinaryAccount (T := reference) ReferenceAccount.alice :=
    ⟨by decide, by decide, show ReferenceAccount.ethereum 0 ≠ .substrate 1 from nofun⟩
  have hfound : dispatch (xcmStateOf travel travel_succeeds).chain 1 =
      some (.nonfungible ⟨1, data⟩) := dispatch_eq_nonfungible.mpr ⟨nofun, rfl, hdata, hnft⟩
  refine (foreign_instances_depositable (run_replay _ _ travel travel_succeeds)
    (fun event hevent => (ordinary_of_mem_travel _ (call_mem_of_mem_replayHistory hevent)).1)
    (fun event hevent => (ordinary_of_mem_travel _ (call_mem_of_mem_replayHistory hevent)).2)
    hfound).2.2 statemint (.index 7) atAlice ReferenceAccount.alice hasset ?_ rfl hordinary ?_ ?_
  · intro token htoken
    cases hmapped.symm.trans htoken
    exact .inl hitem
  · rw [hbalance, hlimit]
    exact Nat.succ_pos _
  · intro hnone
    cases hmapped.symm.trans hnone

/-- The new owner burns the token. -/
def burnt : List (XcmCall parachain) :=
  [.forceRegisterForeignAsset statemint [] .nft, .depositAsset statue atAlice,
    .extrinsic ⟨.nonfungible 1 (.burn ReferenceAccount.alice 1), 5⟩]

/-- The pair stays, its token does not exist, and the instance cannot come in again. -/
theorem foreign_instance_lost :
    ∃ hcalls : (xcmHistory? burnt).isSome,
      let x := xcmStateOf burnt hcalls
      XcmReaches noBalances (xcmHistoryOf burnt hcalls) x ∧
        x.foreign.foreignReserveAssetInstanceToTokenId.get (1, .index 7) = some 1 ∧
        x.chain.nonfungible.tokenData.get (1, 1) = none ∧
        (xcmStep x (.depositAsset statue atBob)).isNone := by
  exact ⟨by decide +kernel, run_replay _ _ _ _, by decide +kernel⟩

end DerivativesExample

end UniqueChain
