import UniqueChain.ForeignAssets.Reference
import UniqueChain.ForeignAssets.Steps
import UniqueChain.Library.Inverse
import UniqueChain.Registry.Collections

/-!
# The registry of foreign assets

The registry is kept in both directions, from an asset to its collection and back.
A registration takes a new collection for an asset that has none.  A reset gives the
collection of an asset another asset, and does not look at what that one stands for:
if it belongs to another collection already, both collections claim it from then on,
and only the one that was reset can be reached.
-/

namespace UniqueChain

open FiniteMap

variable {T : Config} {X : XcmConfig T} {x x' : XcmState X}
  {history : List (CallRecord (XcmState X) (XcmCall X))} {foreign : ForeignAssetsStorage}
  {balances : T.Balances} {call : XcmCall X}

/-- The two directions of the registry hold the same pairs. -/
def ForeignAssetsStorage.RegistryBijective (foreign : ForeignAssetsStorage) : Prop :=
  ∀ assetId collection, foreign.foreignAssetToCollection.get assetId = some collection ↔
    foreign.collectionToForeignAsset.get collection = some assetId

/-- A reset is made to an asset without collection, or to the asset itself. -/
def XcmCall.ResetsToFree (x : XcmState X) : XcmCall X → Prop
  | .forceResetForeignAssetLocation existing new =>
    ∀ existingAssetId newAssetId, X.toAssetId existing = some existingAssetId →
      X.toAssetId new = some newAssetId →
        x.foreign.foreignAssetToCollection.get newAssetId = none ∨ newAssetId = existingAssetId
  | _ => True

/-! ## The collections of the registry -/

/-- What is true of the registry in every run, with or without such resets. -/
structure RegistryBase (x : XcmState X) : Prop where
  claimed : ∀ assetId collection,
    x.foreign.foreignAssetToCollection.get assetId = some collection →
      x.foreign.collectionToForeignAsset.get collection ≠ none
  created : ∀ collection, x.foreign.collectionToForeignAsset.get collection ≠ none →
    collection ≤ x.chain.common.createdCollectionCount

theorem XcmStep.createdCollectionCount_le {s : State T} (hstep : XcmStep x call s foreign) :
    x.chain.common.createdCollectionCount ≤ s.common.createdCollectionCount := by
  rcases hstep.chain_cases with rfl | ⟨budget, chainCall, hchain⟩
  · exact Nat.le_refl _
  · exact hchain.pallets.common.createdCollectionCount_le

/-- A registration takes the next identifier. -/
theorem ChainStep.createdCollectionCount_of_create {s s' : State T} {sender : T.CrossAccountId}
    {issuer : CollectionIssuer T} {data : CreateCollectionData T.CrossAccountId}
    (hstep : ChainStep s (.createCollection sender issuer data) s') :
    s'.common.createdCollectionCount = s.common.createdCollectionCount + 1 := by
  cases hstep with
  | createCollection hwidth hmode hlimits => rfl

theorem RegistryBase.of_step (hbase : RegistryBase x)
    (hstep : XcmStepTo x call x') : RegistryBase x' := by
  obtain ⟨s, hstep, hstorage⟩ := hstep
  have hcommon := (State.storage_eq_iff.mp hstorage).1
  have hcount := hstep.createdCollectionCount_le
  have hkept : ∀ collection, x.foreign.collectionToForeignAsset.get collection ≠ none →
      collection ≤ s.common.createdCollectionCount :=
    fun collection hclaims => Nat.le_trans (hbase.created collection hclaims) hcount
  suffices hsuffices : (∀ assetId collection,
      x'.foreign.foreignAssetToCollection.get assetId = some collection →
        x'.foreign.collectionToForeignAsset.get collection ≠ none) ∧
      ∀ collection, x'.foreign.collectionToForeignAsset.get collection ≠ none →
        collection ≤ s.common.createdCollectionCount by
    refine ⟨hsuffices.1, fun collection hclaims => ?_⟩
    rw [hcommon]
    exact hsuffices.2 collection hclaims
  generalize x'.foreign = foreign at hstep
  cases hstep with
  | registered hid hnew hchain hstored =>
    constructor
    · intro assetId collection hmaps
      have hbefore := hbase.claimed assetId collection
      simp only [registeredForeign, get_insert] at hmaps ⊢
      grind
    · intro collection hclaims
      have hbefore := hkept collection
      simp only [registeredForeign, get_insert] at hclaims
      grind
  | moved hexisting hnew hfound =>
    have hclaimed := hbase.claimed _ _ hfound
    constructor
    · intro assetId collection hmaps
      have hbefore := hbase.claimed assetId collection
      simp only [movedForeign, get_insert, get_erase] at hmaps ⊢
      grind
    · intro collection hclaims
      have hbefore := hkept collection
      simp only [movedForeign, get_insert, get_erase] at hclaims
      grind
  | _ => exact ⟨hbase.claimed, hkept⟩

theorem registryBase_genesis : RegistryBase (xcmGenesis balances : XcmState X) := by
  constructor
  · intro assetId collection hmaps
    cases hmaps
  · intro collection hclaims
    exact absurd rfl hclaims

theorem registryBase_of_reaches (hrun : XcmReaches balances history x) : RegistryBase x :=
  Run.invariant (fun _ _ => True) registryBase_genesis
    (fun _ _ _ hbase _ hstep => hbase.of_step (xcmStepTo_of_xcmStep hstep)) hrun fun _ _ => trivial

/-! ## The correspondence -/

/-- A reset keeps the correspondence exactly if it is made to a free asset. -/
theorem registryBijective_movedForeign_iff {existingAssetId newAssetId : AssetId}
    {collection : CollectionId} (hbijective : foreign.RegistryBijective)
    (hfound : foreign.foreignAssetToCollection.get existingAssetId = some collection) :
    (movedForeign existingAssetId newAssetId collection foreign).RegistryBijective ↔
      foreign.foreignAssetToCollection.get newAssetId = none ∨ newAssetId = existingAssetId :=
  InverseMaps.rename_iff hbijective hfound

/-- The next identifier belongs to no asset, so a registration adds a new pair. -/
theorem registryBijective_registeredForeign {assetId : AssetId} {count : ℕ}
    (hbase : RegistryBase x) (hbijective : x.foreign.RegistryBijective)
    (hnew : x.foreign.foreignAssetToCollection.get assetId = none)
    (hcount : x.chain.common.createdCollectionCount < count) :
    (registeredForeign assetId count x.foreign).RegistryBijective := by
  have hfree : x.foreign.collectionToForeignAsset.get count = none := by
    by_contra hclaims
    exact absurd (hbase.created count hclaims) (Nat.not_le.mpr hcount)
  exact InverseMaps.insert hbijective hnew hfree

theorem XcmStep.registryBijective {s : State T} (hstep : XcmStep x call s foreign)
    (hbase : RegistryBase x)
    (hbijective : x.foreign.RegistryBijective) (hfree : call.ResetsToFree x) :
    foreign.RegistryBijective := by
  cases hstep with
  | registered hid hnew hchain hstored =>
    refine registryBijective_registeredForeign hbase hbijective hnew ?_
    rw [hchain.createdCollectionCount_of_create]
    exact Nat.lt_succ_self _
  | moved hexisting hnew hfound =>
    exact (registryBijective_movedForeign_iff hbijective hfound).mpr
      (hfree _ _ hexisting hnew)
  | _ => exact hbijective

theorem registryBijective_of_reaches (hrun : XcmReaches balances history x)
    (hresets : ∀ event ∈ history, event.call.ResetsToFree event.state) :
    x.foreign.RegistryBijective := by
  refine Run.invariant_of_base (P := fun x : XcmState X => x.foreign.RegistryBijective)
    (fun x call => call.ResetsToFree x) registryBase_of_reaches InverseMaps.empty ?_ hrun hresets
  intro x call x' hbase _ hbijective hfree hstep
  obtain ⟨s, hstep, _⟩ := xcmStepTo_of_xcmStep hstep
  exact hstep.registryBijective hbase hbijective hfree

/-- As long as every reset is made to a free asset, or to the asset itself, the two
directions of the registry hold the same pairs; a reset to the asset of another
collection breaks the correspondence. -/
theorem foreign_registry_bijective {balances : T.Balances}
    {history : List (CallRecord (XcmState X) (XcmCall X))} (hrun : XcmReaches balances history x)
    (hresets : ∀ event ∈ history, event.call.ResetsToFree event.state) :
    x.foreign.RegistryBijective ∧
      ∀ existing new x',
        xcmStep x (.forceResetForeignAssetLocation existing new) = some x' →
        (x'.foreign.RegistryBijective ↔
          (XcmCall.forceResetForeignAssetLocation existing new).ResetsToFree x) := by
  have hbijective := registryBijective_of_reaches hrun hresets
  refine ⟨hbijective, fun existing new x' hstep => ?_⟩
  obtain ⟨s, hstep, _⟩ := xcmStepTo_of_xcmStep hstep
  generalize x'.foreign = foreign at hstep
  cases hstep with
  | asset hcall hmove hchain => cases hcall
  | moved hexisting hnew hfound =>
    rw [registryBijective_movedForeign_iff hbijective hfound]
    constructor
    · intro hfree existingAssetId newAssetId hexisting' hnew'
      cases hexisting.symm.trans hexisting'
      cases hnew.symm.trans hnew'
      exact hfree
    · intro hfree
      exact hfree _ _ hexisting hnew

open reference in
/-- Two assets are registered, and one of them is moved to a third location. -/
theorem foreign_registry_bijective_moved :
    let calls : List (XcmCall parachain) := [.forceRegisterForeignAsset statemint [] .nft,
      .forceRegisterForeignAsset moonbeam [] (.fungible 18),
      .forceResetForeignAssetLocation moonbeam ⟨1, [.parachain 2023]⟩]
    ∃ hcalls : (xcmHistory? calls).isSome,
      (xcmStateOf calls hcalls).foreign.foreignAssetToCollection.get ⟨1, [.parachain 2023]⟩ =
        some 2 ∧ (xcmStateOf calls hcalls).foreign.RegistryBijective := by
  refine ⟨by decide +kernel, by decide +kernel, ?_⟩
  refine (foreign_registry_bijective (run_replay _ _ _ _) ?_).1
  refine List.forall_mem_cons.mpr ⟨?_, List.forall_mem_cons.mpr ⟨trivial,
    List.forall_mem_cons.mpr ⟨trivial, fun _ hnone => nomatch hnone⟩⟩⟩
  intro existingAssetId newAssetId _ hnew
  cases hnew
  exact .inl (by decide +kernel)

open reference in
/-- One asset is moved onto the other: two collections claim it, and the asset leads
to the second of them only. -/
theorem foreign_registry_shares_asset :
    let calls : List (XcmCall parachain) := [.forceRegisterForeignAsset statemint [] .nft,
      .forceRegisterForeignAsset moonbeam [] (.fungible 18),
      .forceResetForeignAssetLocation moonbeam statemint]
    ∃ hcalls : (xcmHistory? calls).isSome,
      let x := xcmStateOf calls hcalls
      XcmReaches noBalances (xcmHistoryOf calls hcalls) x ∧
        x.foreign.collectionToForeignAsset.get 1 = some statemint ∧
        x.foreign.collectionToForeignAsset.get 2 = some statemint ∧
        x.foreign.foreignAssetToCollection.get statemint = some 2 ∧
        x.foreign.foreignAssetToCollection.get moonbeam = none := by
  exact ⟨by decide +kernel, run_replay _ _ _ _, by decide +kernel⟩

end UniqueChain
