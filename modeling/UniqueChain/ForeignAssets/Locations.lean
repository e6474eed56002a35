import UniqueChain.ForeignAssets.Registry

/-!
# Collections and their locations

Other chains name a collection by a location, and the pallet finds the collection of a
location again.  Local collections are named by the location of this chain, foreign ones
by the location they were registered with, and the registry is asked first.  So nothing
goes wrong as long as the locations of local collections are not given to foreign assets
(`LocationsApart`) and the registry is a correspondence.

Nothing in a registration or a reset keeps them apart: an asset can be registered with the
location of this chain itself, and the native currency is then found as that foreign asset.
-/

namespace UniqueChain

open FiniteMap

variable {T : Config} {X : XcmConfig T} {x x' : XcmState X} {collection : CollectionId}

/-- The location of this chain, or of a collection of it. -/
def NamesLocal (X : XcmConfig T) (location : Location) : Prop :=
  location = X.selfLocation ∨ ∃ collection ≤ u32Max,
    X.selfLocation.pushedWithInterior (.generalIndex collection) = some location

/-- No asset is given the location of this chain or of a collection of it, and a reset is
made to a free asset or to the asset itself. -/
def XcmCall.KeepsLocations (x : XcmState X) (call : XcmCall X) : Prop :=
  call.ResetsToFree x ∧
    match call with
    | .forceRegisterForeignAsset given _ _ | .forceResetForeignAssetLocation _ given =>
      ∀ assetId, X.toAssetId given = some assetId → ¬ NamesLocal X assetId
    | _ => True

/-- The collections that exist, the native currency among them. -/
def XcmState.Existing (x : XcmState X) (collection : CollectionId) : Prop :=
  collection = nativeFungibleCollectionId ∨ CollectionExists x.chain collection

/-! ## What runs keep apart -/

/-- Foreign assets have locations and collections of their own. -/
def LocationsApart (x : XcmState X) : Prop :=
  ∀ assetId collection, x.foreign.foreignAssetToCollection.get assetId = some collection →
    ¬ NamesLocal X assetId ∧ collection ≠ nativeFungibleCollectionId

theorem LocationsApart.of_step {call : XcmCall X} (hapart : LocationsApart x)
    (hkeeps : call.KeepsLocations x) (hstep : XcmStepTo x call x') : LocationsApart x' := by
  obtain ⟨s, hstep, _⟩ := hstep
  unfold LocationsApart
  generalize x'.foreign = foreign at hstep
  intro assetId collection hget
  have hbefore := hapart assetId collection
  cases hstep with
  | registered hid hnew hchain hstored =>
    have hgiven := hkeeps.2 _ hid
    have hnext := hchain.createdCollectionCount_of_create
    simp only [registeredForeign, get_insert] at hget
    split at hget
    · rename_i hsame
      cases hget
      exact ⟨hsame ▸ hgiven, hnext ▸ Nat.succ_ne_zero _⟩
    · exact hbefore hget
  | moved hexisting hnew hfound =>
    have hgiven := hkeeps.2 _ hnew
    simp only [movedForeign, get_insert, get_erase] at hget
    split at hget
    · rename_i hsame
      cases hget
      exact ⟨hsame ▸ hgiven, (hapart _ _ hfound).2⟩
    · split at hget
      · cases hget
      · exact hbefore hget
  | _ => exact hbefore hget

/-- The identifiers that were given out fit their type. -/
theorem ChainStep.createdCollectionCount_fits {s s' : State T} {call : Call T}
    (hfits : s.common.createdCollectionCount ≤ u32Max) (hstep : ChainStep s call s') :
    s'.common.createdCollectionCount ≤ u32Max := by
  cases hstep with
  | fungible hfound hoperation => exact hoperation.frame.1.common ▸ hfits
  | refungible hfound hoperation => exact hoperation.frame.1.common ▸ hfits
  | createCollection hwidth hmode hlimits => exact hwidth
  | destroyCollection hnative hfound hdestroyed => cases hdestroyed <;> exact hfits
  | settings hfound hsettings => exact hsettings.createdCollectionCount_eq ▸ hfits
  | _ => exact hfits

section Runs

variable {balances : T.Balances} {history : List (CallRecord (XcmState X) (XcmCall X))}

theorem locationsApart_of_reaches (hrun : XcmReaches balances history x)
    (hkeeps : ∀ event ∈ history, event.call.KeepsLocations event.state) : LocationsApart x := by
  refine Run.invariant (fun x call => XcmCall.KeepsLocations x call) ?_
    (fun _ _ _ hapart hkeeps hstep => ?_) hrun hkeeps
  · intro assetId collection hget
    cases hget
  · exact LocationsApart.of_step hapart hkeeps (xcmStepTo_of_xcmStep hstep)

theorem le_u32Max_of_exists (hrun : XcmReaches balances history x)
    (hexists : CollectionExists x.chain collection) : collection ≤ u32Max := by
  have hfits : x.chain.common.createdCollectionCount ≤ u32Max :=
    XcmReaches.chain_invariant
    (OfStorage.common fun common => common.createdCollectionCount ≤ u32Max)
      (Nat.zero_le _) (fun _ _ _ hfits hstep => hstep.createdCollectionCount_fits hfits) hrun
  have hregistered : Registered x.chain.common :=
    XcmReaches.chain_invariant (OfStorage.common Registered) (fun _ hget => absurd rfl hget)
      (fun _ _ _ hregistered hstep => hstep.pallets.common.registered hregistered) hrun
  exact (hregistered collection hexists).trans hfits

end Runs

/-! ## The round trip -/

section RoundTrip

variable {paraId : ℕ} {foreign : ForeignAssetsStorage}

/-- A collection below the location of this chain is found as a local one. -/
theorem localAssetIdToCollection_index (hself : X.selfLocation = ⟨1, [.parachain paraId]⟩)
    (hwidth : collection ≤ u32Max)
    (hlocal : foreign.collectionToForeignAsset.get collection = none) :
    localAssetIdToCollection X foreign ⟨1, [.parachain paraId, .generalIndex collection]⟩ =
      some (.local collection) := by
  have hcontains : foreign.collectionToForeignAsset.contains collection = false :=
    contains_eq_false.mpr hlocal
  simp [localAssetIdToCollection, interiorOfSelf, matchAndSplit, hself, hwidth, hcontains]

/-- In a registry without conflicts, the location of a collection leads back to it. -/
theorem assetToCollection_currencyIdConvert (hself : X.selfLocation = ⟨1, [.parachain paraId]⟩)
    (hbijective : x.foreign.RegistryBijective) (hapart : LocationsApart x)
    (hwidth : collection ≤ u32Max) :
    ∃ location, currencyIdConvert X x.foreign collection = some location ∧
      assetToCollection X x.foreign location =
        some (if x.foreign.collectionToForeignAsset.contains collection then .foreign collection
          else .local collection) := by
  have hnotForeign : ∀ location, NamesLocal X location →
      x.foreign.foreignAssetToCollection.get location = none := by
    intro location hnames
    cases hget : x.foreign.foreignAssetToCollection.get location with
    | none => rfl
    | some collection => exact absurd hnames (hapart _ _ hget).1
  unfold currencyIdConvert
  by_cases hnative : collection = nativeFungibleCollectionId
  · have hlocal : x.foreign.collectionToForeignAsset.contains collection = false := by
      rw [contains_eq_false]
      by_contra hclaimed
      obtain ⟨assetId, hget⟩ := Option.ne_none_iff_exists'.mp hclaimed
      exact (hapart _ _ ((hbijective _ _).mpr hget)).2 hnative
    refine ⟨_, if_pos hnative, ?_⟩
    rw [hlocal, hnative, assetToCollection, hnotForeign _ (.inl rfl)]
    exact if_pos (.inr rfl)
  · rw [if_neg hnative]
    cases hget : x.foreign.collectionToForeignAsset.get collection with
    | some location =>
      have hcontains : x.foreign.collectionToForeignAsset.contains collection = true := by
        rw [FiniteMap.contains, hget]
        rfl
      refine ⟨location, rfl, ?_⟩
      rw [assetToCollection, (hbijective _ _).mpr hget, hcontains]
      rfl
    | none =>
      have hpushed : X.selfLocation.pushedWithInterior (.generalIndex collection) =
          some ⟨1, [.parachain paraId, .generalIndex collection]⟩ := by
        rw [hself]
        rfl
      refine ⟨_, hpushed, ?_⟩
      rw [assetToCollection, hnotForeign _ (.inr ⟨collection, hwidth, hpushed⟩),
        contains_eq_false.mpr hget]
      exact localAssetIdToCollection_index hself hwidth hget

end RoundTrip

/-- As long as no asset is given the location of this chain or of a collection of it, and
resets are made to free assets, the location of every existing collection leads back to the
collection, as a foreign one exactly if it is registered; and different collections have
different locations. -/
theorem collection_locations_roundTrip {paraId : ℕ} {balances : T.Balances}
    {history : List (CallRecord (XcmState X) (XcmCall X))}
    (hself : X.selfLocation = ⟨1, [.parachain paraId]⟩) (hrun : XcmReaches balances history x)
    (hkeeps : ∀ event ∈ history, event.call.KeepsLocations event.state) :
    (∀ collection, x.Existing collection → ∃ location,
      currencyIdConvert X x.foreign collection = some location ∧
      assetToCollection X x.foreign location =
        some (if x.foreign.collectionToForeignAsset.contains collection then .foreign collection
          else .local collection)) ∧
    ∀ first second, x.Existing first → x.Existing second →
      currencyIdConvert X x.foreign first = currencyIdConvert X x.foreign second →
      first = second := by
  have hbijective : x.foreign.RegistryBijective :=
    registryBijective_of_reaches hrun fun event hevent => (hkeeps event hevent).1
  have hapart := locationsApart_of_reaches hrun hkeeps
  have htrip : ∀ collection, x.Existing collection → ∃ location,
      currencyIdConvert X x.foreign collection = some location ∧
      assetToCollection X x.foreign location =
        some (if x.foreign.collectionToForeignAsset.contains collection then .foreign collection
          else .local collection) := by
    intro collection hexisting
    refine assetToCollection_currencyIdConvert hself hbijective hapart ?_
    rcases hexisting with rfl | hexists
    · exact Nat.zero_le _
    · exact le_u32Max_of_exists hrun hexists
  refine ⟨htrip, fun first second hfirst hsecond hsame => ?_⟩
  obtain ⟨location, hlocation, hback⟩ := htrip first hfirst
  obtain ⟨location', hlocation', hback'⟩ := htrip second hsecond
  obtain rfl := Option.some.inj (hlocation.symm.trans (hsame.trans hlocation'))
  have hlocality := congrArg CollectionLocality.collection
    (Option.some.inj (hback.symm.trans hback'))
  split at hlocality <;> split at hlocality <;> exact hlocality

namespace LocationsExample

open reference

/-- A local collection, and a foreign one that is moved. -/
def calls : List (XcmCall parachain) :=
  [.extrinsic (create .nft), .forceRegisterForeignAsset statemint [] .nft,
    .forceResetForeignAssetLocation statemint moonbeam]

theorem calls_succeed : (xcmHistory? calls).isSome := by decide +kernel

theorem not_namesLocal {id : ℕ} (hother : id ≠ 2037) :
    ¬ NamesLocal parachain ⟨1, [.parachain id]⟩ := by
  rintro (hself | ⟨collection, _, hbelow⟩)
  · cases hself
    exact hother rfl
  · cases hbelow

theorem collection_locations_roundTrip_moved :
    let foreign := (xcmStateOf calls calls_succeed).foreign
    currencyIdConvert parachain foreign 2 = some moonbeam ∧
      ∃ location, currencyIdConvert parachain foreign 1 = some location ∧
        assetToCollection parachain foreign location = some (.local 1) := by
  refine ⟨by decide +kernel, ?_⟩
  have hkeeps : ∀ event ∈ xcmHistoryOf calls calls_succeed,
      event.call.KeepsLocations event.state := by
    refine List.forall_mem_cons.mpr ⟨⟨?_, ?_⟩, List.forall_mem_cons.mpr ⟨⟨trivial, ?_⟩,
      List.forall_mem_cons.mpr ⟨⟨trivial, trivial⟩, fun _ hnone => nomatch hnone⟩⟩⟩
    · intro _ newAssetId _ hnew
      cases hnew
      exact .inl (by decide +kernel)
    · rintro _ ⟨⟩
      exact not_namesLocal (by decide)
    · rintro _ ⟨⟩
      exact not_namesLocal (by decide)
  have hexisting : (xcmStateOf calls calls_succeed).Existing 1 := by
    right
    unfold CollectionExists
    decide +kernel
  have htrip := (collection_locations_roundTrip rfl (run_replay _ _ calls calls_succeed)
    hkeeps).1 1 hexisting
  rwa [if_neg (by decide +kernel)] at htrip

/-- An asset is registered with the location of this chain: the native currency is found as
its collection, and both have the same location. -/
theorem native_location_taken : let calls : List (XcmCall parachain) :=
      [.forceRegisterForeignAsset parachain.selfLocation [] (.fungible 18)]
    ∃ hcalls : (xcmHistory? calls).isSome,
      let x := xcmStateOf calls hcalls
      XcmReaches noBalances (xcmHistoryOf calls hcalls) x ∧ x.Existing 0 ∧ x.Existing 1 ∧
        currencyIdConvert parachain x.foreign 0 = currencyIdConvert parachain x.foreign 1 ∧
        (currencyIdConvert parachain x.foreign 0).bind (assetToCollection parachain x.foreign) =
          some (.foreign 1) := by
  refine ⟨by decide +kernel, run_replay _ _ _ _, .inl rfl, .inr ?_, by decide +kernel,
    by decide +kernel⟩
  unfold CollectionExists
  decide +kernel

end LocationsExample

end UniqueChain
