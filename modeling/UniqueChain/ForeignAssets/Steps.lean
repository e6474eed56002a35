import UniqueChain.Model.ForeignAssets
import UniqueChain.Runtime.Steps

/-!
# What a step with foreign assets can do

`XcmStep x call s foreign` says what a successful call does to the state of the
other pallets and to the maps of this one.  Every XCM operation makes at most one
step of the other pallets: a deposit or a withdrawal of a fungible asset is a mint
or a burn, of an NFT a transfer.  So the invariants of the chain hold in the runs
with foreign assets too (`XcmReaches.chain_invariant`).
-/

namespace UniqueChain

open Execution CollectionDispatch

variable {T : Config} {X : XcmConfig T} {x x' : XcmState X} {foreign : ForeignAssetsStorage}
  {call : XcmCall X} {what : XcmAsset}

theorem onChain_ok {α : Type} {error : Failure → ForeignAssetsFailure} {body : Exec T α}
    {value : α} :
    (onChain error body : XcmExec X α).run x = .ok value x' ↔
      ∃ chain, body.run (x.chain.setBudget 0) = .ok value chain ∧ { x with chain } = x' := by
  unfold onChain
  dsimp only
  cases body.run (x.chain.setBudget 0) with
  | ok result chain =>
    simp only [Outcome.ok.injEq]
    constructor
    · rintro ⟨rfl, hstate⟩
      exact ⟨chain, ⟨rfl, rfl⟩, hstate⟩
    · rintro ⟨_, ⟨rfl, rfl⟩, hstate⟩
      exact ⟨rfl, hstate⟩
  | error failure chain => simp

theorem runExtrinsic_ok {submitted : Extrinsic T} :
    (runExtrinsic submitted : XcmExec X Unit).run x = .ok () x' ↔
      ∃ chain, submitted.call.execute.run (x.chain.setBudget submitted.budget) = .ok () chain ∧
        { x with chain } = x' := by
  unfold runExtrinsic
  dsimp only
  cases submitted.call.execute.run (x.chain.setBudget submitted.budget) with
  | ok result chain => simp
  | error failure chain => simp

/-! ## The extensions -/

/-- The calls that an XCM operation on an existing asset amounts to.  A fungible
amount withdrawn from an NFT collection would burn the token with identifier
zero. -/
inductive AssetMove : Call T → Prop
  | nonfungible {collection : CollectionId} {from' to' : T.CrossAccountId} {token : TokenId} :
      AssetMove (.nonfungible collection (.transfer from' to' token))
  | burnDefault {collection : CollectionId} {from' : T.CrossAccountId} :
      AssetMove (.nonfungible collection (.burn from' Fungible.defaultToken))
  | fungible {collection : CollectionId} {call : FungibleCall T} :
      AssetMove (.fungible collection call)
  | native {call : NativeCall T} : AssetMove (.native call)

/-- One step of the other pallets, up to events, logs and budget. -/
def MovesAssets (s : State T) (s' : State T) : Prop :=
  ∃ call s₁, AssetMove call ∧ ChainStep s call s₁ ∧ s'.storage = s₁.storage

section Extensions

variable {s s' : State T} {collection : CollectionId} {kind : CollectionDispatch T}
  {handle : CollectionHandle T}

theorem MovesAssets.of_nonfungible (call : NonfungibleCall T)
    (hfound : dispatch s collection = some (.nonfungible handle))
    (hmove : AssetMove (.nonfungible handle.id call))
    (hrun : (call.execute handle).run s = .ok () s') : MovesAssets s s' := by
  obtain ⟨_, rfl, _, _⟩ := dispatch_eq_nonfungible.mp hfound
  obtain ⟨nonfungible, hstep, hstorage⟩ := NonfungibleCall.execute_ok hfound hrun
  exact ⟨_, _, hmove, .nonfungible hfound hstep, hstorage⟩

theorem MovesAssets.of_fungible (call : FungibleCall T)
    (hfound : dispatch s collection = some (.fungible handle))
    (hrun : (call.execute handle).run s = .ok () s') : MovesAssets s s' := by
  obtain ⟨_, rfl, _, _, _⟩ := dispatch_eq_fungible.mp hfound
  obtain ⟨s₁, hstep, hstorage⟩ := FungibleCall.execute_ok hrun
  exact ⟨_, s₁, .fungible, .fungible hfound hstep, hstorage⟩

theorem MovesAssets.of_balances (account : T.CrossAccountId) (balances : T.Balances) :
    MovesAssets s (s.setBalances balances) :=
  ⟨.native (.transfer account account 0), _, .native, .native, rfl⟩

namespace XcmExtensions

variable {depositor from' to' : T.CrossAccountId} {token : TokenId} {amount : ℕ}

section

variable (hfound : dispatch s collection = some kind)

include hfound

/-- A derivative token can be created in an NFT collection only. -/
theorem createItem_nft_ok (hrun : (createItem X depositor to' kind .nft).run s = .ok token s') :
    ∃ s₁, ChainStep s (.nonfungible collection (.createMultipleItems depositor [⟨to', []⟩])) s₁ ∧
      s'.storage = s₁.storage ∧ token = s'.nonfungible.tokensMinted.getD collection 0 := by
  simp only [createItem, ensure_bind_ok] at hrun
  obtain ⟨_, hrun⟩ := hrun
  cases kind with
  | nonfungible handle =>
    obtain ⟨_, rfl, _, _⟩ := dispatch_eq_nonfungible.mp hfound
    obtain ⟨s₂, hcreate, hrun⟩ := bind_unit_ok.mp hrun
    simp only [read_bind_ok, pure_ok] at hrun
    obtain ⟨rfl, rfl⟩ := hrun
    obtain ⟨nonfungible, hstep, hstorage⟩ := NonfungibleCall.execute_ok hfound
      (show ((NonfungibleCall.createMultipleItems depositor [⟨to', []⟩]).execute handle).run s =
        .ok () s₂ from hcreate)
    exact ⟨_, .nonfungible hfound hstep, hstorage, rfl⟩
  | _ => exact absurd hrun fail_ok

theorem createItem_fungible_ok
    (hrun : (createItem X depositor to' kind (.fungible amount)).run s = .ok token s') :
    MovesAssets s s' := by
  simp only [createItem, ensure_bind_ok] at hrun
  obtain ⟨_, hrun⟩ := hrun
  cases kind with
  | nonfungible handle => exact absurd hrun fail_ok
  | fungible handle =>
    obtain ⟨s₂, hcreate, hrun⟩ := bind_unit_ok.mp hrun
    obtain ⟨_, rfl⟩ := pure_ok.mp hrun
    exact MovesAssets.of_fungible (.createMultipleItems _ _) hfound hcreate
  | nativeFungible =>
    simp only [createItemInternal, read_bind_ok, okOr_bind_ok, update_bind_ok, pure_ok] at hrun
    obtain ⟨balances, _, _, rfl⟩ := hrun
    exact MovesAssets.of_balances depositor balances
  | refungible handle => exact absurd hrun fail_ok

theorem transferItem_ok
    (hrun : (transferItem from' from' to' token amount kind).run s = .ok () s') :
    MovesAssets s s' := by
  simp only [transferItem, ensure_bind_ok, read_bind_ok] at hrun
  obtain ⟨_, _, hrun⟩ := hrun
  cases kind with
  | nonfungible handle =>
    obtain ⟨_, hrun⟩ := ensure_bind_ok.mp hrun
    exact MovesAssets.of_nonfungible (.transfer from' to' token) hfound .nonfungible hrun
  | fungible handle =>
    obtain ⟨_, hrun⟩ := ensure_bind_ok.mp hrun
    exact MovesAssets.of_fungible (.transfer from' to' amount) hfound hrun
  | nativeFungible =>
    obtain ⟨_, hrun⟩ := ensure_bind_ok.mp hrun
    have hexecute : (NativeCall.transfer from' to' amount).execute.run s = .ok () s' := hrun
    obtain ⟨balances, hstorage⟩ := NativeCall.execute_ok hexecute
    exact ⟨.native (.transfer from' to' amount), _, .native, .native, hstorage⟩
  | refungible handle => exact absurd hrun fail_ok

theorem burnItem_ok
    (hrun : (burnItem X from' Fungible.defaultToken amount kind).run s = .ok () s') :
    MovesAssets s s' := by
  cases kind with
  | nonfungible handle =>
    obtain ⟨_, hrun⟩ := ensure_bind_ok.mp hrun
    exact MovesAssets.of_nonfungible (.burn from' Fungible.defaultToken) hfound .burnDefault hrun
  | fungible handle =>
    obtain ⟨_, hrun⟩ := ensure_bind_ok.mp hrun
    exact MovesAssets.of_fungible (.burn from' amount) hfound hrun
  | nativeFungible =>
    simp only [burnItem, ensure_bind_ok, read_bind_ok, okOr_bind_ok, update_ok] at hrun
    obtain ⟨_, balances, _, rfl⟩ := hrun
    exact MovesAssets.of_balances from' balances
  | refungible handle => exact absurd hrun fail_ok

end

end XcmExtensions

end Extensions

/-! ## All calls -/

/-- The maps after a registration. -/
def registeredForeign (assetId : AssetId) (collection : CollectionId)
    (foreign : ForeignAssetsStorage) : ForeignAssetsStorage :=
  { foreign with
    foreignAssetToCollection := foreign.foreignAssetToCollection.insert assetId collection
    collectionToForeignAsset := foreign.collectionToForeignAsset.insert collection assetId }

/-- The maps after the location of an asset is reset. -/
def movedForeign (existingAssetId newAssetId : AssetId) (collection : CollectionId)
    (foreign : ForeignAssetsStorage) : ForeignAssetsStorage :=
  { foreign with
    foreignAssetToCollection :=
      (foreign.foreignAssetToCollection.erase existingAssetId).insert newAssetId collection
    collectionToForeignAsset :=
      (foreign.collectionToForeignAsset.erase collection).insert collection newAssetId }

/-- The maps after a derivative token is created. -/
def enteredForeign (collection : CollectionId) (assetInstance : AssetInstance) (token : TokenId)
    (foreign : ForeignAssetsStorage) : ForeignAssetsStorage :=
  { foreign with
    foreignReserveAssetInstanceToTokenId :=
      foreign.foreignReserveAssetInstanceToTokenId.insert (collection, assetInstance) token
    tokenIdToForeignReserveAssetInstance :=
      foreign.tokenIdToForeignReserveAssetInstance.insert (collection, token) assetInstance }

/-- The operations that other chains ask for. -/
def XcmCall.movesAssets : XcmCall X → Bool
  | .depositAsset _ _ => true
  | .withdrawAsset _ _ => true
  | .internalTransferAsset _ _ _ => true
  | _ => false

/-- A collection with the settings the pallet creates it with. -/
structure Hosted (X : XcmConfig T) (collection : Collection T.AccountId) : Prop where
  owner : collection.owner = T.asSub X.palletAccount
  limits : collection.limits = {}
  permissions : collection.permissions = {}

/-- The effect of each call. -/
inductive XcmStep (x : XcmState X) : XcmCall X → State T → ForeignAssetsStorage → Prop
  | extrinsic {submitted : Extrinsic T} {s : State T}
      (hstep : ChainStep (x.chain.setBudget submitted.budget) submitted.call s) :
      XcmStep x (.extrinsic submitted) s x.foreign
  | registered {versionedAssetId : X.VersionedAssetId} {tokenPrefix : List UInt8}
      {mode : ForeignCollectionMode} {assetId : AssetId} {s : State T}
      (hid : X.toAssetId versionedAssetId = some assetId)
      (hnew : x.foreign.foreignAssetToCollection.get assetId = none)
      (hstep : ChainStep (x.chain.setBudget 0) (.createCollection X.palletAccount .internals
        { mode := mode.toCollectionMode, tokenPrefix, flags := ⟨true, false, false, 0⟩ }) s)
      (hstored : ∃ collection, s.common.collectionById.get s.common.createdCollectionCount =
        some collection ∧ Hosted X collection) :
      XcmStep x (.forceRegisterForeignAsset versionedAssetId tokenPrefix mode) s
        (registeredForeign assetId s.common.createdCollectionCount x.foreign)
  | moved {existingVersionedAssetId newVersionedAssetId : X.VersionedAssetId}
      {existingAssetId newAssetId : AssetId} {collection : CollectionId}
      (hexisting : X.toAssetId existingVersionedAssetId = some existingAssetId)
      (hnew : X.toAssetId newVersionedAssetId = some newAssetId)
      (hfound : x.foreign.foreignAssetToCollection.get existingAssetId = some collection) :
      XcmStep x (.forceResetForeignAssetLocation existingVersionedAssetId newVersionedAssetId)
        x.chain (movedForeign existingAssetId newAssetId collection x.foreign)
  | asset {call : XcmCall X} {move : Call T} {s : State T} (hcall : call.movesAssets = true)
      (hmove : AssetMove move) (hstep : ChainStep (x.chain.setBudget 0) move s) :
      XcmStep x call s x.foreign
  | entered {assetId : AssetId} {assetInstance : AssetInstance} {location : Location}
      {to' : T.CrossAccountId} {collection : CollectionId} {s : State T}
      (hasset : x.foreign.foreignAssetToCollection.get assetId = some collection)
      (hnew : x.foreign.foreignReserveAssetInstanceToTokenId.get (collection, assetInstance) = none)
      (hstep : ChainStep (x.chain.setBudget 0)
        (.nonfungible collection (.createMultipleItems X.palletAccount [⟨to', []⟩])) s) :
      XcmStep x (.depositAsset ⟨assetId, .nonFungible assetInstance⟩ location) s
        (enteredForeign collection assetInstance
          (s.nonfungible.tokensMinted.getD collection 0) x.foreign)

/-- The maps and the storage of the other pallets after a call. -/
def XcmStepTo (x : XcmState X) (call : XcmCall X) (x' : XcmState X) : Prop :=
  ∃ s, XcmStep x call s x'.foreign ∧ x'.chain.storage = s.storage

theorem XcmStepTo.of_moves {chain : State T} (hcall : call.movesAssets = true)
    (hmoves : MovesAssets (x.chain.setBudget 0) chain) : XcmStepTo x call { x with chain } := by
  obtain ⟨move, s, hmove, hstep, hstorage⟩ := hmoves
  exact ⟨s, .asset hcall hmove hstep, hstorage⟩

theorem forceRegisterForeignAsset_ok {versionedAssetId : X.VersionedAssetId}
    {tokenPrefix : List UInt8} {mode : ForeignCollectionMode}
    (hrun : (forceRegisterForeignAsset versionedAssetId tokenPrefix mode).run x = .ok () x') :
    XcmStepTo x (.forceRegisterForeignAsset versionedAssetId tokenPrefix mode) x' := by
  simp only [forceRegisterForeignAsset, okOr_bind_ok, read_bind_ok, ensure_bind_ok] at hrun
  obtain ⟨assetId, hid, hnew, hrun⟩ := hrun
  obtain ⟨x₁, hcreate, hrun⟩ := bind_unit_ok.mp hrun
  obtain ⟨chain, hcreation, rfl⟩ := onChain_ok.mp hcreate
  simp only [read_bind_ok, update_ok] at hrun
  subst hrun
  have hexecute : (Call.createCollection X.palletAccount .internals
      { mode := mode.toCollectionMode, tokenPrefix, flags := ⟨true, false, false, 0⟩ }).execute.run
      (x.chain.setBudget 0) = .ok () chain := hcreation
  obtain ⟨s, hstep, hstorage⟩ := Call.execute_ok hexecute
  refine ⟨s, ?_, hstorage⟩
  have hcommon := (State.storage_eq_iff.mp hstorage).1
  obtain ⟨collection, hget, hstored⟩ := createCollection_stored hcreation
  have hhosted : Hosted X collection :=
    ⟨hstored.owner, (Except.ok.inj hstored.limits).symm, hstored.permissions⟩
  have hregistered := XcmStep.registered hid (FiniteMap.contains_eq_false.mp hnew) hstep
    ⟨collection, hcommon ▸ hget, hhosted⟩
  rw [← hcommon] at hregistered
  exact hregistered

theorem forceResetForeignAssetLocation_ok {existing new : X.VersionedAssetId}
    (hrun : (forceResetForeignAssetLocation existing new).run x = .ok () x') :
    XcmStepTo x (.forceResetForeignAssetLocation existing new) x' := by
  simp only [forceResetForeignAssetLocation, okOr_bind_ok, read_bind_ok, update_ok] at hrun
  obtain ⟨existingAssetId, hexisting, newAssetId, hnew, collection, hfound, rfl⟩ := hrun
  exact ⟨x.chain, .moved hexisting hnew hfound, rfl⟩

theorem resolveAsset_ok {assetId : AssetId} {error : XcmError} {locality : CollectionLocality}
    {kind : CollectionDispatch T} :
    (resolveAsset assetId error : XcmExec X _).run x = .ok (locality, kind) x' ↔
      (assetToCollection X x.foreign assetId = some locality ∧
        dispatch x.chain locality.collection = some kind ∧
        XcmExtensions.available kind = true) ∧ x = x' := by
  simp only [resolveAsset, read_bind_ok, okOr_bind_ok, ensure_bind_ok, pure_ok, Prod.mk.injEq]
  constructor
  · rintro ⟨_, hasset, _, hkind, havailable, ⟨rfl, rfl⟩, rfl⟩
    exact ⟨⟨hasset, hkind, havailable⟩, rfl⟩
  · rintro ⟨⟨hasset, hkind, havailable⟩, rfl⟩
    exact ⟨_, hasset, _, hkind, havailable, ⟨rfl, rfl⟩, rfl⟩

theorem assetToCollection_foreign {assetId : AssetId} {collection : CollectionId}
    (hasset : assetToCollection X foreign assetId = some (.foreign collection)) :
    foreign.foreignAssetToCollection.get assetId = some collection := by
  unfold assetToCollection at hasset
  split at hasset
  · rename_i found hfound
    cases hasset
    exact hfound
  · unfold localAssetIdToCollection at hasset
    split at hasset
    · cases hasset
    · obtain ⟨start, _, hasset⟩ := Option.bind_eq_some_iff.mp hasset
      split at hasset
      · split at hasset <;> cases hasset
      · cases hasset

theorem depositAsset_ok {location : Location}
    (hrun : (depositAsset what location).run x = .ok () x') :
    XcmStepTo x (.depositAsset what location) x' := by
  obtain ⟨assetId, fungibility⟩ := what
  simp only [depositAsset, okOr_bind_ok] at hrun
  obtain ⟨to', hto, hrun⟩ := hrun
  obtain ⟨⟨locality, kind⟩, _, hresolve, hrun⟩ := bind_ok.mp hrun
  obtain ⟨⟨hasset, hkind, havailable⟩, rfl⟩ := resolveAsset_ok.mp hresolve
  cases fungibility with
  | fungible amount =>
    obtain ⟨token, x₁, hcreate, hrun⟩ := bind_ok.mp hrun
    obtain ⟨_, rfl⟩ := pure_ok.mp hrun
    obtain ⟨chain, hcreated, rfl⟩ := onChain_ok.mp hcreate
    exact .of_moves rfl (XcmExtensions.createItem_fungible_ok hkind hcreated)
  | nonFungible assetInstance =>
    simp only [depositAssetInstance, read_bind_ok] at hrun
    split at hrun
    · obtain ⟨chain, htransfer, rfl⟩ := onChain_ok.mp hrun
      exact .of_moves rfl (XcmExtensions.transferItem_ok hkind htransfer)
    · rename_i collection hnone
      -- the only operation that writes the maps of instances
      obtain ⟨derivative, x₁, hcreate, hrun⟩ := bind_ok.mp hrun
      obtain ⟨chain, hcreated, rfl⟩ := onChain_ok.mp hcreate
      obtain rfl := update_ok.mp hrun
      have hfound : dispatch (x.chain.setBudget 0) collection = some kind := hkind
      obtain ⟨s, hstep, hstorage, rfl⟩ := XcmExtensions.createItem_nft_ok hfound hcreated
      have hentered : XcmStep x
        (.depositAsset ⟨assetId, .nonFungible assetInstance⟩ location) _ _ :=
        .entered (assetToCollection_foreign hasset) hnone hstep
      rw [← (State.storage_eq_iff.mp hstorage).2.1] at hentered
      exact ⟨s, hentered, hstorage⟩
    · exact absurd hrun fail_ok

theorem withdrawAsset_ok {location : Location}
    (hrun : (withdrawAsset what location).run x = .ok () x') :
    XcmStepTo x (.withdrawAsset what location) x' := by
  obtain ⟨assetId, fungibility⟩ := what
  simp only [withdrawAsset, okOr_bind_ok] at hrun
  obtain ⟨from', hfrom, hrun⟩ := hrun
  obtain ⟨⟨locality, kind⟩, _, hresolve, hrun⟩ := bind_ok.mp hrun
  obtain ⟨⟨hasset, hkind, havailable⟩, rfl⟩ := resolveAsset_ok.mp hresolve
  cases fungibility with
  | fungible amount =>
    obtain ⟨chain, hburn, rfl⟩ := onChain_ok.mp hrun
    exact .of_moves rfl (XcmExtensions.burnItem_ok hkind hburn)
  | nonFungible assetInstance =>
    simp only [withdrawAssetInstance, read_bind_ok, okOr_bind_ok] at hrun
    obtain ⟨token, _, hrun⟩ := hrun
    obtain ⟨chain, htransfer, rfl⟩ := onChain_ok.mp hrun
    exact .of_moves rfl (XcmExtensions.transferItem_ok hkind htransfer)

theorem internalTransferAsset_ok {source target : Location}
    (hrun : (internalTransferAsset what source target).run x = .ok () x') :
    XcmStepTo x (.internalTransferAsset what source target) x' := by
  obtain ⟨assetId, fungibility⟩ := what
  simp only [internalTransferAsset, okOr_bind_ok] at hrun
  obtain ⟨from', hfrom, to', hto, hrun⟩ := hrun
  obtain ⟨⟨locality, kind⟩, _, hresolve, hrun⟩ := bind_ok.mp hrun
  obtain ⟨⟨hasset, hkind, havailable⟩, rfl⟩ := resolveAsset_ok.mp hresolve
  cases fungibility with
  | fungible amount =>
    obtain ⟨chain, htransfer, rfl⟩ := onChain_ok.mp hrun
    exact .of_moves rfl (XcmExtensions.transferItem_ok hkind htransfer)
  | nonFungible assetInstance =>
    simp only [read_bind_ok, okOr_bind_ok] at hrun
    obtain ⟨token, _, hrun⟩ := hrun
    obtain ⟨chain, htransfer, rfl⟩ := onChain_ok.mp hrun
    exact .of_moves rfl (XcmExtensions.transferItem_ok hkind htransfer)

theorem xcmStepTo_of_xcmStep (hstep : xcmStep x call = some x') : XcmStepTo x call x' := by
  have hrun := xcmStep_eq_some.mp hstep
  cases call with
  | extrinsic submitted =>
    obtain ⟨chain, hexecute, rfl⟩ := runExtrinsic_ok.mp hrun
    obtain ⟨s, hchain, hstorage⟩ := Call.execute_ok hexecute
    exact ⟨s, .extrinsic hchain, hstorage⟩
  | forceRegisterForeignAsset versionedAssetId tokenPrefix mode =>
    exact forceRegisterForeignAsset_ok hrun
  | forceResetForeignAssetLocation existing new => exact forceResetForeignAssetLocation_ok hrun
  | depositAsset what location => exact depositAsset_ok hrun
  | withdrawAsset what location => exact withdrawAsset_ok hrun
  | internalTransferAsset what source target => exact internalTransferAsset_ok hrun

/-! ## Runs -/

/-- The other pallets make at most one step. -/
theorem XcmStep.chain_cases {s : State T} (hstep : XcmStep x call s foreign) :
    s = x.chain ∨ ∃ budget chainCall, ChainStep (x.chain.setBudget budget) chainCall s := by
  cases hstep with
  | extrinsic hstep => exact .inr ⟨_, _, hstep⟩
  | registered hid hnew hstep hstored => exact .inr ⟨_, _, hstep⟩
  | moved hexisting hnew hfound => exact .inl rfl
  | asset hcall hmove hstep => exact .inr ⟨_, _, hstep⟩
  | entered hasset hnew hstep => exact .inr ⟨_, _, hstep⟩

/-- An invariant of the chain holds in every run with foreign assets. -/
theorem XcmReaches.chain_invariant {P : State T → Prop} {balances : T.Balances}
    {history : List (CallRecord (XcmState X) (XcmCall X))} (hstorage : OfStorage P)
    (hgenesis : P (genesis balances)) (hkeeps : ∀ s call s', P s → ChainStep s call s' → P s')
    (hrun : XcmReaches balances history x) : P x.chain := by
  refine Run.invariant (P := fun x : XcmState X => P x.chain) (fun _ _ => True) hgenesis
    (fun x call x' hbefore _ hstep => ?_) hrun fun _ _ => trivial
  obtain ⟨s, hstep, hsame⟩ := xcmStepTo_of_xcmStep hstep
  refine hstorage hsame ?_
  rcases hstep.chain_cases with rfl | ⟨budget, chainCall, hchain⟩
  · exact hbefore
  · exact hkeeps _ _ _ (hstorage State.storage_setBudget hbefore) hchain

end UniqueChain
