import UniqueChain.Model.Runtime

/-!
# Foreign assets

The pallet `foreign-assets` lets other chains move assets in and out by XCM.  An
asset is found by its location: it is a foreign asset that was registered, with a
collection of its own, or a local collection.  A foreign NFT instance is
represented by a derivative token, and the pallet remembers which token stands for
which instance.

Fungible assets are burnt when they leave and minted when they come in; an NFT
that leaves is put into the account of the pallet.

Locations and assets, with `matchAndSplit` and `Location.pushedWithInterior`, stand for
those of the external package `staging_xcm`.
-/

namespace UniqueChain

open Execution (read update ensure okOr fail)

variable {T : Config}

/-! ## Locations and assets -/

/-- A step of a location; the kinds the pallet does not look at are numbered. -/
inductive Junction where
  | parachain (id : ℕ)
  | generalIndex (index : ℕ)
  | other (code : ℕ)
  deriving DecidableEq

/-- A place relative to this chain. -/
structure Location where
  parents : ℕ
  interior : List Junction
  deriving DecidableEq

/-- The junction that follows `start`, if it is the last one (`staging_xcm`). -/
def matchAndSplit (interior start : List Junction) : Option Junction :=
  if start.length + 1 = interior.length ∧ interior.take start.length = start then
    interior[start.length]?
  else
    none

/-- An asset is named by its location. -/
abbrev AssetId := Location

/-- What names a token among the tokens of an asset. -/
inductive AssetInstance where
  | undefined
  | index (index : ℕ)
  | array (bytes : List UInt8)
  deriving DecidableEq

/-- An amount of an asset or one of its tokens. -/
inductive Fungibility where
  | fungible (amount : ℕ)
  | nonFungible (assetInstance : AssetInstance)

/-- An asset as a message carries it. -/
structure XcmAsset where
  id : AssetId
  fungibility : Fungibility

/-- What the pallet is generic over, and the parts of other pallets that only it
uses. -/
structure XcmConfig (T : Config) where
  palletAccount : T.CrossAccountId
  selfLocation : Location
  locationToAccountId : Location → Option T.CrossAccountId
  VersionedAssetId : Type
  /-- The asset in the current version of XCM. -/
  toAssetId : VersionedAssetId → Option AssetId
  mintInto : T.Balances → T.AccountId → ℕ → Option T.Balances
  burnFrom : T.Balances → T.AccountId → ℕ → Option T.Balances

/-! ## State and errors -/

/-- The errors of the transactor. -/
inductive XcmError where
  | accountIdConversionFailed
  | assetIdConversionFailed
  | instanceConversionFailed
  | unimplemented
  | noPermission
  | failedToTransactAsset (message : String)
  deriving DecidableEq

/-- The errors of the pallet and of what it calls. -/
inductive ForeignAssetsFailure where
  | foreignAssetAlreadyRegistered
  | badForeignAssetId
  | foreignAssetNotFound
  | dispatch (failure : Failure)
  | xcm (error : XcmError)
  deriving DecidableEq

/-- The events of the pallet. -/
inductive ForeignAssetsEvent (X : XcmConfig T) where
  | foreignAssetRegistered (collection : CollectionId) (assetId : X.VersionedAssetId)
  | foreignAssetMoved (oldAssetId newAssetId : X.VersionedAssetId)

/-- The storage of the pallet. -/
structure ForeignAssetsStorage where
  foreignAssetToCollection : FiniteMap AssetId CollectionId
  collectionToForeignAsset : FiniteMap CollectionId AssetId
  foreignReserveAssetInstanceToTokenId : FiniteMap (CollectionId × AssetInstance) TokenId
  tokenIdToForeignReserveAssetInstance : FiniteMap (CollectionId × TokenId) AssetInstance

/-- The storage at genesis. -/
def ForeignAssetsStorage.empty : ForeignAssetsStorage := ⟨.empty, .empty, .empty, .empty⟩

/-- The state of the other pallets together with that of `foreign-assets`. -/
structure XcmState (X : XcmConfig T) where
  chain : State T
  foreign : ForeignAssetsStorage
  events : List (ForeignAssetsEvent X)

/-- Writes to the storage of the pallet. -/
def XcmState.mapForeign {X : XcmConfig T} (x : XcmState X)
    (f : ForeignAssetsStorage → ForeignAssetsStorage) : XcmState X :=
  { x with foreign := f x.foreign }

/-- The latest event first. -/
def XcmState.depositEvent {X : XcmConfig T} (x : XcmState X) (event : ForeignAssetsEvent X) :
    XcmState X :=
  { x with events := event :: x.events }

/-- An operation of the pallet. -/
abbrev XcmExec (X : XcmConfig T) := Execution ForeignAssetsFailure (XcmState X)

variable {X : XcmConfig T}

/-- Run code of another pallet in a transaction of its own and without budget
for nesting. -/
def onChain {α : Type} (error : Failure → ForeignAssetsFailure) (body : Exec T α) : XcmExec X α :=
  ⟨fun x =>
    match body.run (x.chain.setBudget 0) with
    | .ok value chain => .ok value { x with chain }
    | .error failure _ => .error (error failure) x⟩

/-! ## Registration -/

/-- The modes of collections of foreign assets. -/
inductive ForeignCollectionMode where
  | nft
  | fungible (decimals : ℕ)

/-- The mode of the collection. -/
def ForeignCollectionMode.toCollectionMode : ForeignCollectionMode → CollectionMode
  | .nft => .nft
  | .fungible decimals => .fungible decimals

/-- Creates the collection of a foreign asset. -/
def forceRegisterForeignAsset (versionedAssetId : X.VersionedAssetId) (tokenPrefix : List UInt8)
    (mode : ForeignCollectionMode) : XcmExec X Unit := do
  let assetId ← okOr (X.toAssetId versionedAssetId) .badForeignAssetId
  let x ← read
  ensure (x.foreign.foreignAssetToCollection.contains assetId = false)
    .foreignAssetAlreadyRegistered
  onChain .dispatch (createCollection X.palletAccount .internals
    { mode := mode.toCollectionMode, tokenPrefix, flags := ⟨true, false, false, 0⟩ })
  let x ← read
  let collection := x.chain.common.createdCollectionCount
  update fun x => (x.mapForeign fun foreign =>
    { foreign with
      foreignAssetToCollection := foreign.foreignAssetToCollection.insert assetId collection
      collectionToForeignAsset := foreign.collectionToForeignAsset.insert collection
        assetId }).depositEvent (.foreignAssetRegistered collection versionedAssetId)

/-- Gives a registered asset another id. -/
def forceResetForeignAssetLocation (existingVersionedAssetId newVersionedAssetId :
    X.VersionedAssetId) : XcmExec X Unit := do
  let existingAssetId ← okOr (X.toAssetId existingVersionedAssetId) .badForeignAssetId
  let newAssetId ← okOr (X.toAssetId newVersionedAssetId) .badForeignAssetId
  let x ← read
  let collection ← okOr (x.foreign.foreignAssetToCollection.get existingAssetId)
    .foreignAssetNotFound
  -- what the new identifier stood for is not looked at
  update fun x => (x.mapForeign fun foreign =>
    { foreign with
      foreignAssetToCollection :=
        (foreign.foreignAssetToCollection.erase existingAssetId).insert newAssetId collection
      collectionToForeignAsset :=
        (foreign.collectionToForeignAsset.erase collection).insert collection
          newAssetId }).depositEvent
    (.foreignAssetMoved existingVersionedAssetId newVersionedAssetId)

/-! ## Finding the collection and the token of an asset -/

/-- A collection of this chain or the one of a foreign asset. -/
inductive CollectionLocality where
  | «local» (collection : CollectionId)
  | «foreign» (collection : CollectionId)
  deriving DecidableEq

/-- The collection itself. -/
def CollectionLocality.collection : CollectionLocality → CollectionId
  | .local collection => collection
  | .foreign collection => collection

/-- The junctions that lead to this chain from where the location starts. -/
def interiorOfSelf (X : XcmConfig T) (assetLocation : AssetId) : Option (List Junction) :=
  if assetLocation.parents = 0 then
    some []
  else if assetLocation.parents = X.selfLocation.parents then
    some X.selfLocation.interior
  else
    none

/-- The native currency is here, or at the location of this chain; a collection
is one index below. -/
def localAssetIdToCollection (X : XcmConfig T) (foreign : ForeignAssetsStorage)
    (assetLocation : AssetId) : Option CollectionLocality :=
  if assetLocation = ⟨0, []⟩ ∨ assetLocation = X.selfLocation then
    some (.local nativeFungibleCollectionId)
  else
    (interiorOfSelf X assetLocation).bind fun start =>
    match matchAndSplit assetLocation.interior start with
    | some (.generalIndex collection) =>
      if collection ≤ u32Max ∧ foreign.collectionToForeignAsset.contains collection = false then
        some (.local collection)
      else
        none
    | _ => none

/-- The collection of an asset, registered assets first. -/
def assetToCollection (X : XcmConfig T) (foreign : ForeignAssetsStorage) (assetId : AssetId) :
    Option CollectionLocality :=
  match foreign.foreignAssetToCollection.get assetId with
  | some collection => some (.foreign collection)
  | none => localAssetIdToCollection X foreign assetId

/-- A location with one junction more; there are at most eight (`staging_xcm`). -/
def Location.pushedWithInterior (location : Location) (junction : Junction) : Option Location :=
  if location.interior.length < 8 then
    some { location with interior := location.interior ++ [junction] }
  else
    none

/-- `CurrencyIdConvert::convert`: the location by which other chains name a collection. -/
def currencyIdConvert (X : XcmConfig T) (foreign : ForeignAssetsStorage)
    (collection : CollectionId) : Option Location :=
  if collection = nativeFungibleCollectionId then
    some X.selfLocation
  else
    match foreign.collectionToForeignAsset.get collection with
    | some location => some location
    | none => X.selfLocation.pushedWithInterior (.generalIndex collection)

/-- An index is the number of a token. -/
def localAssetInstanceToTokenId : AssetInstance → Option TokenId
  | .index token => if token ≤ u32Max then some token else none
  | _ => none

/-- The token of an instance; foreign ones are looked up. -/
def assetInstanceToTokenId (foreign : ForeignAssetsStorage) (locality : CollectionLocality)
    (assetInstance : AssetInstance) : Option TokenId :=
  match locality with
  | .local _ => localAssetInstanceToTokenId assetInstance
  | .foreign collection =>
    foreign.foreignReserveAssetInstanceToTokenId.get (collection, assetInstance)

/-! ## The extensions of the collections -/

/-- The data of a new item. -/
inductive XcmItemData where
  | nft
  | fungible (value : ℕ)

namespace XcmExtensions

/-- Refungible collections have none. -/
def available : CollectionDispatch T → Bool
  | .refungible _ => false
  | _ => true

/-- Mints an item of the mode of the collection. -/
def createItemInternal (X : XcmConfig T) (depositor to' : T.CrossAccountId) :
    CollectionDispatch T → XcmItemData → Exec T TokenId
  | .nonfungible handle, .nft => do
    Nonfungible.createMultipleItems handle depositor [⟨to', []⟩]
    let s ← read
    pure (s.nonfungible.tokensMinted.getD handle.id 0)
  | .nonfungible _, .fungible _ =>
    fail DispatchError.notNonfungibleDataUsedToMintNonfungibleCollectionToken
  | .fungible handle, .fungible value => do
    Fungible.createMultipleItems handle depositor ⟨[(to', value)], List.nodup_singleton _⟩
    pure Fungible.defaultToken
  | .nativeFungible, .fungible value => do
    let s ← read
    let balances ← okOr (X.mintInto s.balances (T.asSub to') value) DispatchError.currency
    update (·.setBalances balances)
    pure Fungible.defaultToken
  | .refungible _, _ => fail CommonError.unsupportedOperation
  | _, .nft => fail CommonError.notFungibleDataUsedToMintFungibleCollectionToken

/-- Nothing is created at the address of a token. -/
def createItem (X : XcmConfig T) (depositor to' : T.CrossAccountId) (kind : CollectionDispatch T)
    (data : XcmItemData) : Exec T TokenId := do
  ensure (T.addressToToken to' = none) CommonError.unsupportedOperation
  createItemInternal X depositor to' kind data

/-- Only NFTs have children. -/
def tokenHasChildren (s : State T) (token : TokenId) : CollectionDispatch T → Bool
  | .nonfungible handle => Nonfungible.tokenHasChildren s (handle.id, token)
  | _ => false

/-- Moves an item without checking who asks. -/
def transferItemInternal (depositor from' to' : T.CrossAccountId) (token : TokenId) (amount : ℕ) :
    CollectionDispatch T → Exec T Unit
  | .nonfungible handle => do
    ensure (amount = 1) DispatchError.nonfungibleItemsHaveNoAmount
    Nonfungible.transferInternal handle depositor from' to' token
  | .fungible handle => do
    ensure (token = Fungible.defaultToken) CommonError.fungibleItemsHaveNoId
    Fungible.transferInternal handle depositor from' to' amount
  | .nativeFungible => do
    ensure (token = Fungible.defaultToken) CommonError.fungibleItemsHaveNoId
    NativeFungible.transfer from' to' amount
  | .refungible _ => fail CommonError.unsupportedOperation

/-- Nothing is put at the address of a token, and tokens with children stay. -/
def transferItem (depositor from' to' : T.CrossAccountId) (token : TokenId) (amount : ℕ)
    (kind : CollectionDispatch T) : Exec T Unit := do
  ensure (T.addressToToken to' = none) CommonError.unsupportedOperation
  let s ← read
  ensure (tokenHasChildren s token kind = false) CommonError.unsupportedOperation
  transferItemInternal depositor from' to' token amount kind

/-- Burns an item. -/
def burnItem (X : XcmConfig T) (from' : T.CrossAccountId) (token : TokenId) (amount : ℕ) :
    CollectionDispatch T → Exec T Unit
  | .nonfungible handle => do
    ensure (amount = 1) DispatchError.nonfungibleItemsHaveNoAmount
    Nonfungible.burn handle from' token
  | .fungible handle => do
    ensure (token = Fungible.defaultToken) CommonError.fungibleItemsHaveNoId
    Fungible.burn handle from' amount
  | .nativeFungible => do
    ensure (token = Fungible.defaultToken) CommonError.fungibleItemsHaveNoId
    let s ← read
    let balances ← okOr (X.burnFrom s.balances (T.asSub from') amount) DispatchError.currency
    update (·.setBalances balances)
  | .refungible _ => fail CommonError.unsupportedOperation

end XcmExtensions

/-! ## Deposits, withdrawals and transfers -/

/-- The error of a failed call; its reason is dropped. -/
def ForeignAssetsFailure.transact (message : String) (_ : Failure) : ForeignAssetsFailure :=
  .xcm (.failedToTransactAsset message)

/-- Mint a derivative token for an instance that has none yet. -/
def createForeignAssetInstance (kind : CollectionDispatch T) (collection : CollectionId)
    (assetInstance : AssetInstance) (to' : T.CrossAccountId) : XcmExec X Unit := do
  let derivative ← onChain (.transact "non-fungible item deposit failed")
    (XcmExtensions.createItem X X.palletAccount to' kind .nft)
  update (·.mapForeign fun foreign =>
    { foreign with
      foreignReserveAssetInstanceToTokenId :=
        foreign.foreignReserveAssetInstanceToTokenId.insert (collection, assetInstance) derivative
      tokenIdToForeignReserveAssetInstance :=
        foreign.tokenIdToForeignReserveAssetInstance.insert (collection, derivative)
          assetInstance })

/-- Moves a token out of the pallet's account or mints it. -/
def depositAssetInstance (kind : CollectionDispatch T) (locality : CollectionLocality)
    (assetInstance : AssetInstance) (to' : T.CrossAccountId) : XcmExec X Unit := do
  let x ← read
  match locality, assetInstanceToTokenId x.foreign locality assetInstance with
  | _, some token =>
    onChain (.transact "non-fungible item deposit failed")
      (XcmExtensions.transferItem X.palletAccount X.palletAccount to' token 1 kind)
  | .foreign collection, none => createForeignAssetInstance kind collection assetInstance to'
  | .local _, none => fail (.xcm .instanceConversionFailed)

/-- Moves a token without children into the pallet's account. -/
def withdrawAssetInstance (kind : CollectionDispatch T) (locality : CollectionLocality)
    (assetInstance : AssetInstance) (from' : T.CrossAccountId) : XcmExec X Unit := do
  let x ← read
  let token ← okOr (assetInstanceToTokenId x.foreign locality assetInstance)
    (.xcm .instanceConversionFailed)
  onChain (.transact "non-fungible item withdraw failed")
    (XcmExtensions.transferItem from' from' X.palletAccount token 1 kind)

/-- The collection of an asset, with the extensions that `error` reports missing. -/
def resolveAsset (assetId : AssetId) (error : XcmError) :
    XcmExec X (CollectionLocality × CollectionDispatch T) := do
  let x ← read
  let locality ← okOr (assetToCollection X x.foreign assetId) (.xcm .assetIdConversionFailed)
  let kind ← okOr (CollectionDispatch.dispatch x.chain locality.collection)
    (.xcm .assetIdConversionFailed)
  ensure (XcmExtensions.available kind = true) (.xcm error)
  pure (locality, kind)

/-- Mints an amount or deposits a token. -/
def depositAsset (what : XcmAsset) (to' : Location) : XcmExec X Unit := do
  let to' ← okOr (X.locationToAccountId to') (.xcm .accountIdConversionFailed)
  let (locality, kind) ← resolveAsset what.id .unimplemented
  match what.fungibility with
  | .fungible amount => do
    let _ ← onChain (.transact "fungible item deposit failed")
      (XcmExtensions.createItem X X.palletAccount to' kind (.fungible amount))
    pure ()
  | .nonFungible assetInstance => depositAssetInstance kind locality assetInstance to'

/-- Burns an amount or withdraws a token. -/
def withdrawAsset (what : XcmAsset) (from' : Location) : XcmExec X Unit := do
  let from' ← okOr (X.locationToAccountId from') (.xcm .accountIdConversionFailed)
  let (locality, kind) ← resolveAsset what.id .noPermission
  match what.fungibility with
  | .fungible amount =>
    onChain (.transact "fungible item withdraw failed")
      (XcmExtensions.burnItem X from' Fungible.defaultToken amount kind)
  | .nonFungible assetInstance => withdrawAssetInstance kind locality assetInstance from'

/-- Moves an asset between two accounts of this chain. -/
def internalTransferAsset (what : XcmAsset) (from' to' : Location) : XcmExec X Unit := do
  let from' ← okOr (X.locationToAccountId from') (.xcm .accountIdConversionFailed)
  let to' ← okOr (X.locationToAccountId to') (.xcm .accountIdConversionFailed)
  let (locality, kind) ← resolveAsset what.id .noPermission
  match what.fungibility with
  | .fungible amount =>
    onChain (.transact "fungible item transfer failed")
      (XcmExtensions.transferItem from' from' to' Fungible.defaultToken amount kind)
  | .nonFungible assetInstance => do
    let x ← read
    let token ← okOr (assetInstanceToTokenId x.foreign locality assetInstance)
      (.xcm .instanceConversionFailed)
    onChain (.transact "non-fungible item transfer failed")
      (XcmExtensions.transferItem from' from' to' token 1 kind)

/-! ## Runs -/

/-- What changes the state. -/
inductive XcmCall (X : XcmConfig T) where
  | extrinsic (submitted : Extrinsic T)
  | forceRegisterForeignAsset (versionedAssetId : X.VersionedAssetId) (tokenPrefix : List UInt8)
      (mode : ForeignCollectionMode)
  | forceResetForeignAssetLocation (existingVersionedAssetId newVersionedAssetId :
      X.VersionedAssetId)
  | depositAsset (what : XcmAsset) (to' : Location)
  | withdrawAsset (what : XcmAsset) (from' : Location)
  | internalTransferAsset (what : XcmAsset) (from' to' : Location)

/-- An extrinsic of another pallet, with its own nesting budget. -/
def runExtrinsic (extrinsic : Extrinsic T) : XcmExec X Unit :=
  ⟨fun x =>
    match extrinsic.call.execute.run (x.chain.setBudget extrinsic.budget) with
    | .ok _ chain => .ok () { x with chain }
    | .error failure _ => .error (.dispatch failure) x⟩

/-- What a call does. -/
def XcmCall.execute : XcmCall X → XcmExec X Unit
  | .extrinsic submitted => runExtrinsic submitted
  | .forceRegisterForeignAsset versionedAssetId tokenPrefix mode =>
    UniqueChain.forceRegisterForeignAsset versionedAssetId tokenPrefix mode
  | .forceResetForeignAssetLocation existingVersionedAssetId newVersionedAssetId =>
    UniqueChain.forceResetForeignAssetLocation existingVersionedAssetId newVersionedAssetId
  | .depositAsset what to' => UniqueChain.depositAsset what to'
  | .withdrawAsset what from' => UniqueChain.withdrawAsset what from'
  | .internalTransferAsset what from' to' => UniqueChain.internalTransferAsset what from' to'

/-- The state after a successful call. -/
def xcmStep (x : XcmState X) (call : XcmCall X) : Option (XcmState X) :=
  match call.execute.run x with
  | .ok _ x' => some x'
  | .error _ _ => none

theorem xcmStep_eq_some {x x' : XcmState X} {call : XcmCall X} :
    xcmStep x call = some x' ↔ call.execute.run x = .ok () x' := by
  unfold xcmStep
  split <;> simp_all

/-- Nothing is registered at genesis. -/
def xcmGenesis (balances : T.Balances) : XcmState X := ⟨genesis balances, .empty, []⟩

/-- A run from a genesis with the given balances and without foreign assets. -/
def XcmReaches (balances : T.Balances) (history : List (CallRecord (XcmState X) (XcmCall X)))
    (x : XcmState X) : Prop :=
  Run xcmStep (xcmGenesis balances) history x

end UniqueChain
