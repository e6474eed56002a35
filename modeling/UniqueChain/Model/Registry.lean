import UniqueChain.Model.Fungible
import UniqueChain.Model.Nonfungible
import UniqueChain.Model.Refungible
import UniqueChain.Model.Sponsoring

/-!
# Creating, configuring and destroying collections

The operations of the pallet `common` on whole collections, the destruction of
a collection in the pallet it belongs to, and the collection of the native
currency.
-/

namespace UniqueChain

open Execution (read update ensure okOr fail forEach)

variable {T : Config}

/-! ## The native currency -/

namespace NativeFungible

/-- The native balance. -/
def balanceOf (s : State T) (account : T.CrossAccountId) : ℕ :=
  T.balance s.balances (T.asSub account)

/-- What the spender may use of `from'`. -/
def checkAllowed (spender from' : T.CrossAccountId) : Exec T ℕ := do
  let s ← read
  match T.addressToToken from' with
  | some token => do
    let owned ← checkIndirectlyOwned spender token none
    ensure (owned = true) CommonError.approvedValueTooLow
    pure (balanceOf s from')
  | none => pure (if T.convEq spender from' then balanceOf s from' else 0)

/-- Moves an amount of the native currency. -/
def transfer (from' to' : T.CrossAccountId) (amount : ℕ) : Exec T Unit := do
  ensureCorrectReceiver to'
  if from' ≠ to' ∧ amount ≠ 0 then do
    let s ← read
    let balances ← okOr (T.transferBalance s.balances (T.asSub from') (T.asSub to') amount)
      DispatchError.currency
    update (·.setBalances balances)
  else
    pure ()

/-- The same for a spender. -/
def transferFrom (spender from' to' : T.CrossAccountId) (amount : ℕ) : Exec T Unit := do
  let allowance ← checkAllowed spender from'
  ensure (amount ≤ allowance) CommonError.approvedValueTooLow
  transfer from' to' amount

end NativeFungible

/-! ## Creation -/

/-- Who pays for a collection. -/
inductive CollectionIssuer (T : Config) where
  | user (payer : T.CrossAccountId)
  | internals

/-- A user pays for a collection and may not set the special flags. -/
def chargeIssuer (flags : CollectionFlags) : CollectionIssuer T → Exec T Unit
  | .user payer => do
    ensure (flags.isAllowedForUser = true) CommonError.noPermission
    let s ← read
    let balances ← okOr (T.payCollectionCreation s.balances (T.asSub payer))
      CommonError.notSufficientFounds
    update (·.setBalances balances)
  | .internals => pure ()

/-- Limits, or the error of their check. -/
def ofLimits (limits : Except LimitError CollectionLimits) : Exec T CollectionLimits :=
  match limits with
  | .ok limits => pure limits
  | .error error => fail error.toCommon

/-- Make every listed account an admin; the result is how many there are. -/
def insertAdmins (id : CollectionId) (isAdmin : FiniteMap (CollectionId × T.CrossAccountId) Bool) :
    ℕ → List T.CrossAccountId → FiniteMap (CollectionId × T.CrossAccountId) Bool × ℕ
  | amount, [] => (isAdmin, amount)
  | amount, admin :: rest =>
    if isAdmin.getD (id, admin) false then
      insertAdmins id isAdmin amount rest
    else
      insertAdmins id (isAdmin.insert (id, admin) true) (amount + 1) rest

variable (id : CollectionId)

/-- Stores a new collection. -/
def initCollectionWrites (collection : Collection T.AccountId)
    (properties : CollectionProperties) (permissions : PropertiesPermissionMap)
    (admins : FiniteMap (CollectionId × T.CrossAccountId) Bool × ℕ) (owner : T.CrossAccountId)
    (s : State T) : State T :=
  ((s.mapCommon fun common =>
    { common with
      createdCollectionCount := id
      collectionById := common.collectionById.insert id collection
      collectionProperties := common.collectionProperties.insert id properties
      collectionPropertyPermissions :=
        common.collectionPropertyPermissions.insert id permissions
      adminAmount := common.adminAmount.insert id admins.2
      isAdmin := admins.1 }).depositEvent
    (.collectionCreated id collection.mode.id collection.owner)).depositLog T.contractAddress
    (.collectionCreated (T.asEth owner) (collectionIdToAddress id))

/-- Creates a collection. -/
def initCollection (owner : T.CrossAccountId) (issuer : CollectionIssuer T)
    (data : CreateCollectionData T.CrossAccountId) : Exec T Unit := do
  chargeIssuer data.flags issuer
  ensure (data.tokenPrefix.length ≤ maxTokenPrefixLength)
    CommonError.collectionTokenPrefixLimitExceeded
  let s ← read
  let id ← okOr (checkedAdd u32Max s.common.createdCollectionCount 1) DispatchError.overflow
  ensure (id - s.common.destroyedCollectionCount ≤ collectionNumberLimit)
    CommonError.totalCollectionsLimitExceeded
  let limits ← ofLimits ((data.limits.map (clampLimits {})).getD (.ok {}))
  let properties ← ofProperties (Properties.new.trySetFromIter data.properties)
  let permissions ← ofProperties (PropertiesMap.new.trySetFromIter
    (data.tokenPropertyPermissions.map fun entry => (entry.key, entry.permission)))
  let admins := insertAdmins id s.common.isAdmin 0 data.adminList
  ensure (admins.2 ≤ collectionAdminsLimit) CommonError.collectionAdminCountExceeded
  update (initCollectionWrites id
    { owner := T.asSub owner
      mode := data.mode
      tokenPrefix := data.tokenPrefix
      sponsorship := (data.pendingSponsor.map fun sponsor =>
        SponsorshipState.unconfirmed (T.asSub sponsor)).getD .disabled
      limits
      permissions := (data.permissions.map (clampPermissions {})).getD {}
      flags := data.flags }
    properties permissions admins owner)

variable (sender : T.CrossAccountId)

/-- The dispatch of a creation checks the decimals of a fungible collection. -/
def createCollection (issuer : CollectionIssuer T)
    (data : CreateCollectionData T.CrossAccountId) : Exec T Unit := do
  ensure (data.mode.decimalPoints ≤ maxDecimalPoints)
    DispatchError.collectionDecimalPointLimitExceeded
  initCollection sender issuer data

/-! ## Statistics -/

/-- The numbers of collections. -/
structure CollectionStats where
  created : ℕ
  destroyed : ℕ
  alive : ℕ
  deriving DecidableEq

/-- The statistics of collections; there are none if the subtraction underflows. -/
def collectionStats (common : CommonStorage T) : Option CollectionStats :=
  let created := common.createdCollectionCount
  let destroyed := common.destroyedCollectionCount
  if destroyed ≤ created then some { created, destroyed, alive := created - destroyed } else none

/-! ## Destruction -/

variable (handle : CollectionHandle T)

/-- The part of a destruction that all kinds of collection share. -/
def destroyCollectionCommon (sender : T.CrossAccountId) : Exec T Unit := do
  ensure (handle.collection.limits.ownerCanDestroy = true) CommonError.noPermission
  handle.checkIsOwner sender
  let s ← read
  let destroyed ← okOr (checkedAdd u32Max s.common.destroyedCollectionCount 1)
    DispatchError.overflow
  update fun s =>
    ((s.mapCommon fun common =>
      { common with
        destroyedCollectionCount := destroyed
        collectionById := common.collectionById.erase handle.id
        adminAmount := common.adminAmount.erase handle.id
        isAdmin := common.isAdmin.eraseWhere fun key => key.1 = handle.id
        allowlist := common.allowlist.eraseWhere fun key => key.1 = handle.id
        collectionProperties := common.collectionProperties.erase handle.id }).depositEvent
      (.collectionDestroyed handle.id)).depositLog T.contractAddress
      (.collectionDestroyed (collectionIdToAddress handle.id))

/-- Token properties are not cleared: a collection without tokens has none. -/
def Nonfungible.clearCollection (nonfungible : NonfungibleStorage T) : NonfungibleStorage T :=
  { nonfungible with
    tokenData := nonfungible.tokenData.eraseWhere fun key => key.1 = id
    tokenChildren := nonfungible.tokenChildren.eraseWhere fun key => key.1.1 = id
    owned := nonfungible.owned.eraseWhere fun key => key.1 = id
    tokensMinted := nonfungible.tokensMinted.erase id
    tokensBurnt := nonfungible.tokensBurnt.erase id
    allowance := nonfungible.allowance.eraseWhere fun key => key.1 = id
    accountBalance := nonfungible.accountBalance.eraseWhere fun key => key.1 = id
    collectionAllowance := nonfungible.collectionAllowance.eraseWhere fun key => key.1 = id }

/-- Removes all entries of a collection. -/
def Fungible.clearCollection (fungible : FungibleStorage T) : FungibleStorage T :=
  { fungible with
    totalSupply := fungible.totalSupply.erase id
    balance := fungible.balance.eraseWhere fun key => key.1 = id
    allowance := fungible.allowance.eraseWhere fun key => key.1 = id }

/-- The operators of a destroyed collection stay in storage. -/
def Refungible.clearCollection (refungible : RefungibleStorage T) : RefungibleStorage T :=
  { refungible with
    tokensMinted := refungible.tokensMinted.erase id
    tokensBurnt := refungible.tokensBurnt.erase id
    totalSupply := refungible.totalSupply.eraseWhere fun key => key.1 = id
    balance := refungible.balance.eraseWhere fun key => key.1.1 = id
    allowance := refungible.allowance.eraseWhere fun key => key.1.1 = id
    owned := refungible.owned.eraseWhere fun key => key.1 = id
    accountBalance := refungible.accountBalance.eraseWhere fun key => key.1 = id }

/-- The baskets for new items and for properties are not cleared. -/
def clearBaskets (unique : UniqueStorage T) : UniqueStorage T :=
  { unique with
    nftTransferBasket := unique.nftTransferBasket.eraseWhere fun key => key.1 = id
    fungibleTransferBasket := unique.fungibleTransferBasket.eraseWhere fun key => key.1 = id
    reFungibleTransferBasket := unique.reFungibleTransferBasket.eraseWhere fun key => key.1.1 = id
    nftApproveBasket := unique.nftApproveBasket.eraseWhere fun key => key.1 = id
    fungibleApproveBasket := unique.fungibleApproveBasket.eraseWhere fun key => key.1 = id
    refungibleApproveBasket := unique.refungibleApproveBasket.eraseWhere fun key => key.1.1 = id }

/-- Destroy an empty collection: refuse one with tokens, then clear the storage
of its pallet. -/
def destroyEmptyCollection (sender : T.CrossAccountId)
    (hasTokens : State T → Bool) (clear : State T → State T) : Exec T Unit := do
  let s ← read
  ensure (hasTokens s = false) CommonError.cantDestroyNotEmptyCollection
  destroyCollectionCommon handle sender
  update clear

/-- The dispatch of a destruction to the pallet of the collection. -/
def destroyDispatched (id : CollectionId) : Exec T Unit := do
  ensure (id ≠ nativeFungibleCollectionId) CommonError.unsupportedOperation
  let handle ← tryGet id
  match handle.collection.mode with
  | .reFungible =>
    destroyEmptyCollection handle sender
      (fun s => Refungible.collectionHasTokens s handle.id)
      (·.mapRefungible (Refungible.clearCollection handle.id))
  | .fungible _ =>
    destroyEmptyCollection handle sender
      (fun s => Fungible.collectionHasTokens s handle.id)
      (·.mapFungible (Fungible.clearCollection handle.id))
  | .nft =>
    destroyEmptyCollection handle sender
      (fun s => Nonfungible.collectionHasTokens s handle.id)
      (·.mapNonfungible (Nonfungible.clearCollection handle.id))

/-- Destroys an empty collection and clears its baskets. -/
def destroyCollection (id : CollectionId) : Exec T Unit := do
  destroyDispatched sender id
  update (·.mapUnique (clearBaskets id))

/-! ## Settings -/

/-- Deposits an event and the log of a change. -/
def collectionChanged (event : Event T) (s : State T) : State T :=
  (s.depositEvent event).depositLog T.contractAddress
    (.collectionChanged (collectionIdToAddress id))

/-- Gives a collection away. -/
def changeOwner (caller newOwner : T.CrossAccountId) : Exec T Unit := do
  handle.checkIsInternal
  handle.checkIsOwner caller
  update (collectionChanged handle.id (.collectionOwnerChanged handle.id (T.asSub newOwner)))
  CollectionHandle.save
    { handle with collection := { handle.collection with owner := T.asSub newOwner } }

/-- Puts a user on the allow list, or takes them off. -/
def toggleAllowlist (sender user : T.CrossAccountId) (allowed : Bool) : Exec T Unit := do
  handle.checkIsOwnerOrAdmin sender
  update fun s =>
    collectionChanged handle.id
      (if allowed then .allowListAddressAdded handle.id user
        else .allowListAddressRemoved handle.id user)
      (s.mapCommon fun common =>
        { common with
          allowlist :=
            if allowed then common.allowlist.insert (handle.id, user) true
            else common.allowlist.erase (handle.id, user) })

variable (user : T.CrossAccountId)

/-- Stores an admin and the number of admins. -/
def toggleAdminWrites (admin : Bool) (amount : ℕ) (s : State T) : State T :=
  collectionChanged id
    (if admin then .collectionAdminAdded id user else .collectionAdminRemoved id user)
    (s.mapCommon fun common =>
      { common with
        adminAmount := common.adminAmount.insert id amount
        isAdmin :=
          if admin then common.isAdmin.insert (id, user) true
          else common.isAdmin.erase (id, user) })

/-- Appoints or dismisses an admin. -/
def toggleAdmin (sender user : T.CrossAccountId) (admin : Bool) : Exec T Unit := do
  handle.checkIsInternal
  handle.checkIsOwner sender
  let s ← read
  let amount := s.common.adminAmount.getD handle.id 0
  if s.common.isAdmin.getD (handle.id, user) false = admin then
    ensure (admin = true) CommonError.userIsNotCollectionAdmin
  else if admin then do
    ensure (amount + 1 ≤ collectionAdminsLimit) CommonError.collectionAdminCountExceeded
    update (toggleAdminWrites handle.id user true (amount + 1))
  else
    update (toggleAdminWrites handle.id user false (amount - 1))

/-- Sets those limits that are given. -/
def updateLimits (newLimit : CollectionLimits) : Exec T Unit := do
  handle.checkIsInternal
  handle.checkIsOwnerOrAdmin user
  let limits ← ofLimits (clampLimits handle.collection.limits newLimit)
  update (collectionChanged handle.id (.collectionLimitSet handle.id))
  CollectionHandle.save { handle with collection := { handle.collection with limits } }

/-- Sets those permissions that are given. -/
def updatePermissions (newPermission : CollectionPermissions) : Exec T Unit := do
  handle.checkIsInternal
  handle.checkIsOwnerOrAdmin user
  update (collectionChanged handle.id (.collectionPermissionSet handle.id))
  CollectionHandle.save
    { handle with collection := { handle.collection with
      permissions := clampPermissions handle.collection.permissions newPermission } }

/-- Enables or disables transfers. -/
def setTransfersEnabledFlag (sender : T.CrossAccountId) (value : Bool) : Exec T Unit := do
  ensure (handle.id ≠ nativeFungibleCollectionId) CommonError.unsupportedOperation
  handle.checkIsInternal
  handle.checkIsOwner sender
  CollectionHandle.save
    { handle with collection := { handle.collection with
      limits := { handle.collection.limits with transfersEnabled? := some value } } }

/-! ### Sponsorship -/

/-- Store a new sponsorship, with its events. -/
def saveSponsorship (sponsorship : SponsorshipState T.AccountId)
    (events : List (Event T)) : Exec T Unit := do
  update fun s =>
    (events.foldl (fun s event => s.depositEvent event) s).depositLog T.contractAddress
      (.collectionChanged (collectionIdToAddress handle.id))
  CollectionHandle.save { handle with collection := { handle.collection with sponsorship } }

/-- Proposes a sponsor. -/
def setSponsor (sender : T.CrossAccountId) (sponsor : T.AccountId) : Exec T Unit := do
  handle.checkIsInternal
  handle.checkIsOwnerOrAdmin sender
  saveSponsorship handle (.unconfirmed sponsor) [.collectionSponsorSet handle.id sponsor]

/-- Set a sponsor who need not confirm; the chain itself does this. -/
def forceSetSponsor (sponsor : T.AccountId) : Exec T Unit := do
  handle.checkIsInternal
  saveSponsorship handle (.confirmed sponsor)
    [.collectionSponsorSet handle.id sponsor, .sponsorshipConfirmed handle.id sponsor]

/-- The proposed sponsor agrees. -/
def confirmSponsorship (sender : T.AccountId) : Exec T Unit := do
  handle.checkIsInternal
  ensure (handle.collection.sponsorship.pendingSponsor = some sender)
    CommonError.confirmSponsorshipFail
  saveSponsorship handle (.confirmed sender) [.sponsorshipConfirmed handle.id sender]

/-- Removes the sponsor. -/
def removeSponsor (sender : T.CrossAccountId) : Exec T Unit := do
  handle.checkIsInternal
  handle.checkIsOwnerOrAdmin sender
  saveSponsorship handle .disabled [.collectionSponsorRemoved handle.id]

/-- The same without a check of who asks. -/
def forceRemoveSponsor : Exec T Unit := do
  handle.checkIsInternal
  saveSponsorship handle .disabled [.collectionSponsorRemoved handle.id]

/-! ### Property permissions -/

/-- Set the permission of one property key, unless the stored one is immutable. -/
def setPropertyPermission (sender : T.CrossAccountId)
    (scope : PropertyScope) (entry : PropertyKeyPermission) : Exec T Unit := do
  handle.checkIsOwnerOrAdmin sender
  let s ← read
  let permissions := s.common.collectionPropertyPermissions.getD handle.id PropertiesMap.new
  ensure ((permissions.get entry.key).all (·.mutable) = true) CommonError.noPermission
  let (_, permissions) ← ofProperties
    (permissions.tryScopedSet scope entry.key entry.permission)
  update fun s =>
    collectionChanged handle.id (.propertyPermissionSet handle.id entry.key)
      (s.mapCommon fun common =>
        { common with
          collectionPropertyPermissions :=
            common.collectionPropertyPermissions.insert handle.id permissions })

/-- The batch that users call; it never applies a scope. -/
def setTokenPropertyPermissions (sender : T.CrossAccountId)
    (entries : List PropertyKeyPermission) : Exec T Unit :=
  Exec.withTransaction (forEach (setPropertyPermission handle sender .none) entries)

end UniqueChain
