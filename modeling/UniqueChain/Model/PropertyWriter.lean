import UniqueChain.Model.Structure

/-!
# Writing token properties

The writer of token properties evaluates what it needs to know of the
collection and of the token lazily, and keeps what it has evaluated.  A lazy
value is still the computation, or in progress, or already its result; forcing it
returns the result, and the caller goes on with the computed value.  Forcing a
value that is in progress panics.  A computation has no access to the value it is
for, so nobody sees the value in progress while the computation runs.
-/

namespace UniqueChain

open Execution (read update ensure okOr fail attempt)

variable {T : Config}

/-- A value that is computed when it is first used. -/
inductive LazyValue (T : Config) (α : Type) where
  | pending (compute : Exec T α)
  | inProgress
  | computed (value : α)

namespace LazyValue

variable {α : Type}

/-- Whether it was computed. -/
def hasValue : LazyValue T α → Bool
  | .computed _ => true
  | _ => false

/-- Computes it, once. -/
def forceValue : LazyValue T α → Exec T (LazyValue T α)
  | .computed value => pure (.computed value)
  | .pending compute => do
    let value ← compute
    pure (.computed value)
  | .inProgress => fail Failure.panicked

/-- The value, which has just been forced. -/
def value (lazy : LazyValue T α) : Exec T α := do
  let forced ← lazy.forceValue
  match forced with
  | .computed value => pure value
  | _ => fail Failure.panicked

@[simp] theorem value_pending (compute : Exec T α) : (pending compute).value = compute := by
  unfold value forceValue
  simp only [Execution.bind_assoc, Execution.pure_bind, Execution.bind_pure]

end LazyValue

/-- What the writer knows of the collection, common to all its tokens. -/
structure PropertyWriterLazyCollectionInfo (T : Config) where
  isCollectionAdmin : LazyValue T Bool
  propertyPermissions : LazyValue T PropertiesPermissionMap

/-- What the writer knows of the token. -/
structure PropertyWriterLazyTokenInfo (T : Config) where
  isTokenExist : LazyValue T Bool
  isTokenOwner : LazyValue T (Except Failure Bool)
  storedProperties : LazyValue T TokenProperties

/-- What a write needs to know. -/
structure PropertyWriterInfo (T : Config) where
  collection : PropertyWriterLazyCollectionInfo T
  token : PropertyWriterLazyTokenInfo T

namespace PropertyWriterInfo

variable (info : PropertyWriterInfo T)

/-- Whether the sender is an admin. -/
def forceIsCollectionAdmin : Exec T (Bool × PropertyWriterInfo T) := do
  let value ← info.collection.isCollectionAdmin.value
  pure (value, { info with
    collection := { info.collection with isCollectionAdmin := .computed value } })

/-- The permissions of the collection. -/
def forcePropertyPermissions : Exec T (PropertiesPermissionMap × PropertyWriterInfo T) := do
  let value ← info.collection.propertyPermissions.value
  pure (value, { info with
    collection := { info.collection with propertyPermissions := .computed value } })

/-- Whether the token exists. -/
def forceIsTokenExist : Exec T (Bool × PropertyWriterInfo T) := do
  let value ← info.token.isTokenExist.value
  pure (value, { info with token := { info.token with isTokenExist := .computed value } })

/-- The stored result is raised again each time it is an error. -/
def forceIsTokenOwner : Exec T (Bool × PropertyWriterInfo T) := do
  let value ← info.token.isTokenOwner.value
  match value with
  | .ok isOwner =>
    pure (isOwner, { info with token := { info.token with isTokenOwner := .computed value } })
  | .error error => fail error

/-- The properties of the token. -/
def forceStoredProperties : Exec T (TokenProperties × PropertyWriterInfo T) := do
  let value ← info.token.storedProperties.value
  pure (value, { info with token := { info.token with storedProperties := .computed value } })

/-- Keeps the properties for the next write. -/
def setStoredProperties (properties : TokenProperties) : PropertyWriterInfo T :=
  { info with token := { info.token with storedProperties := .computed properties } }

end PropertyWriterInfo

/-! ## Permissions -/

/-- Admins are permitted, and the sender is one. -/
def isPermittedAsAdmin (collectionAdminPermitted : Bool) (info : PropertyWriterInfo T) :
    Exec T (Bool × PropertyWriterInfo T) :=
  if collectionAdminPermitted then info.forceIsCollectionAdmin else pure (false, info)

/-- The sender is permitted as an admin of the collection or as the owner of the
token; the second is looked at only if the first does not hold. -/
def isPermitted (collectionAdminPermitted tokenOwnerPermitted : Bool)
    (info : PropertyWriterInfo T) : Exec T (Bool × PropertyWriterInfo T) := do
  let (isAdmin, info) ← isPermittedAsAdmin collectionAdminPermitted info
  if isAdmin then
    pure (true, info)
  else if tokenOwnerPermitted then
    info.forceIsTokenOwner
  else
    pure (false, info)

/-- If the owner check has been made and has succeeded, the token exists. -/
def tokenExistDueToOwnerCheckSuccess (info : PropertyWriterInfo T) :
    Exec T (Bool × PropertyWriterInfo T) :=
  if info.token.isTokenOwner.hasValue then info.forceIsTokenOwner else pure (false, info)

/-- The sender is an admin or the owner, as the key permits. -/
def checkTokenPermissions (collectionAdminPermitted tokenOwnerPermitted : Bool)
    (info : PropertyWriterInfo T) : Exec T (PropertyWriterInfo T) := do
  let (permitted, info) ← isPermitted collectionAdminPermitted tokenOwnerPermitted info
  ensure (permitted = true) CommonError.noPermission
  let (exist, info) ← tokenExistDueToOwnerCheckSuccess info
  if exist then
    pure info
  else do
    let (exist, info) ← info.forceIsTokenExist
    ensure (exist = true) CommonError.tokenNotFound
    pure info

/-- An immutable property that is already set cannot be written. -/
def checkMutable (permission : PropertyPermission) (key : PropertyKey)
    (info : PropertyWriterInfo T) : Exec T (PropertyWriterInfo T) :=
  if permission.mutable then
    pure info
  else do
    let (properties, info) ← info.forceStoredProperties
    ensure (properties.get key = none) CommonError.noPermission
    pure info

/-! ## Updates -/

/-- One update of a token property: set it, or delete it. -/
abbrev PropertyUpdate := PropertyKey × Option PropertyValue

/-- Apply one update to a container. -/
def applyUpdate (update : PropertyUpdate) (properties : TokenProperties) :
    Except PropertiesError TokenProperties :=
  match update.2 with
  | some value => (Properties.trySet update.1 value properties).map Prod.snd
  | none => (Properties.remove update.1 properties).map Prod.snd

/-- The event of a write. -/
def propertyEvent (collection : CollectionId) (token : TokenId) (update : PropertyUpdate) :
    Event T :=
  match update.2 with
  | some _ => .tokenPropertySet collection token update.1
  | none => .tokenPropertyDeleted collection token update.1

/-- The result of a container operation, with its error as one of the pallet. -/
def ofProperties {α : Type} (result : Except PropertiesError α) : Exec T α :=
  match result with
  | .ok value => pure value
  | .error error => fail (CommonError.properties error)

/-- One round of the loop of `internal_write_token_properties`. -/
def writeTokenProperty (collection : CollectionId) (token : TokenId)
    (propertyUpdate : PropertyUpdate) (info : PropertyWriterInfo T) :
    Exec T (PropertyWriterInfo T) := do
  let (permissions, info) ← info.forcePropertyPermissions
  let permission := (permissions.get propertyUpdate.1).getD PropertyPermission.none
  let info ← checkMutable permission propertyUpdate.1 info
  let info ← checkTokenPermissions permission.collectionAdmin permission.tokenOwner info
  let (properties, info) ← info.forceStoredProperties
  let properties ← ofProperties (applyUpdate propertyUpdate properties)
  update (·.depositEvent (propertyEvent collection token propertyUpdate))
  pure (info.setStoredProperties properties)

/-- Writes one property after the other. -/
def writeTokenPropertyLoop (collection : CollectionId) (token : TokenId) :
    List PropertyUpdate → PropertyWriterInfo T → Exec T (PropertyWriterInfo T)
  | [], info => pure info
  | propertyUpdate :: rest, info => do
    let info ← writeTokenProperty collection token propertyUpdate info
    writeTokenPropertyLoop collection token rest info

variable (setTokenPropertiesRaw : Token → TokenProperties → State T → State T)

/-- Apply a list of updates to a token and write the result back if the stored
properties have been looked at.  `setTokenPropertiesRaw` is the write of the
pallet the token belongs to. -/
def internalWriteTokenProperties
    (collection : CollectionId) (token : TokenId) (info : PropertyWriterInfo T)
    (updates : List PropertyUpdate) : Exec T (PropertyWriterLazyCollectionInfo T) := do
  let info ← writeTokenPropertyLoop collection token updates info
  match info.token.storedProperties with
  | .computed properties => do
    update fun s => setTokenPropertiesRaw (collection, token) properties
      (s.depositLog T.contractAddress (.tokenChanged token))
    pure info.collection
  | _ => pure info.collection

/-- What a writer knows at first of the collection. -/
def PropertyWriterLazyCollectionInfo.new (handle : CollectionHandle T)
    (sender : T.CrossAccountId) : PropertyWriterLazyCollectionInfo T where
  isCollectionAdmin := .pending do
    let s ← read
    pure (handle.isOwnerOrAdmin s sender)
  propertyPermissions := .pending do
    let s ← read
    pure (s.common.collectionPropertyPermissions.getD handle.id PropertiesMap.new)

/-- Write the properties of a token that has just been created. -/
def writeNewTokenProperties (collection : CollectionId) (info : PropertyWriterLazyCollectionInfo T)
    (mintTargetIsSender : Bool) (token : TokenId) (properties : List Property) :
    Exec T (PropertyWriterLazyCollectionInfo T) :=
  let tokenInfo : PropertyWriterLazyTokenInfo T :=
    { isTokenExist := .pending (pure true)
      isTokenOwner := .pending (pure (.ok mintTargetIsSender))
      storedProperties := .pending (pure Properties.new) }
  internalWriteTokenProperties setTokenPropertiesRaw collection token ⟨info, tokenInfo⟩
    (properties.map fun property => (property.key, some property.value))

/-- Write the properties of a token that already exists, or fail. -/
def writeExistingTokenProperties (tokenExists : State T → TokenId → Bool)
    (checkTokenIndirectOwner : TokenId → Exec T Bool)
    (getTokenPropertiesRaw : State T → Token → Option TokenProperties)
    (handle : CollectionHandle T) (sender : T.CrossAccountId) (token : TokenId)
    (updates : List PropertyUpdate) : Exec T Unit := do
  let tokenInfo : PropertyWriterLazyTokenInfo T :=
    { isTokenExist := .pending do
        let s ← read
        pure (tokenExists s token)
      isTokenOwner := .pending (attempt (checkTokenIndirectOwner token))
      storedProperties := .pending do
        let s ← read
        pure ((getTokenPropertiesRaw s (handle.id, token)).getD Properties.new) }
  let _ ← internalWriteTokenProperties setTokenPropertiesRaw handle.id token
    ⟨.new handle sender, tokenInfo⟩ updates
  pure ()

end UniqueChain
