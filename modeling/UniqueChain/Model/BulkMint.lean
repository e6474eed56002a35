import UniqueChain.Model.Sponsorship

/-!
# The bulk mints of the EVM contracts

The contracts of fungible and of refungible collections take lists of owners and amounts,
and collect each list to a map before they call the pallet.
-/

namespace UniqueChain

open Execution (fail mapError)

variable {T : Config}

/-- The most items of a call. -/
def maxItemsPerBatch : ℕ := 120

/-- Why a call of the EVM stops. -/
inductive EvmError where
  | revert (message : String)
  | dispatch (failure : Failure)

/-- An operation of a contract. -/
abbrev EvmExec (T : Config) (α : Type) := Execution EvmError (State T) α

/-- Go on with the value, or revert. -/
def orRevert {α : Type} : Except String α → EvmExec T α
  | .ok value => pure value
  | .error message => fail (.revert message)

/-- A call of a pallet in a contract. -/
def dispatchToEvm {α : Type} (body : Exec T α) : EvmExec T α := mapError .dispatch body

/-- An account as the EVM spells it: one of the two fields is zero. -/
structure CrossAddress where
  eth : H160
  sub : BitVec 256

/-- The account, where `convertUint256` gives the account of a Substrate key. -/
def CrossAddress.intoSubCrossAccount (convertUint256 : BitVec 256 → T.CrossAccountId)
    (address : CrossAddress) : Except String T.CrossAccountId :=
  if address.eth = 0 ∧ address.sub = 0 then
    .error "All fields of cross account is zeroed"
  else if address.eth = 0 then
    .ok (convertUint256 address.sub)
  else if address.sub = 0 then
    .ok (T.fromEth address.eth)
  else
    .error "All fields of cross account is non zeroed"

/-! ## Fungible collections -/

namespace Fungible

/-- What an address gets. -/
structure AmountForAddress where
  to' : H160
  amount : BitVec 256

/-- Amounts of more than 128 bits are refused. -/
def AmountForAddress.toEntry (given : AmountForAddress) : Except String (T.CrossAccountId × ℕ) :=
  if given.amount.toNat ≤ u128Max then
    .ok (T.fromEth given.to', given.amount.toNat)
  else
    .error "amount overflow"

/-- Mints amounts of a fungible collection. -/
def mintBulk (handle : CollectionHandle T) (caller : H160) (amounts : List AmountForAddress) :
    EvmExec T Unit := do
  let entries ← orRevert (amounts.mapM AmountForAddress.toEntry)
  dispatchToEvm (createMultipleItems handle (T.fromEth caller) (.ofList entries))

end Fungible

/-! ## Refungible collections -/

/-- Keys and values that are too long are refused. -/
def EthProperty.toProperty (property : EthProperty) : Except String Property :=
  if hkey : property.key.length ≤ maxPropertyKeyLength then
    if property.value.length ≤ maxPropertyValueLength then
      .ok ⟨⟨property.key, hkey⟩, property.value⟩
    else
      .error "value too large"
  else
    .error "key too large"

namespace Refungible

/-- What an owner gets of a token. -/
structure OwnerPieces where
  owner : CrossAddress
  pieces : BitVec 128

/-- A token of the call. -/
structure MintTokenData where
  owners : List OwnerPieces
  properties : List EthProperty

variable (convertUint256 : BitVec 256 → T.CrossAccountId)

/-- The address is decoded. -/
def OwnerPieces.toEntry (given : OwnerPieces) : Except String (T.CrossAccountId × ℕ) := do
  let owner ← given.owner.intoSubCrossAccount convertUint256
  .ok (owner, given.pieces.toNat)

/-- The owners of one token. -/
def MintTokenData.toUsers (token : MintTokenData) :
    Except String (AssocMap T.CrossAccountId ℕ) := do
  let entries ← token.owners.mapM (OwnerPieces.toEntry convertUint256)
  let users := AssocMap.ofList entries
  if users.entries.length ≤ maxItemsPerBatch then .ok users else .error "too many users"

/-- The properties of a token. -/
def MintTokenData.toProperties (token : MintTokenData) : Except String (List Property) := do
  let properties ← token.properties.mapM EthProperty.toProperty
  if properties.length ≤ maxPropertiesPerItem then .ok properties
  else .error "too many properties"

/-- One of several tokens may have one owner only. -/
def MintTokenData.toItem (hasMultipleTokens : Bool) (token : MintTokenData) :
    Except String (CreateItemData T) :=
  if hasMultipleTokens ∧ 1 < token.owners.length then
    .error "creation of multiple tokens supported only if they have single owner each"
  else do
    let users ← token.toUsers convertUint256
    let properties ← token.toProperties
    .ok { users, properties }

/-- Mints tokens of a refungible collection. -/
def mintBulkCross (handle : CollectionHandle T) (caller : H160) (tokensData : List MintTokenData) :
    EvmExec T Unit := do
  let data ← orRevert
    (tokensData.mapM (MintTokenData.toItem convertUint256 (decide (1 < tokensData.length))))
  dispatchToEvm (createMultipleItems handle (T.fromEth caller) data)

end Refungible

end UniqueChain
