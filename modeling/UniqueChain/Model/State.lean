import UniqueChain.Library.AssocMap
import UniqueChain.Library.Execution
import UniqueChain.Model.Collection

/-!
# Configuration, storage and errors

The storage of the pallets that keep collections and tokens, the accounts and
the currency they are generic over, and what an operation may fail with.
-/

namespace UniqueChain

/-! ## Configuration -/

/-- What the pallets are generic over: the accounts, with their Substrate and
their Ethereum side, and the pallet of the native currency.  Nothing is assumed
of them here. -/
structure Config where
  AccountId : Type
  CrossAccountId : Type
  [decEqAccountId : DecidableEq AccountId]
  [decEqCrossAccountId : DecidableEq CrossAccountId]
  asSub : CrossAccountId → AccountId
  asEth : CrossAccountId → H160
  fromEth : H160 → CrossAccountId
  convEq : CrossAccountId → CrossAccountId → Bool
  contractAddress : H160
  /-- The state of the pallet of the native currency. -/
  Balances : Type
  balance : Balances → AccountId → ℕ
  /-- A transfer that may remove the source account. -/
  transferBalance : Balances → AccountId → AccountId → ℕ → Option Balances
  /-- Take the price of a new collection from an account. -/
  payCollectionCreation : Balances → AccountId → Option Balances

attribute [instance] Config.decEqAccountId Config.decEqCrossAccountId

namespace Config

variable (T : Config)

/-- The token whose address an account has. -/
def addressToToken (account : T.CrossAccountId) : Option Token :=
  evmAddressToToken (T.asEth account)

/-- The account of a token. -/
def tokenToAddress (token : Token) : T.CrossAccountId :=
  T.fromEth (evmTokenToAddress token.1 token.2)

/-- The account of the zero address, which may not receive tokens. -/
def zeroAccount : T.CrossAccountId := T.fromEth 0

end Config

/-! ## Errors -/

/-- The errors of `pallet-common`. -/
inductive CommonError where
  | collectionNotFound
  | noPermission
  | cantDestroyNotEmptyCollection
  | publicMintingNotAllowed
  | addressNotInAllowlist
  | collectionTokenPrefixLimitExceeded
  | totalCollectionsLimitExceeded
  | collectionAdminCountExceeded
  | collectionLimitBoundsExceeded
  | ownerPermissionsCantBeReverted
  | transferNotAllowed
  | accountTokenLimitExceeded
  | collectionTokenLimitExceeded
  | tokenNotFound
  | tokenValueTooLow
  | approvedValueTooLow
  | cantApproveMoreThanOwned
  | addressIsNotEthMirror
  | addressIsZero
  | unsupportedOperation
  | notSufficientFounds
  | userIsNotAllowedToNest
  | sourceCollectionIsNotAllowedToNest
  | properties (error : PropertiesError)
  | collectionIsExternal
  | confirmSponsorshipFail
  | userIsNotCollectionAdmin
  | notFungibleDataUsedToMintFungibleCollectionToken
  | fungibleItemsHaveNoId
  deriving DecidableEq

/-- The errors of `pallet-structure`. -/
inductive StructureError where
  | ouroborosDetected
  | depthLimit
  | tokenNotFound
  | cantNestTokenUnderCollection
  deriving DecidableEq

/-- What a call fails with. -/
inductive DispatchError where
  | common (error : CommonError)
  | nesting (error : StructureError)
  | overflow
  | underflow
  | currency
  | collectionDecimalPointLimitExceeded
  | cantBurnNftWithChildren
  | fungibleDisallowsNesting
  | refungibleDisallowsNesting
  | wrongRefungiblePieces
  | repartitionWhileNotOwningAllPieces
  | notNonfungibleDataUsedToMintNonfungibleCollectionToken
  | nonfungibleItemsHaveNoAmount
  deriving DecidableEq

/-- An operation fails with an error, or the code panics. -/
inductive Failure where
  | dispatch (error : DispatchError)
  | panicked
  deriving DecidableEq

instance : Coe CommonError Failure := ⟨fun error => .dispatch (.common error)⟩

instance : Coe StructureError Failure := ⟨fun error => .dispatch (.nesting error)⟩

instance : Coe DispatchError Failure := ⟨.dispatch⟩

/-- The error a pallet makes of a refused limit. -/
def LimitError.toCommon : LimitError → CommonError
  | .collectionLimitBoundsExceeded => .collectionLimitBoundsExceeded
  | .collectionTokenLimitExceeded => .collectionTokenLimitExceeded
  | .ownerPermissionsCantBeReverted => .ownerPermissionsCantBeReverted

/-! ## Events and logs -/

/-- The events of the pallets. -/
inductive Event (T : Config) where
  | collectionCreated (collection : CollectionId) (mode : ℕ) (owner : T.AccountId)
  | collectionDestroyed (collection : CollectionId)
  | itemCreated (collection : CollectionId) (token : TokenId) (owner : T.CrossAccountId)
      (amount : ℕ)
  | itemDestroyed (collection : CollectionId) (token : TokenId) (owner : T.CrossAccountId)
      (amount : ℕ)
  | transfer (collection : CollectionId) (token : TokenId) (source target : T.CrossAccountId)
      (amount : ℕ)
  | approved (collection : CollectionId) (token : TokenId) (owner spender : T.CrossAccountId)
      (amount : ℕ)
  | approvedForAll (collection : CollectionId) (owner operator : T.CrossAccountId) (approve : Bool)
  | tokenPropertySet (collection : CollectionId) (token : TokenId) (key : PropertyKey)
  | tokenPropertyDeleted (collection : CollectionId) (token : TokenId) (key : PropertyKey)
  | propertyPermissionSet (collection : CollectionId) (key : PropertyKey)
  | allowListAddressAdded (collection : CollectionId) (user : T.CrossAccountId)
  | allowListAddressRemoved (collection : CollectionId) (user : T.CrossAccountId)
  | collectionAdminAdded (collection : CollectionId) (user : T.CrossAccountId)
  | collectionAdminRemoved (collection : CollectionId) (user : T.CrossAccountId)
  | collectionLimitSet (collection : CollectionId)
  | collectionOwnerChanged (collection : CollectionId) (owner : T.AccountId)
  | collectionPermissionSet (collection : CollectionId)
  | collectionSponsorSet (collection : CollectionId) (sponsor : T.AccountId)
  | sponsorshipConfirmed (collection : CollectionId) (sponsor : T.AccountId)
  | collectionSponsorRemoved (collection : CollectionId)

/-- The logs for the EVM. -/
inductive LogEvent where
  | erc721Transfer (source target : H160) (token : TokenId)
  | erc721Approval (owner approved : H160) (token : TokenId)
  | approvalForAll (owner operator : H160) (approved : Bool)
  | erc20Transfer (source target : H160) (value : ℕ)
  | erc20Approval (owner spender : H160) (value : ℕ)
  | tokenChanged (token : TokenId)
  | collectionCreated (owner collection : H160)
  | collectionDestroyed (collection : H160)
  | collectionChanged (collection : H160)

/-- A log, with the address of the contract that emits it. -/
structure Log where
  address : H160
  event : LogEvent

/-! ## Storage -/

/-- The storage of `pallet-common`. -/
structure CommonStorage (T : Config) where
  createdCollectionCount : ℕ
  destroyedCollectionCount : ℕ
  collectionById : FiniteMap CollectionId (Collection T.AccountId)
  collectionProperties : FiniteMap CollectionId CollectionProperties
  collectionPropertyPermissions : FiniteMap CollectionId PropertiesPermissionMap
  adminAmount : FiniteMap CollectionId ℕ
  isAdmin : FiniteMap (CollectionId × T.CrossAccountId) Bool
  allowlist : FiniteMap (CollectionId × T.CrossAccountId) Bool

/-- What is stored of an NFT. -/
structure ItemData (T : Config) where
  owner : T.CrossAccountId

/-- The storage of `pallet-nonfungible`. -/
structure NonfungibleStorage (T : Config) where
  tokensMinted : FiniteMap CollectionId ℕ
  tokensBurnt : FiniteMap CollectionId ℕ
  tokenData : FiniteMap Token (ItemData T)
  tokenProperties : FiniteMap Token TokenProperties
  owned : FiniteMap (CollectionId × T.CrossAccountId × TokenId) Bool
  /-- The parent first, then the child. -/
  tokenChildren : FiniteMap (Token × Token) Bool
  accountBalance : FiniteMap (CollectionId × T.CrossAccountId) ℕ
  allowance : FiniteMap Token T.CrossAccountId
  collectionAllowance : FiniteMap (CollectionId × T.CrossAccountId × T.CrossAccountId) Bool
  /-- Kept for other pallets; nothing writes to it. -/
  tokenAuxProperties : FiniteMap (Token × PropertyScope × PropertyKey) (List UInt8)

/-- The storage of `pallet-fungible`. -/
structure FungibleStorage (T : Config) where
  totalSupply : FiniteMap CollectionId ℕ
  balance : FiniteMap (CollectionId × T.CrossAccountId) ℕ
  allowance : FiniteMap (CollectionId × T.CrossAccountId × T.CrossAccountId) ℕ

/-- The storage of `pallet-refungible`. -/
structure RefungibleStorage (T : Config) where
  tokensMinted : FiniteMap CollectionId ℕ
  tokensBurnt : FiniteMap CollectionId ℕ
  tokenProperties : FiniteMap Token TokenProperties
  totalSupply : FiniteMap Token ℕ
  owned : FiniteMap (CollectionId × T.CrossAccountId × TokenId) Bool
  accountBalance : FiniteMap (CollectionId × T.CrossAccountId) ℕ
  balance : FiniteMap (Token × T.CrossAccountId) ℕ
  allowance : FiniteMap (Token × T.CrossAccountId × T.CrossAccountId) ℕ
  collectionAllowance : FiniteMap (CollectionId × T.CrossAccountId × T.CrossAccountId) Bool

/-- The baskets of the pallet `unique`: the block of the last sponsored operation. -/
structure UniqueStorage (T : Config) where
  createItemBasket : FiniteMap (CollectionId × T.AccountId) ℕ
  nftTransferBasket : FiniteMap Token ℕ
  fungibleTransferBasket : FiniteMap (CollectionId × T.AccountId) ℕ
  reFungibleTransferBasket : FiniteMap (Token × T.AccountId) ℕ
  tokenPropertyBasket : FiniteMap Token ℕ
  nftApproveBasket : FiniteMap Token ℕ
  fungibleApproveBasket : FiniteMap (CollectionId × T.AccountId) ℕ
  refungibleApproveBasket : FiniteMap (Token × T.AccountId) ℕ

/-- The whole state.  `budget` is what is left of the nesting budget of the
operation being executed. -/
structure State (T : Config) where
  common : CommonStorage T
  nonfungible : NonfungibleStorage T
  fungible : FungibleStorage T
  refungible : RefungibleStorage T
  unique : UniqueStorage T
  balances : T.Balances
  events : List (Event T)
  logs : List Log
  budget : ℕ

/-- The storage at genesis. -/
def CommonStorage.empty {T : Config} : CommonStorage T :=
  ⟨0, 0, .empty, .empty, .empty, .empty, .empty, .empty⟩

/-- The storage at genesis. -/
def NonfungibleStorage.empty {T : Config} : NonfungibleStorage T :=
  ⟨.empty, .empty, .empty, .empty, .empty, .empty, .empty, .empty, .empty, .empty⟩

/-- The storage at genesis. -/
def FungibleStorage.empty {T : Config} : FungibleStorage T := ⟨.empty, .empty, .empty⟩

/-- The storage at genesis. -/
def RefungibleStorage.empty {T : Config} : RefungibleStorage T :=
  ⟨.empty, .empty, .empty, .empty, .empty, .empty, .empty, .empty, .empty⟩

/-- The storage at genesis. -/
def UniqueStorage.empty {T : Config} : UniqueStorage T :=
  ⟨.empty, .empty, .empty, .empty, .empty, .empty, .empty, .empty⟩

/-- The state before the first collection is created. -/
def genesis {T : Config} (balances : T.Balances) : State T where
  common := .empty
  nonfungible := .empty
  fungible := .empty
  refungible := .empty
  unique := .empty
  balances
  events := []
  logs := []
  budget := 0

/-! ## Writing to one part of the state -/

namespace State

variable {T : Config}

/-- Writes to `pallet-common`. -/
@[simps] def mapCommon (f : CommonStorage T → CommonStorage T) (s : State T) : State T :=
  { s with common := f s.common }

/-- Writes to `pallet-nonfungible`. -/
@[simps] def mapNonfungible (f : NonfungibleStorage T → NonfungibleStorage T) (s : State T) :
    State T :=
  { s with nonfungible := f s.nonfungible }

/-- Writes to `pallet-fungible`. -/
@[simps] def mapFungible (f : FungibleStorage T → FungibleStorage T) (s : State T) : State T :=
  { s with fungible := f s.fungible }

/-- Writes to `pallet-refungible`. -/
@[simps] def mapRefungible (f : RefungibleStorage T → RefungibleStorage T) (s : State T) :
    State T :=
  { s with refungible := f s.refungible }

/-- Writes to the baskets of `pallet-unique`. -/
@[simps] def mapUnique (f : UniqueStorage T → UniqueStorage T) (s : State T) : State T :=
  { s with unique := f s.unique }

/-- Events are kept in the order in which they are deposited. -/
@[simps] def depositEvent (event : Event T) (s : State T) : State T :=
  { s with events := s.events ++ [event] }

/-- The same for logs, with the address of the contract. -/
@[simps] def depositLog (address : H160) (event : LogEvent) (s : State T) : State T :=
  { s with logs := s.logs ++ [⟨address, event⟩] }

/-- Sets the nesting budget that is left. -/
@[simps] def setBudget (budget : ℕ) (s : State T) : State T := { s with budget }

/-- Sets the native balances. -/
@[simps] def setBalances (balances : T.Balances) (s : State T) : State T := { s with balances }

end State

/-- An operation on the state. -/
abbrev Exec (T : Config) (α : Type) := Execution Failure (State T) α

namespace Exec

variable {T : Config}

/-- `with_transaction`: a failing body leaves storage, events and logs as they
were.  The budget is no storage, what was consumed stays consumed. -/
def withTransaction {α : Type} (body : Exec T α) : Exec T α :=
  Execution.transactional (fun before reached => before.setBudget reached.budget) body

end Exec

end UniqueChain
