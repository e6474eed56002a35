import UniqueChain.Model.Handle

/-!
# Nesting: walking up from a token, and the index of children

The pallet `structure` follows the owners of a token upwards, under a budget,
and keeps the index of the children of an NFT.  The checks and the index of the
pallets it dispatches to are in this file as well, since they call back into
the walk.
-/

namespace UniqueChain

open Execution (read update ensure okOr fail)

variable {T : Config}

/-- Why a token has no owner to name. -/
inductive TokenOwnerError where
  | notFound
  | multipleOwners
  deriving DecidableEq

/-! ## Owners of a token -/

/-- The single holder of the pieces of a refungible token.  The entries are
counted, not their amounts. -/
def Refungible.tokenOwner (s : State T) (token : Token) : Except TokenOwnerError T.CrossAccountId :=
  match s.refungible.balance.soleKey (fun key => key.1 = token) with
  | some key => .ok key.2
  | none =>
    if s.refungible.balance.anyKey (fun key => key.1 = token) then
      .error .multipleOwners
    else
      .error .notFound

/-- The owner of an NFT. -/
def Nonfungible.tokenOwner (s : State T) (token : Token) :
    Except TokenOwnerError T.CrossAccountId :=
  match s.nonfungible.tokenData.get token with
  | some item => .ok item.owner
  | none => .error .notFound

/-- The single owner of a token of any kind. -/
def CollectionDispatch.tokenOwner (s : State T) (token : TokenId) :
    CollectionDispatch T → Except TokenOwnerError T.CrossAccountId
  | .fungible _ => .error .multipleOwners
  | .nonfungible handle => Nonfungible.tokenOwner s (handle.id, token)
  | .refungible handle => Refungible.tokenOwner s (handle.id, token)
  | .nativeFungible => .error .multipleOwners

/-- What a token belongs to. -/
inductive Parent (T : Config) where
  | user (account : T.CrossAccountId)
  | tokenNotFound
  | multipleOwners
  | token (token : Token)

/-- The account that owns a token, or the token it is nested in. -/
def findParent (s : State T) (token : Token) : Parent T :=
  match CollectionDispatch.dispatch s token.1 with
  | none => .tokenNotFound
  | some handle =>
    match handle.tokenOwner s token.2 with
    | .ok owner =>
      match T.addressToToken owner with
      | some parent => .token parent
      | none => .user owner
    | .error .multipleOwners => .multipleOwners
    | .error .notFound => .tokenNotFound

/-! ## The chain of parents -/

/-- The iterator over the parents of a token. -/
structure ParentChain where
  current : Token
  finished : Bool
  visited : List Token

/-- The walk before its first step. -/
def parentChain (token : Token) : ParentChain :=
  { current := token, finished := false, visited := [token] }

/-- The next parent, or the error that a token is met twice. -/
def ParentChain.next (s : State T) (chain : ParentChain) :
    Option (Except StructureError (Parent T) × ParentChain) :=
  if chain.finished then
    none
  else
    match findParent s chain.current with
    | .token parent =>
      if parent ∈ chain.visited then
        some (.error .ouroborosDetected, { chain with current := parent, finished := true })
      else
        some (.ok (.token parent),
          { chain with current := parent, visited := parent :: chain.visited })
    | parent => some (.ok parent, { chain with finished := true })

/-- The search of `find_topmost_owner`, with the budget left after it.  Each
item that is looked at costs one unit. -/
def findTopmostOwnerLoop (s : State T) : ℕ → ParentChain → Option (Parent T) × ℕ
  | 0, _ => (none, 0)
  | budget + 1, chain =>
    match chain.next s with
    | none => (none, budget + 1)
    | some (.ok (.token _), chain) => findTopmostOwnerLoop s budget chain
    | some (.ok parent, _) => (some parent, budget)
    -- An error is no owner; the search goes on to the end of the chain.
    | some (.error _, chain) => findTopmostOwnerLoop s budget chain

/-- The account at the top of the chain; `none` if it has several owners. -/
def findTopmostOwner (token : Token) : Exec T (Option T.CrossAccountId) := do
  let s ← read
  let result := findTopmostOwnerLoop s s.budget (parentChain token)
  update (·.setBudget result.2)
  match result.1 with
  | none => fail StructureError.depthLimit
  | some (.user account) => pure (some account)
  | some .multipleOwners => pure none
  | some _ => fail StructureError.tokenNotFound

/-- The walk of `get_checked_topmost_owner`, with the budget left after it. -/
def getCheckedTopmostOwnerLoop (s : State T) (forNest : Option Token) :
    ℕ → ParentChain → Except StructureError (Option T.CrossAccountId) × ℕ
  | 0, _ => (.error .depthLimit, 0)
  | budget + 1, chain =>
    match chain.next s with
    | none => (.error .depthLimit, budget + 1)
    | some (.error error, _) => (.error error, budget)
    | some (.ok (.token parent), chain) =>
      if some parent = forNest then
        (.error .ouroborosDetected, budget)
      else
        getCheckedTopmostOwnerLoop s forNest budget chain
    | some (.ok (.user account), _) => (.ok (some account), budget)
    | some (.ok .tokenNotFound, _) => (.error .tokenNotFound, budget)
    | some (.ok .multipleOwners, _) => (.ok none, budget)

/-- The account at the top of the chain, provided that `forNest` is not on it. -/
def getCheckedTopmostOwner (token : Token) (forNest : Option Token) :
    Exec T (Option T.CrossAccountId) := do
  let s ← read
  ensure (some token ≠ forNest) StructureError.ouroborosDetected
  let result := getCheckedTopmostOwnerLoop s forNest s.budget (parentChain token)
  update (·.setBudget result.2)
  match result.1 with
  | .ok owner => pure owner
  | .error error => fail error

/-- The account a user stands for: the top of its chain if it is a token. -/
def targetParent (user : T.CrossAccountId) : Exec T (Option T.CrossAccountId) :=
  match T.addressToToken user with
  | some token => findTopmostOwner token
  | none => pure (some user)

/-- The user owns the token, directly or through other tokens. -/
def checkIndirectlyOwned (user : T.CrossAccountId) (token : Token) (forNest : Option Token) :
    Exec T Bool := do
  match ← targetParent user with
  | none => pure false
  | some target => do
    let owner ← getCheckedTopmostOwner token forNest
    pure (decide (owner = some target))

/-! ## Checks and index of the collection that is nested under -/

/-- The collection lets token owners nest, and the sender owns the token `under`. -/
def Nonfungible.mayNestAsOwner (handle : CollectionHandle T) (sender : T.CrossAccountId)
    (child : Token) (under : TokenId) : Exec T Bool :=
  if handle.collection.permissions.nesting.tokenOwner then
    checkIndirectlyOwned sender (handle.id, under) (some child)
  else
    pure false

/-- The sender may nest `child` under the NFT `under` of the collection. -/
def Nonfungible.checkNestingPermission (handle : CollectionHandle T) (sender : T.CrossAccountId)
    (child : Token) (under : TokenId) : Exec T Unit := do
  let ownedBySender ← Nonfungible.mayNestAsOwner handle sender child under
  let s ← read
  if ownedBySender then
    pure ()
  else if handle.collection.permissions.nesting.collectionAdmin &&
      handle.isOwnerOrAdmin s sender then do
    let owner ← getCheckedTopmostOwner (handle.id, under) (some child)
    ensure owner.isSome CommonError.tokenNotFound
  else
    fail CommonError.userIsNotAllowedToNest

/-- Whether a child may be nested under an NFT. -/
def Nonfungible.checkNesting (handle : CollectionHandle T) (sender : T.CrossAccountId)
    (child : Token) (under : TokenId) : Exec T Unit := do
  Nonfungible.checkNestingPermission handle sender child under
  match handle.collection.permissions.nesting.restricted with
  | some whitelist =>
    ensure (child.1 ∈ whitelist) CommonError.sourceCollectionIsNotAllowedToNest
  | none => pure ()

/-- Enters a child; the native currency has no entries. -/
def Nonfungible.nest (under child : Token) (s : State T) : State T :=
  if child.1 = nativeFungibleCollectionId then
    s
  else
    s.mapNonfungible fun nonfungible =>
      { nonfungible with tokenChildren := nonfungible.tokenChildren.insert (under, child) true }

/-- Removes the entry of a child. -/
def Nonfungible.unnest (under child : Token) (s : State T) : State T :=
  if child.1 = nativeFungibleCollectionId then
    s
  else
    s.mapNonfungible fun nonfungible =>
      { nonfungible with tokenChildren := nonfungible.tokenChildren.erase (under, child) }

namespace CollectionDispatch

/-- Only NFTs can have children. -/
def checkNesting (sender : T.CrossAccountId) (child : Token) (under : TokenId) :
    CollectionDispatch T → Exec T Unit
  | .fungible _ => fail DispatchError.fungibleDisallowsNesting
  | .nonfungible handle => Nonfungible.checkNesting handle sender child under
  | .refungible _ => fail DispatchError.refungibleDisallowsNesting
  | .nativeFungible => fail CommonError.unsupportedOperation

/-- Only the nonfungible pallet keeps children. -/
def nest (under : TokenId) (child : Token) (s : State T) : CollectionDispatch T → State T
  | .nonfungible handle => Nonfungible.nest (handle.id, under) child s
  | _ => s

/-- Only the nonfungible pallet keeps children. -/
def unnest (under : TokenId) (child : Token) (s : State T) : CollectionDispatch T → State T
  | .nonfungible handle => Nonfungible.unnest (handle.id, under) child s
  | _ => s

end CollectionDispatch

/-! ## Nesting on a change of owner -/

/-- If the account is a token address, act on the collection of the token. -/
def tryExecIfToken (account : T.CrossAccountId)
    (action : CollectionDispatch T → TokenId → Exec T Unit) : Exec T Unit := do
  ensure (isCollection (T.asEth account) = false) StructureError.cantNestTokenUnderCollection
  match T.addressToToken account with
  | none => pure ()
  | some token => do
    let s ← read
    let collection ← okOr (CollectionDispatch.dispatch s token.1) CommonError.collectionNotFound
    action collection token.2

/-- The check, if the account is a token. -/
def checkNesting (sender under : T.CrossAccountId) (child : Token) : Exec T Unit :=
  tryExecIfToken under fun collection parent => collection.checkNesting sender child parent

/-- Checks and enters the child, if the account is a token. -/
def nestIfSentToToken (sender under : T.CrossAccountId) (child : Token) : Exec T Unit :=
  tryExecIfToken under fun collection parent => do
    collection.checkNesting sender child parent
    update (collection.nest parent child)

/-- `unwrap` of a result: the error is a panic. -/
def Exec.unwrap {α : Type} (body : Exec T α) : Exec T α :=
  ⟨fun s =>
    match body.run s with
    | .ok value reached => .ok value reached
    | .error _ reached => .error .panicked reached⟩

/-- Enters the child of a checked mint. -/
def nestIfSentToTokenUnchecked (owner : T.CrossAccountId) (child : Token) : Exec T Unit :=
  Exec.unwrap <| tryExecIfToken owner fun collection parent =>
    update (collection.nest parent child)

/-- An error is only logged. -/
def unnestIfNested (owner : T.CrossAccountId) (child : Token) : Exec T Unit :=
  Execution.ignoreError <| tryExecIfToken owner fun collection parent =>
    update (collection.unnest parent child)

end UniqueChain
