import UniqueChain.Model.PropertyWriter

/-!
# The pallet of non-fungible tokens

An operation first makes all its checks and then writes.  The writes after the
checks are functions on the state, named after their operation.
-/

namespace UniqueChain.Nonfungible

open Execution (read update ensure okOr fail forEach)

variable {T : Config}

/-- The owner and the properties of a new token. -/
structure CreateItemData (T : Config) where
  owner : T.CrossAccountId
  properties : List Property := []

/-! ## Reading -/

variable (s : State T)

/-- Whether a token has data. -/
def tokenExists (token : Token) : Bool := s.nonfungible.tokenData.contains token

/-- Whether a collection has a token. -/
def collectionHasTokens (collection : CollectionId) : Bool :=
  s.nonfungible.tokenData.anyKey fun token => token.1 = collection

/-- Whether something is nested under a token. -/
def tokenHasChildren (token : Token) : Bool :=
  s.nonfungible.tokenChildren.anyKey fun key => key.1 = token

/-- The subtraction of the source would panic below zero. -/
def totalSupply (collection : CollectionId) : Option ℕ :=
  checkedSub (s.nonfungible.tokensMinted.getD collection 0)
    (s.nonfungible.tokensBurnt.getD collection 0)

/-- The number of the next token, within the limit. -/
def nextTokenId (handle : CollectionHandle T) : Except CommonError TokenId :=
  match checkedAdd u32Max (s.nonfungible.tokensMinted.getD handle.id 0) 1 with
  | none => .error .collectionTokenLimitExceeded
  | some next =>
    if next ≤ handle.collection.limits.tokenLimit then
      .ok next
    else
      .error .collectionTokenLimitExceeded

/-! ## Approvals -/

variable (collection : CollectionId) (handle : CollectionHandle T) (sender : T.CrossAccountId)

/-- Write or clear the single approval of a token.  With `assumeImplicitEth`
the clearing is not logged: the transfer log implies it. -/
def setAllowanceUnchecked
    (token : TokenId) (spender : Option T.CrossAccountId) (assumeImplicitEth : Bool)
    (s : State T) : State T :=
  let oldSpender := s.nonfungible.allowance.get (collection, token)
  match spender with
  | some spender =>
    let written := (s.mapNonfungible fun nonfungible =>
        { nonfungible with
          allowance := nonfungible.allowance.insert (collection, token) spender }).depositLog
      (collectionIdToAddress collection)
      (.erc721Approval (T.asEth sender) (T.asEth spender) token)
    match oldSpender with
    | some old =>
      if old = spender then
        written
      else
        (written.depositEvent (.approved collection token sender old 0)).depositEvent
          (.approved collection token sender spender 1)
    | none => written.depositEvent (.approved collection token sender spender 1)
  | none =>
    let cleared := s.mapNonfungible fun nonfungible =>
      { nonfungible with allowance := nonfungible.allowance.erase (collection, token) }
    let logged :=
      if assumeImplicitEth then
        cleared
      else
        cleared.depositLog (collectionIdToAddress collection)
          (.erc721Approval (T.asEth sender) 0 token)
    match oldSpender with
    | some old => logged.depositEvent (.approved collection token sender old 0)
    | none => logged

/-- Approves a spender for a token, or nobody. -/
def setAllowance (token : TokenId) (spender : Option T.CrossAccountId) : Exec T Unit := do
  handle.checkAccess (sender :: spender.toList)
  forEach ensureCorrectReceiver spender.toList
  let s ← read
  let tokenData ← okOr (s.nonfungible.tokenData.get (handle.id, token)) CommonError.tokenNotFound
  ensure (tokenData.owner = sender ∨ handle.ignoresOwnedAmount s sender = true)
    CommonError.cantApproveMoreThanOwned
  update (setAllowanceUnchecked handle.id sender token spender false)

/-- Approve from the Ethereum mirror of the sender. -/
def setAllowanceFrom (sender from' : T.CrossAccountId)
    (token : TokenId) (to' : Option T.CrossAccountId) : Exec T Unit := do
  handle.checkAccess (sender :: from' :: to'.toList)
  forEach ensureCorrectReceiver to'.toList
  ensure (T.convEq sender from' = true) CommonError.addressIsNotEthMirror
  let s ← read
  let tokenData ← okOr (s.nonfungible.tokenData.get (handle.id, token)) CommonError.tokenNotFound
  ensure (tokenData.owner = from' ∨
      handle.collection.limits.ownerCanTransfer = true ∧
        (handle.isOwnerOrAdmin s sender = true ∨ handle.isOwnerOrAdmin s from' = true))
    CommonError.cantApproveMoreThanOwned
  update (setAllowanceUnchecked handle.id from' token to' false)

/-- Grant or revoke the status of an operator. -/
def setAllowanceForAll (owner operator : T.CrossAccountId) (approve : Bool) : Exec T Unit := do
  handle.checkAccess [owner, operator]
  ensureCorrectReceiver operator
  update fun s =>
    ((s.mapNonfungible fun nonfungible =>
      { nonfungible with
        collectionAllowance :=
          nonfungible.collectionAllowance.insert (handle.id, owner, operator) approve }).depositLog
      (collectionIdToAddress handle.id)
      (.approvalForAll (T.asEth owner) (T.asEth operator) approve)).depositEvent
      (.approvedForAll handle.id owner operator approve)

/-- The spender may use the token of `from'`. -/
def checkAllowed (spender from' : T.CrossAccountId) (token : TokenId) : Exec T Unit :=
  if T.convEq spender from' then
    pure ()
  else do
    handle.checkAccess [spender]
    let s ← read
    if handle.ignoresTokenRestrictions s spender then
      pure ()
    else
      match T.addressToToken from' with
      | some source => do
        let owned ← checkIndirectlyOwned spender source none
        ensure (owned = true) CommonError.approvedValueTooLow
      | none =>
        ensure (s.nonfungible.allowance.get (handle.id, token) = some spender ∨
            s.nonfungible.collectionAllowance.getD (handle.id, from', spender) false = true)
          CommonError.approvedValueTooLow

/-! ## Burning -/

/-- Store a counter of tokens; an account without tokens has no entry. -/
def setAccountBalance (account : T.CrossAccountId) (balance : ℕ)
    (nonfungible : NonfungibleStorage T) : NonfungibleStorage T :=
  { nonfungible with
    accountBalance := nonfungible.accountBalance.putAmount (collection, account) balance }

/-- Removes a token and all that is stored of it. -/
def burnWrites (token : TokenId) (owner : T.CrossAccountId) (burnt : ℕ) (s : State T) : State T :=
  let oldSpender := s.nonfungible.allowance.get (collection, token)
  let removed := s.mapNonfungible fun nonfungible =>
    { nonfungible with
      owned := nonfungible.owned.erase (collection, owner, token)
      tokensBurnt := nonfungible.tokensBurnt.insert collection burnt
      tokenData := nonfungible.tokenData.erase (collection, token)
      tokenProperties := nonfungible.tokenProperties.erase (collection, token)
      tokenAuxProperties :=
        nonfungible.tokenAuxProperties.eraseWhere fun key => key.1 = (collection, token)
      allowance := nonfungible.allowance.erase (collection, token) }
  let approvalCleared :=
    match oldSpender with
    | some old => removed.depositEvent (.approved collection token owner old 0)
    | none => removed
  (approvalCleared.depositLog (collectionIdToAddress collection)
    (.erc721Transfer (T.asEth owner) 0 token)).depositEvent
    (.itemDestroyed collection token owner 1)

/-- Burns a token without children. -/
def burn (token : TokenId) : Exec T Unit := do
  let s ← read
  let tokenData ← okOr (s.nonfungible.tokenData.get (handle.id, token)) CommonError.tokenNotFound
  ensure (tokenData.owner = sender) CommonError.noPermission
  handle.checkAccess [sender]
  ensure (tokenHasChildren s (handle.id, token) = false) DispatchError.cantBurnNftWithChildren
  let burnt ← okOr (checkedAdd u32Max (s.nonfungible.tokensBurnt.getD handle.id 0) 1)
    DispatchError.overflow
  let balance ← okOr
    (checkedSub (s.nonfungible.accountBalance.getD (handle.id, tokenData.owner) 0) 1)
    DispatchError.overflow
  update (·.mapNonfungible (setAccountBalance handle.id tokenData.owner balance))
  unnestIfNested tokenData.owner (handle.id, token)
  update (burnWrites handle.id token tokenData.owner burnt)

/-- Burns a token of another account. -/
def burnFrom (spender from' : T.CrossAccountId) (token : TokenId) : Exec T Unit := do
  checkAllowed handle spender from' token
  burn handle from' token

/-! ## Transfers -/

variable (from' to' : T.CrossAccountId)

/-- Stores the new owner and both balances. -/
def transferWrites (token : TokenId)
    (balanceFrom : ℕ) (balanceTo : Option ℕ) (s : State T) : State T :=
  let written := s.mapNonfungible fun nonfungible =>
    { nonfungible with tokenData := nonfungible.tokenData.insert (collection, token) ⟨to'⟩ }
  let moved :=
    match balanceTo with
    | some balanceTo => written.mapNonfungible fun nonfungible =>
      let debited := setAccountBalance collection from' balanceFrom nonfungible
      { debited with
        accountBalance := debited.accountBalance.insert (collection, to') balanceTo
        owned := (debited.owned.erase (collection, from', token)).insert
          (collection, to', token) true }
    | none => written
  ((setAllowanceUnchecked collection from' token none true moved).depositLog
    (collectionIdToAddress collection)
    (.erc721Transfer (T.asEth from') (T.asEth to') token)).depositEvent
    (.transfer collection token from' to' 1)

/-- The counter of the receiver after the transfer; `none` if the token stays
where it is. -/
def balanceAfterReceiving (s : State T) : Exec T (Option ℕ) :=
  if from' = to' then
    pure none
  else do
    let balance ← okOr
      (checkedAdd u32Max (s.nonfungible.accountBalance.getD (handle.id, to') 0) 1)
      DispatchError.overflow
    ensure (balance ≤ handle.collection.limits.accountTokenOwnershipLimit)
      CommonError.accountTokenLimitExceeded
    pure (some balance)

/-- Move a token.  The nesting rules are checked for `depositor`. -/
def transferInternal (depositor from' to' : T.CrossAccountId) (token : TokenId) : Exec T Unit := do
  ensure (handle.collection.limits.transfersEnabled = true) CommonError.transferNotAllowed
  let s ← read
  let tokenData ← okOr (s.nonfungible.tokenData.get (handle.id, token)) CommonError.tokenNotFound
  ensure (tokenData.owner = from') CommonError.noPermission
  handle.checkAccess [from', to']
  ensureCorrectReceiver to'
  let balanceFrom ← okOr
    (checkedSub (s.nonfungible.accountBalance.getD (handle.id, from') 0) 1)
    CommonError.tokenValueTooLow
  let balanceTo ← balanceAfterReceiving handle from' to' s
  nestIfSentToToken depositor to' (handle.id, token)
  unnestIfNested tokenData.owner (handle.id, token)
  update (transferWrites handle.id from' to' token balanceFrom balanceTo)

/-- Moves a token of one's own. -/
def transfer (token : TokenId) : Exec T Unit :=
  transferInternal handle from' from' to' token

/-- Moves a token of another account. -/
def transferFrom (spender from' to' : T.CrossAccountId) (token : TokenId) : Exec T Unit := do
  checkAllowed handle spender from' token
  transferInternal handle spender from' to' token

/-! ## Minting -/

/-- The counters of all receivers after the mint. -/
def mintBalances (s : State T) (owners : List T.CrossAccountId) :
    Exec T (AssocMap T.CrossAccountId ℕ) :=
  countReceivers (fun owner => s.nonfungible.accountBalance.getD (handle.id, owner) 0)
    handle.collection.limits.accountTokenOwnershipLimit owners .empty

/-- Check the nesting of the items to be minted as `token`, `token + 1`, …. -/
def mintCheckNesting (handle : CollectionHandle T) (sender : T.CrossAccountId) :
    TokenId → List (CreateItemData T) → Exec T Unit
  | _, [] => pure ()
  | token, item :: rest => do
    UniqueChain.checkNesting sender item.owner (handle.id, token)
    mintCheckNesting handle sender (token + 1) rest

/-- Stores the properties of a token. -/
def setTokenPropertiesRaw (token : Token) (properties : TokenProperties) (s : State T) : State T :=
  s.mapNonfungible fun nonfungible =>
    { nonfungible with tokenProperties := nonfungible.tokenProperties.insert token properties }

/-- Write one item, with its nesting and its properties. -/
def mintItem (token : TokenId)
    (item : CreateItemData T) (info : PropertyWriterLazyCollectionInfo T) :
    Exec T (PropertyWriterLazyCollectionInfo T) := do
  update (·.mapNonfungible fun nonfungible =>
    { nonfungible with
      tokenData := nonfungible.tokenData.insert (handle.id, token) ⟨item.owner⟩ })
  nestIfSentToTokenUnchecked item.owner (handle.id, token)
  writeNewTokenProperties setTokenPropertiesRaw handle.id info (T.convEq sender item.owner) token
    item.properties

/-- Write the items as `token`, `token + 1`, …. -/
def mintItems (handle : CollectionHandle T) (sender : T.CrossAccountId) :
    TokenId → List (CreateItemData T) → PropertyWriterLazyCollectionInfo T → Exec T Unit
  | _, [], _ => pure ()
  | token, item :: rest, info => do
    let info ← mintItem handle sender token item info
    mintItems handle sender (token + 1) rest info

/-- The last loop of the mint. -/
def mintOwned (collection : CollectionId) :
    TokenId → List (CreateItemData T) → State T → State T
  | _, [], s => s
  | token, item :: rest, s =>
    mintOwned collection (token + 1) rest
      (((s.mapNonfungible fun nonfungible =>
        { nonfungible with
          owned := nonfungible.owned.insert (collection, item.owner, token) true }).depositLog
        (collectionIdToAddress collection)
        (.erc721Transfer 0 (T.asEth item.owner) token)).depositEvent
        (.itemCreated collection token item.owner 1))

/-- Store the counters. -/
def mintCounters (tokensMinted : ℕ)
    (balances : AssocMap T.CrossAccountId ℕ) (s : State T) : State T :=
  s.mapNonfungible fun nonfungible =>
    { nonfungible with
      tokensMinted := nonfungible.tokensMinted.insert collection tokensMinted
      accountBalance := storeCounters collection balances nonfungible.accountBalance }

/-- Mints tokens. -/
def createMultipleItems (data : List (CreateItemData T)) : Exec T Unit := do
  handle.checkMintAuthority sender (data.map (·.owner))
  forEach ensureCorrectReceiver (data.map (·.owner))
  let s ← read
  let firstToken := s.nonfungible.tokensMinted.getD handle.id 0
  let tokensMinted ← okOr (checkedAdd u32Max firstToken data.length) DispatchError.overflow
  ensure (tokensMinted ≤ handle.collection.limits.tokenLimit)
    CommonError.collectionTokenLimitExceeded
  let balances ← mintBalances handle s (data.map (·.owner))
  mintCheckNesting handle sender (firstToken + 1) data
  Exec.withTransaction (mintItems handle sender (firstToken + 1) data (.new handle sender))
  update (mintCounters handle.id tokensMinted balances)
  update (mintOwned handle.id (firstToken + 1) data)

/-! ## Properties -/

/-- Whether the account is at the root of the token. -/
def checkTokenIndirectOwner (maybeOwner : T.CrossAccountId) (token : TokenId) : Exec T Bool :=
  checkIndirectlyOwned maybeOwner (handle.id, token) none

/-- Writes properties of a token, all or none. -/
def modifyTokenProperties (token : TokenId) (updates : List PropertyUpdate) : Exec T Unit :=
  Exec.withTransaction <| writeExistingTokenProperties setTokenPropertiesRaw
    (fun s token => tokenExists s (handle.id, token))
    (checkTokenIndirectOwner handle sender)
    (fun s token => s.nonfungible.tokenProperties.get token) handle sender token updates

end UniqueChain.Nonfungible
