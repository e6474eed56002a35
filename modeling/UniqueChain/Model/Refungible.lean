import UniqueChain.Model.PropertyWriter

/-!
# The pallet of refungible tokens

A refungible token is split into pieces, and every holder of pieces is an owner
of the token.
-/

namespace UniqueChain.Refungible

open Execution (read update ensure okOr fail forEach)

variable {T : Config}

/-- The holders of a new token with their pieces. -/
structure CreateItemData (T : Config) where
  users : AssocMap T.CrossAccountId ℕ
  properties : List Property := []

/-- What the logs name as the owner of a token with several holders. -/
def addressForPartiallyOwnedTokens : H160 := BitVec.allOnes 160

/-! ## Reading -/

variable (s : State T) (token : Token)

/-- A token exists as long as it has pieces. -/
def tokenExists : Bool := s.refungible.totalSupply.contains token

/-- Whether a collection has a token. -/
def collectionHasTokens (collection : CollectionId) : Bool :=
  s.refungible.totalSupply.anyKey fun token => token.1 = collection

/-- The pieces of a token. -/
def totalPieces : Option ℕ := s.refungible.totalSupply.get token

/-- The tokens of a collection that are not burnt. -/
def totalSupply (collection : CollectionId) : Option ℕ :=
  checkedSub (s.refungible.tokensMinted.getD collection 0)
    (s.refungible.tokensBurnt.getD collection 0)

/-- The number of the next token, within the limit. -/
def nextTokenId (handle : CollectionHandle T) : Except CommonError TokenId :=
  match checkedAdd u32Max (s.refungible.tokensMinted.getD handle.id 0) 1 with
  | none => .error .collectionTokenLimitExceeded
  | some next =>
    if next ≤ handle.collection.limits.tokenLimit then
      .ok next
    else
      .error .collectionTokenLimitExceeded

/-- The pieces of a token an account holds. -/
def balanceOf (account : T.CrossAccountId) : ℕ :=
  s.refungible.balance.getD (token, account) 0

/-- The tokens of which an account has pieces. -/
def accountBalanceOf (collection : CollectionId) (account : T.CrossAccountId) : ℕ :=
  s.refungible.accountBalance.getD (collection, account) 0

/-! ## Approvals -/

variable (collection : CollectionId) (handle : CollectionHandle T)

/-- Stores an approval. -/
def setAllowanceUnchecked (sender spender : T.CrossAccountId)
    (token : TokenId) (amount : ℕ) (s : State T) : State T :=
  ((s.mapRefungible fun refungible =>
    { refungible with
      allowance := refungible.allowance.putAmount ((collection, token), sender, spender)
        amount }).depositLog
    (evmTokenToAddress collection token)
    (.erc20Approval (T.asEth sender) (T.asEth spender) amount)).depositEvent
    (.approved collection token sender spender amount)

/-- Approves a spender for pieces of one's own. -/
def setAllowance (sender spender : T.CrossAccountId)
    (token : TokenId) (amount : ℕ) : Exec T Unit := do
  handle.checkAccess [sender, spender]
  ensureCorrectReceiver spender
  let s ← read
  ensure (amount ≤ balanceOf s (handle.id, token) sender ∨
      handle.ignoresOwnedAmount s sender = true ∧ tokenExists s (handle.id, token) = true)
    CommonError.cantApproveMoreThanOwned
  update (setAllowanceUnchecked handle.id sender spender token amount)

/-- Approves in the name of the mirror of the sender. -/
def setAllowanceFrom (sender from' to' : T.CrossAccountId)
    (token : TokenId) (amount : ℕ) : Exec T Unit := do
  handle.checkAccess [sender, from', to']
  ensureCorrectReceiver to'
  ensure (T.convEq sender from' = true) CommonError.addressIsNotEthMirror
  let s ← read
  ensure (amount ≤ balanceOf s (handle.id, token) from' ∨
      (handle.collection.limits.ownerCanTransfer = true ∧
        (handle.isOwnerOrAdmin s sender = true ∨ handle.isOwnerOrAdmin s from' = true)) ∧
        tokenExists s (handle.id, token) = true)
    CommonError.cantApproveMoreThanOwned
  update (setAllowanceUnchecked handle.id from' to' token amount)

/-- Makes an account an operator, or takes that back. -/
def setAllowanceForAll (owner spender : T.CrossAccountId) (approve : Bool) : Exec T Unit := do
  handle.checkAccess [owner, spender]
  ensureCorrectReceiver spender
  update fun s =>
    ((s.mapRefungible fun refungible =>
      { refungible with
        collectionAllowance :=
          refungible.collectionAllowance.insert (handle.id, owner, spender) approve }).depositLog
      (collectionIdToAddress handle.id)
      (.approvalForAll (T.asEth owner) (T.asEth spender) approve)).depositEvent
      (.approvedForAll handle.id owner spender approve)

/-- What is left of an approval. -/
def computeAllowanceDecrease (from' spender : T.CrossAccountId) (amount : ℕ) : Option ℕ :=
  checkedSub (s.refungible.allowance.getD (token, from', spender) 0) amount

/-- The spender may use `amount` pieces of `from'`.  The result is the allowance
to be stored afterwards, if any. -/
def checkAllowed (spender from' : T.CrossAccountId)
    (token : TokenId) (amount : ℕ) : Exec T (Option ℕ) :=
  if T.convEq spender from' then
    pure none
  else do
    handle.checkAccess [spender]
    let s ← read
    if handle.ignoresTokenRestrictions s spender then
      pure (computeAllowanceDecrease s (handle.id, token) from' spender amount)
    else
      match T.addressToToken from' with
      | some source => do
        let owned ← checkIndirectlyOwned spender source none
        ensure (owned = true) CommonError.approvedValueTooLow
        pure none
      | none => do
        let allowance := computeAllowanceDecrease s (handle.id, token) from' spender amount
        -- An operator may go on without an allowance.
        ensure (allowance.isSome = true ∨
            s.refungible.collectionAllowance.getD (handle.id, from', spender) false = true)
          CommonError.approvedValueTooLow
        pure allowance

/-- Stores what is left, if an approval was used. -/
def storeAllowance (from' spender : T.CrossAccountId)
    (token : TokenId) (allowance : Option ℕ) (s : State T) : State T :=
  match allowance with
  | some allowance => setAllowanceUnchecked collection from' spender token allowance s
  | none => s

/-! ## Burning -/

variable (account : T.CrossAccountId)

/-- Enters or removes a token in the index of owned tokens. -/
def setOwned (token : TokenId) (owned : Bool) (s : State T) : State T :=
  s.mapRefungible fun refungible =>
    { refungible with
      owned :=
        if owned then refungible.owned.insert (collection, account, token) true
        else refungible.owned.erase (collection, account, token) }

/-- Stores a number of tokens. -/
def setAccountBalance (balance : ℕ) (s : State T) : State T :=
  s.mapRefungible fun refungible =>
    { refungible with
      accountBalance := refungible.accountBalance.insert (collection, account) balance }

/-- Store the pieces an account holds; without pieces it has no entry. -/
def setBalance (account : T.CrossAccountId) (balance : ℕ) (s : State T) : State T :=
  s.mapRefungible fun refungible =>
    { refungible with
      balance := refungible.balance.putAmount (token, account) balance }

variable (owner : T.CrossAccountId)

/-- Forget a token with everything stored under it. -/
def burnTokenWrites (token : TokenId) (burnt : ℕ) (s : State T) : State T :=
  (s.mapRefungible fun refungible =>
    { refungible with
      tokensBurnt := refungible.tokensBurnt.insert collection burnt
      tokenProperties := refungible.tokenProperties.erase (collection, token)
      totalSupply := refungible.totalSupply.erase (collection, token)
      balance := refungible.balance.eraseWhere fun key => key.1 = (collection, token)
      allowance := refungible.allowance.eraseWhere fun key => key.1 = (collection, token)
        }).depositLog
    (collectionIdToAddress collection) (.erc721Transfer (T.asEth owner) 0 token)

/-- Removes a token without pieces. -/
def burnTokenUnchecked (token : TokenId) : Exec T Unit := do
  let s ← read
  let burnt ← okOr (checkedAdd u32Max (s.refungible.tokensBurnt.getD collection 0) 1)
    DispatchError.overflow
  update (burnTokenWrites collection owner token burnt)

/-- The branch of `burn` in which no pieces are left. -/
def burnLastPieces (token : TokenId) (amount : ℕ) : Exec T Unit := do
  let s ← read
  ensure (balanceOf s (handle.id, token) owner = amount) CommonError.tokenValueTooLow
  let accountBalance ← okOr (checkedSub (accountBalanceOf s handle.id owner) 1)
    DispatchError.underflow
  update (setOwned handle.id owner token false)
  unnestIfNested owner (handle.id, token)
  update (setAccountBalance handle.id owner accountBalance)
  burnTokenUnchecked handle.id owner token
  update fun s =>
    (s.depositLog (collectionIdToAddress handle.id)
      (.erc20Transfer (T.asEth owner) 0 amount)).depositEvent
      (.itemDestroyed handle.id token owner amount)

/-- The log of a token that has a single owner again. -/
def logSoleOwner (token : TokenId) (s : State T) : State T :=
  match tokenOwner s (collection, token) with
  | .ok user => s.depositLog (collectionIdToAddress collection)
      (.erc721Transfer addressForPartiallyOwnedTokens (T.asEth user) token)
  | .error _ => s

/-- The writes for an account whose pieces are used up. -/
def removeHolder (token : TokenId) (accountBalance : ℕ) : Exec T Unit := do
  update (setOwned handle.id owner token false)
  unnestIfNested owner (handle.id, token)
  update (setBalance (handle.id, token) owner 0)
  update (setAccountBalance handle.id owner accountBalance)
  update (logSoleOwner handle.id token)

/-- Store the pieces that are left to an account by a burn. -/
def burnBalance (token : TokenId) (balance : ℕ) : Exec T Unit :=
  if balance = 0 then do
    let s ← read
    let accountBalance ← okOr (checkedSub (accountBalanceOf s handle.id owner) 1)
      DispatchError.underflow
    removeHolder handle owner token accountBalance
  else
    update (setBalance (handle.id, token) owner balance)

/-- The branch of `burn` in which pieces are left. -/
def burnSomePieces (token : TokenId) (amount totalSupply : ℕ) : Exec T Unit := do
  let s ← read
  let balance ← okOr (checkedSub (balanceOf s (handle.id, token) owner) amount)
    CommonError.tokenValueTooLow
  burnBalance handle owner token balance
  update fun s =>
    ((s.mapRefungible fun refungible =>
      { refungible with
        totalSupply := refungible.totalSupply.insert (handle.id, token) totalSupply }).depositLog
      (evmTokenToAddress handle.id token) (.erc20Transfer (T.asEth owner) 0 amount)).depositEvent
      (.itemDestroyed handle.id token owner amount)

/-- Burns pieces; the last ones end the token. -/
def burn (token : TokenId) (amount : ℕ) : Exec T Unit := do
  let s ← read
  ensure (balanceOf s (handle.id, token) owner ≠ 0) CommonError.tokenValueTooLow
  let totalSupply ← okOr
    (checkedSub (s.refungible.totalSupply.getD (handle.id, token) 0) amount)
    CommonError.tokenValueTooLow
  if totalSupply = 0 then
    burnLastPieces handle owner token amount
  else
    burnSomePieces handle owner token amount totalSupply

/-- Burns the pieces of another account. -/
def burnFrom (spender from' : T.CrossAccountId) (token : TokenId) (amount : ℕ) : Exec T Unit := do
  let allowance ← checkAllowed handle spender from' token amount
  burn handle from' token amount
  update (storeAllowance handle.id from' spender token allowance)

/-! ## Transfers -/

/-- The logs that keep the owner of the whole token up to date. -/
def transferLogs (from' to' : T.CrossAccountId) (token : TokenId)
    (amount initialBalanceFrom : ℕ) (updatedBalanceTo : Option ℕ) (s : State T) : State T :=
  let logged := (s.depositLog (evmTokenToAddress collection token)
    (.erc20Transfer (T.asEth from') (T.asEth to') amount)).depositEvent
    (.transfer collection token from' to' amount)
  let totalSupply := s.refungible.totalSupply.getD (collection, token) 0
  if amount = totalSupply then
    logged.depositLog (collectionIdToAddress collection)
      (.erc721Transfer (T.asEth from') (T.asEth to') token)
  else
    match updatedBalanceTo with
    | none => logged
    | some updatedBalanceTo =>
      if initialBalanceFrom = totalSupply then
        logged.depositLog (collectionIdToAddress collection)
          (.erc721Transfer (T.asEth from') addressForPartiallyOwnedTokens token)
      else if updatedBalanceTo = totalSupply then
        logged.depositLog (collectionIdToAddress collection)
          (.erc721Transfer addressForPartiallyOwnedTokens (T.asEth to') token)
      else
        logged

/-- The counter of the sender after the transfer, if it gives its last pieces. -/
def accountBalanceFromAfter (collection : CollectionId)
    (from' : T.CrossAccountId) (updatedBalanceFrom : ℕ) : Exec T (Option ℕ) :=
  if updatedBalanceFrom = 0 then do
    let balance ← okOr (checkedSub (accountBalanceOf s collection from') 1)
      DispatchError.underflow
    pure (some balance)
  else
    pure none

/-- The counter of the receiver after the transfer, if it becomes a holder. -/
def accountBalanceToAfter (handle : CollectionHandle T)
    (to' : T.CrossAccountId) (createTarget : Bool) : Exec T (Option ℕ) :=
  if createTarget then do
    let balance ← okOr (checkedAdd u32Max (accountBalanceOf s handle.id to') 1)
      DispatchError.overflow
    ensure (balance ≤ handle.collection.limits.accountTokenOwnershipLimit)
      CommonError.accountTokenLimitExceeded
    pure (some balance)
  else
    pure none

/-- Store the counter of an account together with its entry in the index. -/
def setHolding (token : TokenId) (owned : Bool) (balance : Option ℕ) (s : State T) : State T :=
  match balance with
  | some balance => setOwned collection account token owned
      (setAccountBalance collection account balance s)
  | none => s

/-- Store the pieces that are left to the sender; a holding that is used up is no
longer nested. -/
def debit (account : T.CrossAccountId) (balance : ℕ) : Exec T Unit := do
  update (setBalance token account balance)
  if balance = 0 then unnestIfNested account token else pure ()

/-- Move pieces between two accounts; the balances after it are already
computed. -/
def movePieces (depositor from' to' : T.CrossAccountId)
    (token : TokenId) (updatedBalanceFrom updatedBalanceTo : ℕ)
    (accountBalanceFrom accountBalanceTo : Option ℕ) : Exec T Unit := do
  nestIfSentToToken depositor to' (handle.id, token)
  debit (handle.id, token) from' updatedBalanceFrom
  update (·.mapRefungible fun refungible =>
    { refungible with
      balance := refungible.balance.insert ((handle.id, token), to') updatedBalanceTo })
  update (setHolding handle.id from' token false accountBalanceFrom)
  update (setHolding handle.id to' token true accountBalanceTo)

/-- Moves pieces; all checks but that of the spender. -/
def transferInternal (depositor from' to' : T.CrossAccountId)
    (token : TokenId) (amount : ℕ) : Exec T Unit := do
  ensure (handle.collection.limits.transfersEnabled = true) CommonError.transferNotAllowed
  handle.checkAccess [from', to']
  ensureCorrectReceiver to'
  let s ← read
  let initialBalanceFrom := balanceOf s (handle.id, token) from'
  ensure (initialBalanceFrom ≠ 0) CommonError.tokenValueTooLow
  let updatedBalanceFrom ← okOr (checkedSub initialBalanceFrom amount)
    CommonError.tokenValueTooLow
  if from' ≠ to' ∧ amount ≠ 0 then do
    let oldBalance := balanceOf s (handle.id, token) to'
    let updatedBalanceTo ← okOr (checkedAdd u128Max oldBalance amount) DispatchError.overflow
    let accountBalanceFrom ←
      accountBalanceFromAfter s handle.id from' updatedBalanceFrom
    let accountBalanceTo ← accountBalanceToAfter s handle to' (decide (oldBalance = 0))
    movePieces handle depositor from' to' token updatedBalanceFrom updatedBalanceTo
      accountBalanceFrom accountBalanceTo
    update (transferLogs handle.id from' to' token amount initialBalanceFrom
      (some updatedBalanceTo))
  else do
    -- The counter is checked even if nothing is moved.
    let _ ← accountBalanceFromAfter s handle.id from' updatedBalanceFrom
    update (transferLogs handle.id from' to' token amount initialBalanceFrom none)

/-- Moves pieces of one's own. -/
def transfer (from' to' : T.CrossAccountId) (token : TokenId) (amount : ℕ) : Exec T Unit :=
  transferInternal handle from' from' to' token amount

/-- Moves the pieces of another account. -/
def transferFrom (spender from' to' : T.CrossAccountId)
    (token : TokenId) (amount : ℕ) : Exec T Unit := do
  let allowance ← checkAllowed handle spender from' token amount
  transferInternal handle spender from' to' token amount
  update (storeAllowance handle.id from' spender token allowance)

/-! ## Minting -/

/-- The pieces of each item. -/
def itemTotals : List (CreateItemData T) → Option (List ℕ)
  | [] => some []
  | item :: rest => do
    let total ← checkedSum u128Max 0 item.users.values
    let totals ← itemTotals rest
    some (total :: totals)

/-- The counters of all listed users after the mint.  A user counts once for
each item that lists it, whatever the amount. -/
def mintBalances (s : State T) (users : List T.CrossAccountId) :
    Exec T (AssocMap T.CrossAccountId ℕ) :=
  countReceivers (fun user => accountBalanceOf s handle.id user)
    handle.collection.limits.accountTokenOwnershipLimit users .empty

/-- Whether the new tokens may be nested under their holders. -/
def mintCheckNesting (handle : CollectionHandle T) (sender : T.CrossAccountId) :
    TokenId → List (CreateItemData T) → Exec T Unit
  | _, [] => pure ()
  | token, item :: rest => do
    forEach (fun to' => checkNesting sender to' (handle.id, token)) item.users.keys
    mintCheckNesting handle sender (token + 1) rest

/-- Write the pieces of one user.  A user with amount zero is skipped. -/
def mintPieces (token : TokenId) (entry : T.CrossAccountId × ℕ) : Exec T Unit :=
  if entry.2 = 0 then
    pure ()
  else do
    update fun s => setOwned collection entry.1 token true
      (s.mapRefungible fun refungible =>
        { refungible with
          balance := refungible.balance.insert ((collection, token), entry.1) entry.2 })
    nestIfSentToTokenUnchecked entry.1 (collection, token)

variable (sender : T.CrossAccountId)

/-- Every user that receives pieces is the sender or its mirror. -/
def mintTargetIsSender (users : AssocMap T.CrossAccountId ℕ) : Bool :=
  users.entries.all fun entry => entry.2 == 0 || T.convEq sender entry.1

/-- Stores the properties of a token. -/
def setTokenPropertiesRaw (properties : TokenProperties) (s : State T) : State T :=
  s.mapRefungible fun refungible =>
    { refungible with tokenProperties := refungible.tokenProperties.insert token properties }

/-- Write one item: its pieces, with their nesting, and its properties. -/
def mintItem (token : TokenId)
    (item : CreateItemData T) (total : ℕ) (info : PropertyWriterLazyCollectionInfo T) :
    Exec T (PropertyWriterLazyCollectionInfo T) := do
  update (·.mapRefungible fun refungible =>
    { refungible with
      totalSupply := refungible.totalSupply.insert (handle.id, token) total })
  forEach (mintPieces handle.id token) item.users.entries
  writeNewTokenProperties setTokenPropertiesRaw handle.id info
    (mintTargetIsSender sender item.users) token item.properties

/-- Stores the new tokens with their properties. -/
def mintItems (handle : CollectionHandle T) (sender : T.CrossAccountId) :
    TokenId → List (CreateItemData T × ℕ) → PropertyWriterLazyCollectionInfo T → Exec T Unit
  | _, [], _ => pure ()
  | token, (item, total) :: rest, info => do
    let info ← mintItem handle sender token item total info
    mintItems handle sender (token + 1) rest info

/-- Stores the counters of tokens minted and owned. -/
def mintCounters (tokensMinted : ℕ)
    (balances : AssocMap T.CrossAccountId ℕ) (s : State T) : State T :=
  s.mapRefungible fun refungible =>
    { refungible with
      tokensMinted := refungible.tokensMinted.insert collection tokensMinted
      accountBalance := storeCounters collection balances refungible.accountBalance }

/-- The logs and events of one item. -/
def mintLogs (token : TokenId) (item : CreateItemData T) (s : State T) : State T :=
  let receivers := item.users.entries.filter fun entry => entry.2 ≠ 0
  let logged :=
    match receivers with
    | [] => s
    | [entry] => s.depositLog (collectionIdToAddress collection)
        (.erc721Transfer 0 (T.asEth entry.1) token)
    | _ => s.depositLog (collectionIdToAddress collection)
        (.erc721Transfer 0 addressForPartiallyOwnedTokens token)
  receivers.foldl (fun s entry =>
    (s.depositLog (evmTokenToAddress collection token)
      (.erc20Transfer 0 (T.asEth entry.1) entry.2)).depositEvent
      (.itemCreated collection token entry.1 entry.2)) logged

/-- The logs and events of the new tokens. -/
def mintAllLogs (collection : CollectionId) :
    TokenId → List (CreateItemData T) → State T → State T
  | _, [], s => s
  | token, item :: rest, s =>
    mintAllLogs collection (token + 1) rest (mintLogs collection token item s)

/-- Mints tokens. -/
def createMultipleItems (data : List (CreateItemData T)) : Exec T Unit := do
  handle.checkMintAuthority sender (data.flatMap (·.users.keys))
  forEach ensureCorrectReceiver (data.flatMap (·.users.keys))
  let totals ← okOr (itemTotals data) DispatchError.overflow
  ensure (∀ total ∈ totals, total ≤ maxRefungiblePieces) DispatchError.wrongRefungiblePieces
  let s ← read
  let firstToken := s.refungible.tokensMinted.getD handle.id 0
  let tokensMinted ← okOr (checkedAdd u32Max firstToken data.length) DispatchError.overflow
  ensure (tokensMinted < handle.collection.limits.tokenLimit)
    CommonError.collectionTokenLimitExceeded
  let balances ← mintBalances handle s (data.flatMap (·.users.keys))
  mintCheckNesting handle sender (firstToken + 1) data
  Exec.withTransaction
    (mintItems handle sender (firstToken + 1) (data.zip totals) (.new handle sender))
  update (mintCounters handle.id tokensMinted balances)
  update (mintAllLogs handle.id (firstToken + 1) data)

/-! ## Repartition -/

/-- The log and event for the pieces that are added or removed. -/
def repartitionLogs (token : TokenId) (totalPieces amount : ℕ) (s : State T) : State T :=
  if totalPieces < amount then
    (s.depositLog (evmTokenToAddress collection token)
      (.erc20Transfer 0 (T.asEth owner) (amount - totalPieces))).depositEvent
      (.itemCreated collection token owner (amount - totalPieces))
  else if amount < totalPieces then
    (s.depositLog (evmTokenToAddress collection token)
      (.erc20Transfer (T.asEth owner) 0 (totalPieces - amount))).depositEvent
      (.itemDestroyed collection token owner (totalPieces - amount))
  else
    s

/-- Set the number of pieces of a token whose pieces are all held by `owner`. -/
def repartition (token : TokenId) (amount : ℕ) : Exec T Unit := do
  ensure (amount ≤ maxRefungiblePieces) DispatchError.wrongRefungiblePieces
  ensure (0 < amount) CommonError.tokenValueTooLow
  let s ← read
  let totalPieces := (totalPieces s (handle.id, token)).getD u128Max
  ensure (totalPieces = balanceOf s (handle.id, token) owner)
    DispatchError.repartitionWhileNotOwningAllPieces
  update (·.mapRefungible fun refungible =>
    { refungible with
      balance := refungible.balance.insert ((handle.id, token), owner) amount
      totalSupply := refungible.totalSupply.insert (handle.id, token) amount })
  update (repartitionLogs handle.id owner token totalPieces amount)

/-! ## Properties -/

/-- Only an account that itself holds all pieces can be the owner. -/
def checkTokenIndirectOwner (maybeOwner : T.CrossAccountId) (token : TokenId) : Exec T Bool := do
  let s ← read
  if balanceOf s (handle.id, token) maybeOwner ≠
      (totalPieces s (handle.id, token)).getD u128Max then
    pure false
  else
    checkIndirectlyOwned maybeOwner (handle.id, token) none

/-- Writes properties of a token, all or none. -/
def modifyTokenProperties (token : TokenId) (updates : List PropertyUpdate) : Exec T Unit :=
  Exec.withTransaction <| writeExistingTokenProperties setTokenPropertiesRaw
    (fun s token => tokenExists s (handle.id, token))
    (checkTokenIndirectOwner handle sender)
    (fun s token => s.refungible.tokenProperties.get token) handle sender token updates

end UniqueChain.Refungible
