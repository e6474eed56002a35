import UniqueChain.Model.PropertyWriter

/-!
# The pallet of fungible tokens

A fungible collection has a supply and balances, and no tokens of its own: its
child entry in the index of an NFT has the token number 0.
-/

namespace UniqueChain.Fungible

open Execution (read update ensure okOr fail forEach)

variable {T : Config}

/-- The number under which a holding is nested. -/
def defaultToken : TokenId := 0

/-- Whether a collection has a supply. -/
def collectionHasTokens (s : State T) (collection : CollectionId) : Bool :=
  s.fungible.totalSupply.getD collection 0 ≠ 0

/-! ## Approvals -/

variable (collection : CollectionId) (handle : CollectionHandle T)

/-- Stores an approval. -/
def setAllowanceUnchecked (owner spender : T.CrossAccountId) (amount : ℕ) (s : State T) : State T :=
  ((s.mapFungible fun fungible =>
    { fungible with
      allowance := fungible.allowance.putAmount (collection, owner, spender) amount }).depositLog
    (collectionIdToAddress collection)
    (.erc20Approval (T.asEth owner) (T.asEth spender) amount)).depositEvent
    (.approved collection 0 owner spender amount)

/-- Approves a spender for an amount of one's own. -/
def setAllowance (owner spender : T.CrossAccountId) (amount : ℕ) : Exec T Unit := do
  handle.checkAccess [owner, spender]
  let s ← read
  ensure (amount ≤ s.fungible.balance.getD (handle.id, owner) 0 ∨
      handle.ignoresOwnedAmount s owner = true)
    CommonError.cantApproveMoreThanOwned
  update (setAllowanceUnchecked handle.id owner spender amount)

/-- Approves in the name of the mirror of the sender. -/
def setAllowanceFrom (sender from' to' : T.CrossAccountId) (amount : ℕ) : Exec T Unit := do
  handle.checkAccess [sender, from', to']
  ensure (T.convEq sender from' = true) CommonError.addressIsNotEthMirror
  let s ← read
  ensure (amount ≤ s.fungible.balance.getD (handle.id, from') 0 ∨
      handle.collection.limits.ownerCanTransfer = true ∧
        (handle.isOwnerOrAdmin s sender = true ∨ handle.isOwnerOrAdmin s from' = true))
    CommonError.cantApproveMoreThanOwned
  update (setAllowanceUnchecked handle.id from' to' amount)

/-- What is left of an approval. -/
def computeAllowanceDecrease (s : State T) (collection : CollectionId)
    (from' spender : T.CrossAccountId) (amount : ℕ) : Option ℕ :=
  checkedSub (s.fungible.allowance.getD (collection, from', spender) 0) amount

/-- The spender may use `amount` of `from'`.  The result is the allowance to be
stored afterwards, if any. -/
def checkAllowed (spender from' : T.CrossAccountId) (amount : ℕ) : Exec T (Option ℕ) :=
  if T.convEq spender from' then
    pure none
  else do
    handle.checkAccess [spender]
    let s ← read
    if handle.ignoresTokenRestrictions s spender then
      pure (computeAllowanceDecrease s handle.id from' spender amount)
    else
      match T.addressToToken from' with
      | some source => do
        let owned ← checkIndirectlyOwned spender source none
        ensure (owned = true) CommonError.approvedValueTooLow
        pure none
      | none => do
        let allowance := computeAllowanceDecrease s handle.id from' spender amount
        ensure (allowance.isSome = true) CommonError.approvedValueTooLow
        pure allowance

/-- Store the allowance that is left. -/
def storeAllowance (from' spender : T.CrossAccountId)
    (allowance : Option ℕ) (s : State T) : State T :=
  match allowance with
  | some allowance => setAllowanceUnchecked collection from' spender allowance s
  | none => s

/-! ## Burning -/

/-- Stores a balance. -/
def setBalance (account : T.CrossAccountId) (balance : ℕ) (s : State T) : State T :=
  s.mapFungible fun fungible =>
    { fungible with
      balance := fungible.balance.putAmount (collection, account) balance }

/-- Store a balance; a holding that is used up is no longer nested. -/
def debit (account : T.CrossAccountId) (balance : ℕ) : Exec T Unit := do
  update (setBalance collection account balance)
  if balance = 0 then unnestIfNested account (collection, defaultToken) else pure ()

/-- Stores the supply and deposits the event. -/
def burnWrites (owner : T.CrossAccountId) (amount totalSupply : ℕ) (s : State T) : State T :=
  ((s.mapFungible fun fungible =>
    { fungible with totalSupply := fungible.totalSupply.insert collection totalSupply }).depositLog
    (collectionIdToAddress collection) (.erc20Transfer (T.asEth owner) 0 amount)).depositEvent
    (.itemDestroyed collection defaultToken owner amount)

/-- Burns an amount. -/
def burn (owner : T.CrossAccountId) (amount : ℕ) : Exec T Unit := do
  let s ← read
  let totalSupply ← okOr (checkedSub (s.fungible.totalSupply.getD handle.id 0) amount)
    CommonError.tokenValueTooLow
  let balance ← okOr (checkedSub (s.fungible.balance.getD (handle.id, owner) 0) amount)
    CommonError.tokenValueTooLow
  handle.checkAccess [owner]
  debit handle.id owner balance
  update (burnWrites handle.id owner amount totalSupply)

/-- Burns an amount of another account. -/
def burnFrom (spender from' : T.CrossAccountId) (amount : ℕ) : Exec T Unit := do
  let allowance ← checkAllowed handle spender from' amount
  burn handle from' amount
  update (storeAllowance handle.id from' spender allowance)

/-! ## Transfers -/

/-- The log and the event of a transfer. -/
def transferEvents (from' to' : T.CrossAccountId) (amount : ℕ) (s : State T) : State T :=
  (s.depositLog (collectionIdToAddress collection)
    (.erc20Transfer (T.asEth from') (T.asEth to') amount)).depositEvent
    (.transfer collection defaultToken from' to' amount)

/-- Move `amount`; both balances after it are already computed. -/
def moveBalance (depositor from' to' : T.CrossAccountId)
    (balanceFrom balanceTo : ℕ) : Exec T Unit := do
  nestIfSentToToken depositor to' (handle.id, defaultToken)
  debit handle.id from' balanceFrom
  update (·.mapFungible fun fungible =>
    { fungible with balance := fungible.balance.insert (handle.id, to') balanceTo })

/-- Moves an amount; all checks but that of the spender. -/
def transferInternal (depositor from' to' : T.CrossAccountId) (amount : ℕ) : Exec T Unit := do
  ensure (handle.collection.limits.transfersEnabled = true) CommonError.transferNotAllowed
  handle.checkAccess [from', to']
  ensureCorrectReceiver to'
  let s ← read
  let balanceFrom ← okOr (checkedSub (s.fungible.balance.getD (handle.id, from') 0) amount)
    CommonError.tokenValueTooLow
  if from' ≠ to' ∧ amount ≠ 0 then do
    let balanceTo ← okOr
      (checkedAdd u128Max (s.fungible.balance.getD (handle.id, to') 0) amount)
      DispatchError.overflow
    moveBalance handle depositor from' to' balanceFrom balanceTo
    update (transferEvents handle.id from' to' amount)
  else
    update (transferEvents handle.id from' to' amount)

/-- Moves an amount of one's own. -/
def transfer (from' to' : T.CrossAccountId) (amount : ℕ) : Exec T Unit :=
  transferInternal handle from' from' to' amount

/-- Moves an amount of another account. -/
def transferFrom (spender from' to' : T.CrossAccountId) (amount : ℕ) : Exec T Unit := do
  let allowance ← checkAllowed handle spender from' amount
  transferInternal handle spender from' to' amount
  update (storeAllowance handle.id from' spender allowance)

/-! ## Minting -/

/-- The receivers with their amounts and their balances after the mint. -/
def updatedBalances (s : State T) (collection : CollectionId) :
    List (T.CrossAccountId × ℕ) → Option (List (T.CrossAccountId × ℕ × ℕ))
  | [] => some []
  | (user, amount) :: rest => do
    let balance ← checkedAdd u128Max (s.fungible.balance.getD (collection, user) 0) amount
    let others ← updatedBalances s collection rest
    some ((user, amount, balance) :: others)

/-- Write one receiver. -/
def mintItem (item : T.CrossAccountId × ℕ × ℕ) : Exec T Unit := do
  update (·.mapFungible fun fungible =>
    { fungible with balance := fungible.balance.insert (collection, item.1) item.2.2 })
  nestIfSentToTokenUnchecked item.1 (collection, defaultToken)
  update fun s =>
    (s.depositLog (collectionIdToAddress collection)
      (.erc20Transfer 0 (T.asEth item.1) item.2.1)).depositEvent
      (.itemCreated collection defaultToken item.1 item.2.1)

/-- Mints amounts. -/
def createMultipleItems (depositor : T.CrossAccountId)
    (data : AssocMap T.CrossAccountId ℕ) : Exec T Unit := do
  handle.checkMintAuthority depositor data.keys
  let s ← read
  let totalSupply ← okOr
    (checkedSum u128Max (s.fungible.totalSupply.getD handle.id 0) data.values)
    DispatchError.overflow
  forEach (fun to' => checkNesting depositor to' (handle.id, defaultToken)) data.keys
  let items ← okOr (updatedBalances s handle.id data.entries) DispatchError.overflow
  update (·.mapFungible fun fungible =>
    { fungible with totalSupply := fungible.totalSupply.insert handle.id totalSupply })
  forEach (mintItem handle.id) items

end UniqueChain.Fungible
