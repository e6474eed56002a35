import UniqueChain.Model.Nonfungible
import UniqueChain.Model.Refungible

/-!
# Minting with the indices of the source

`create_multiple_items` runs over `data.iter().enumerate()` and computes the id of
each item from its index.  The loops of `Nonfungible.createMultipleItems` and
`Refungible.createMultipleItems` count the id up instead.  Here the loops are
written with the indices, and everything that panics in the source does so:
the additions `first_token + i as u32 + 1` if they leave the 32 bits, and
`totals[i]` if there is no such entry.

Lengths and indices have 32 bits in the runtime, so `data.len() as u32` and
`i as u32` lose nothing.
-/

namespace UniqueChain

open Execution

variable {T : Config}

/-- The id of the item at `index`, `first_token + i as u32 + 1`. -/
def tokenAt (firstToken index : ℕ) : Exec T TokenId := do
  let token ← okOr (checkedAdd u32Max firstToken index) Failure.panicked
  okOr (checkedAdd u32Max token 1) Failure.panicked

namespace Nonfungible

def mintCheckNestingAt (handle : CollectionHandle T) (sender : T.CrossAccountId)
    (firstToken : ℕ) (entry : CreateItemData T × ℕ) : Exec T Unit := do
  let token ← tokenAt firstToken entry.2
  UniqueChain.checkNesting sender entry.1.owner (handle.id, token)

def mintItemsAt (handle : CollectionHandle T) (sender : T.CrossAccountId) (firstToken : ℕ) :
    List (CreateItemData T × ℕ) → PropertyWriterLazyCollectionInfo T → Exec T Unit
  | [], _ => pure ()
  | (item, index) :: rest, info => do
    let token ← tokenAt firstToken index
    let info ← mintItem handle sender token item info
    mintItemsAt handle sender firstToken rest info

def mintOwnedAt (collection : CollectionId) (firstToken : ℕ) (entry : CreateItemData T × ℕ) :
    Exec T Unit := do
  let token ← tokenAt firstToken entry.2
  update (mintOwned collection token [entry.1])

/-- `create_multiple_items` of the NFT pallet, with every panic of its loops. -/
def createMultipleItemsAt (handle : CollectionHandle T) (sender : T.CrossAccountId)
    (data : List (CreateItemData T)) : Exec T Unit := do
  handle.checkMintAuthority sender (data.map (·.owner))
  forEach ensureCorrectReceiver (data.map (·.owner))
  let s ← read
  let firstToken := s.nonfungible.tokensMinted.getD handle.id 0
  let tokensMinted ← okOr (checkedAdd u32Max firstToken data.length) DispatchError.overflow
  ensure (tokensMinted ≤ handle.collection.limits.tokenLimit)
    CommonError.collectionTokenLimitExceeded
  let balances ← mintBalances handle s (data.map (·.owner))
  forEach (mintCheckNestingAt handle sender firstToken) data.zipIdx
  Exec.withTransaction (mintItemsAt handle sender firstToken data.zipIdx (.new handle sender))
  update (mintCounters handle.id tokensMinted balances)
  forEach (mintOwnedAt handle.id firstToken) data.zipIdx

end Nonfungible

namespace Refungible

def mintCheckNestingAt (handle : CollectionHandle T) (sender : T.CrossAccountId)
    (firstToken : ℕ) (entry : CreateItemData T × ℕ) : Exec T Unit := do
  let token ← tokenAt firstToken entry.2
  forEach (fun to' => checkNesting sender to' (handle.id, token)) entry.1.users.keys

def mintItemsAt (handle : CollectionHandle T) (sender : T.CrossAccountId) (firstToken : ℕ)
    (totals : List ℕ) :
    List (CreateItemData T × ℕ) → PropertyWriterLazyCollectionInfo T → Exec T Unit
  | [], _ => pure ()
  | (item, index) :: rest, info => do
    let token ← tokenAt firstToken index
    let total ← okOr totals[index]? Failure.panicked
    let info ← mintItem handle sender token item total info
    mintItemsAt handle sender firstToken totals rest info

def mintLogsAt (collection : CollectionId) (firstToken : ℕ) (entry : CreateItemData T × ℕ) :
    Exec T Unit := do
  let token ← tokenAt firstToken entry.2
  update (mintLogs collection token entry.1)

/-- `create_multiple_items` of the refungible pallet, with every panic of its
loops. -/
def createMultipleItemsAt (handle : CollectionHandle T) (sender : T.CrossAccountId)
    (data : List (CreateItemData T)) : Exec T Unit := do
  handle.checkMintAuthority sender (data.flatMap (·.users.keys))
  forEach ensureCorrectReceiver (data.flatMap (·.users.keys))
  let totals ← okOr (itemTotals data) DispatchError.overflow
  ensure (∀ total ∈ totals, total ≤ maxRefungiblePieces) DispatchError.wrongRefungiblePieces
  let s ← read
  let firstToken := s.refungible.tokensMinted.getD handle.id 0
  let tokensMinted ← okOr (checkedAdd u32Max firstToken data.length) DispatchError.overflow
  ensure (tokensMinted < handle.collection.limits.tokenLimit)
    CommonError.collectionTokenLimitExceeded
  let balances ← mintBalances handle s (data.flatMap (·.users.keys))
  forEach (mintCheckNestingAt handle sender firstToken) data.zipIdx
  Exec.withTransaction
    (mintItemsAt handle sender firstToken totals data.zipIdx (.new handle sender))
  update (mintCounters handle.id tokensMinted balances)
  forEach (mintLogsAt handle.id firstToken) data.zipIdx

end Refungible

end UniqueChain
