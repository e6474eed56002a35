import UniqueChain.Model.Handle

/-!
# Sponsored operations

The confirmed sponsor of a collection pays the fees of some operations on it, but
not too often: a basket keeps the block of the last operation that was sponsored,
and the next one has to wait until the timeout of the collection has passed.  A
withdrawal that is refused changes nothing, the caller then pays the fee.
-/

namespace UniqueChain

open Execution (read update)

variable {T : Config}

/-- The data of a new item. -/
inductive CreateItemData where
  | nft (properties : List Property)
  | fungible (value : ℕ)
  | reFungible (pieces : ℕ) (properties : List Property)

/-- What the sponsor of a collection is asked to pay for. -/
inductive Withdrawal (T : Config) where
  | setExistingTokenProperty (who : T.CrossAccountId) (item : TokenId) (dataSize : ℕ)
  | setTokenProperty (item : TokenId) (dataSize : ℕ)
  | transfer (who : T.CrossAccountId) (item : TokenId)
  | createItem (who : T.CrossAccountId) (properties : CreateItemData)
  | approve (who : T.AccountId) (item : TokenId)

def CollectionMode.sponsorTransferTimeout : CollectionMode → ℕ
  | .nft => nftSponsorTransferTimeout
  | .fungible _ => fungibleSponsorTransferTimeout
  | .reFungible => refungibleSponsorTransferTimeout

def CreateItemData.sponsorTransferTimeout : CreateItemData → ℕ
  | .nft _ => nftSponsorTransferTimeout
  | .fungible _ => fungibleSponsorTransferTimeout
  | .reFungible _ _ => refungibleSponsorTransferTimeout

namespace Sponsoring

/-- Put the block in the basket, if the timeout since the last one has passed.
Block numbers have 32 bits, and the sum is not a checked one. -/
def withdraw {Key : Type} [DecidableEq Key] (basket : FiniteMap Key ℕ) (key : Key)
    (limit blockNumber : ℕ) : Option (FiniteMap Key ℕ) :=
  if (basket.get key).all fun lastTxBlock => (lastTxBlock + limit) % 2 ^ 32 ≤ blockNumber then
    some (basket.insert key blockNumber)
  else
    none

/-- The account holds the item, or some of it. -/
def holdsItem (s : State T) (handle : CollectionHandle T) (who : T.CrossAccountId)
    (item : TokenId) : Bool :=
  match handle.collection.mode with
  | .nft => (s.nonfungible.tokenData.get (handle.id, item)).any fun data =>
    T.convEq data.owner who
  | .fungible _ => item = 0 && s.fungible.balance.getD (handle.id, who) 0 ≠ 0
  | .reFungible => s.refungible.owned.getD (handle.id, who, item) false

variable (handle : CollectionHandle T) (blockNumber : ℕ) (s : State T)

/-- Sponsored writes are limited in size and rate. -/
def withdrawSetTokenProperty (item : TokenId) (dataSize : ℕ) : Option (UniqueStorage T) :=
  if dataSize = 0 then
    some s.unique
  else if dataSize ≤ handle.collection.limits.sponsoredDataSize then do
    let limit ← handle.collection.limits.sponsoredDataRateLimit
    let tokenPropertyBasket ←
      withdraw s.unique.tokenPropertyBasket (handle.id, item) limit blockNumber
    some { s.unique with tokenPropertyBasket }
  else
    none

/-- Fungible items have no properties. -/
def withdrawSetExistingTokenProperty (who : T.CrossAccountId) (item : TokenId)
    (dataSize : ℕ) : Option (UniqueStorage T) :=
  match handle.collection.mode with
  | .fungible _ => none
  | _ =>
    if holdsItem s handle who item then
      withdrawSetTokenProperty handle blockNumber s item dataSize
    else
      none

/-- Sponsored transfers are limited in rate. -/
def withdrawTransfer (who : T.CrossAccountId) (item : TokenId) : Option (UniqueStorage T) :=
  if holdsItem s handle who item then
    let limit := handle.collection.limits.sponsorTransferTimeout
      handle.collection.mode.sponsorTransferTimeout
    match handle.collection.mode with
    | .nft =>
      (withdraw s.unique.nftTransferBasket (handle.id, item) limit blockNumber).map
        fun nftTransferBasket => { s.unique with nftTransferBasket }
    | .fungible _ =>
      (withdraw s.unique.fungibleTransferBasket (handle.id, T.asSub who) limit blockNumber).map
        fun fungibleTransferBasket => { s.unique with fungibleTransferBasket }
    | .reFungible =>
      (withdraw s.unique.reFungibleTransferBasket ((handle.id, item), T.asSub who) limit
          blockNumber).map
        fun reFungibleTransferBasket => { s.unique with reFungibleTransferBasket }
  else
    none

/-- Sponsored mints are limited in rate. -/
def withdrawCreateItem (who : T.CrossAccountId) (properties : CreateItemData) :
    Option (UniqueStorage T) :=
  let limit := handle.collection.limits.sponsorTransferTimeout properties.sponsorTransferTimeout
  (withdraw s.unique.createItemBasket (handle.id, T.asSub who) limit blockNumber).map
    fun createItemBasket => { s.unique with createItemBasket }

/-- Sponsored approvals are limited in rate. -/
def withdrawApprove (who : T.AccountId) (item : TokenId) : Option (UniqueStorage T) :=
  let limit := handle.collection.limits.sponsorApproveTimeout
  match handle.collection.mode with
  | .nft =>
    (withdraw s.unique.nftApproveBasket (handle.id, item) limit blockNumber).map
      fun nftApproveBasket => { s.unique with nftApproveBasket }
  | .fungible _ =>
    (withdraw s.unique.fungibleApproveBasket (handle.id, who) limit blockNumber).map
      fun fungibleApproveBasket => { s.unique with fungibleApproveBasket }
  | .reFungible =>
    (withdraw s.unique.refungibleApproveBasket ((handle.id, item), who) limit blockNumber).map
      fun refungibleApproveBasket => { s.unique with refungibleApproveBasket }

/-- The baskets after a withdrawal that is granted. -/
def run : Withdrawal T → Option (UniqueStorage T)
  | .setExistingTokenProperty who item dataSize =>
    withdrawSetExistingTokenProperty handle blockNumber s who item dataSize
  | .setTokenProperty item dataSize => withdrawSetTokenProperty handle blockNumber s item dataSize
  | .transfer who item => withdrawTransfer handle blockNumber s who item
  | .createItem who properties => withdrawCreateItem handle blockNumber s who properties
  | .approve who item => withdrawApprove handle blockNumber s who item

end Sponsoring

/-- A collection with a confirmed sponsor. -/
def load (s : State T) (id : CollectionId) : Option (T.AccountId × CollectionHandle T) := do
  let collection ← s.common.collectionById.get id
  let sponsor ← collection.sponsorship.sponsor
  some (sponsor, ⟨id, collection⟩)

/-- The block of the last transfer that was sponsored. -/
def lastTxBlock (handle : CollectionHandle T) (s : State T) (who : T.CrossAccountId)
    (token : TokenId) : Option ℕ :=
  match handle.collection.mode with
  | .nft => s.unique.nftTransferBasket.get (handle.id, token)
  | .fungible _ => s.unique.fungibleTransferBasket.get (handle.id, T.asSub who)
  | .reFungible => s.unique.reFungibleTransferBasket.get ((handle.id, token), T.asSub who)

def tokenExists (handle : CollectionHandle T) (s : State T) (token : TokenId) : Bool :=
  match handle.collection.mode with
  | .nft => (s.nonfungible.tokenData.get (handle.id, token)).isSome
  | .fungible _ => token = 0
  | .reFungible => (s.refungible.totalSupply.get (handle.id, token)).isSome

/-- The blocks to wait until a transfer of the token is sponsored. -/
def predict (s : State T) (blockNumber : ℕ) (collectionId : CollectionId) (who : T.CrossAccountId)
    (token : TokenId) : Option ℕ := do
  let (_, handle) ← load s collectionId
  let limit := handle.collection.limits.sponsorTransferTimeout
    handle.collection.mode.sponsorTransferTimeout
  match lastTxBlock handle s who token with
  | some lastTxBlock => some (min (lastTxBlock + limit) u32Max - blockNumber)
  | none => if tokenExists handle s token then some 0 else none

/-- The decision on a withdrawal; a refused one leaves the state as it is. -/
def sponsor (id : CollectionId) (withdrawal : Withdrawal T) (blockNumber : ℕ) : Exec T Unit := do
  let s ← read
  match (load s id).bind fun loaded => Sponsoring.run loaded.2 blockNumber s withdrawal with
  | some unique => update (·.mapUnique fun _ => unique)
  | none => pure ()

end UniqueChain
