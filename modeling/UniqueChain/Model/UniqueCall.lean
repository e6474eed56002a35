import UniqueChain.Model.Sponsoring

/-!
# The calls of the pallet `unique`

Every call of the pallet by its name.  Of the arguments only those are kept that are
read before the call is dispatched: they decide who pays for it.
-/

namespace UniqueChain

/-- The calls of `pallet-unique`. -/
inductive UniqueCall (T : Config) where
  | createCollection
  | createCollectionEx
  | destroyCollection
  | addToAllowList
  | removeFromAllowList
  | changeCollectionOwner
  | addCollectionAdmin
  | removeCollectionAdmin
  | setCollectionSponsor
  | confirmSponsorship
  | removeCollectionSponsor
  | createItem (collectionId : CollectionId) (data : CreateItemData)
  | createMultipleItems
  | setCollectionProperties
  | deleteCollectionProperties
  | setTokenProperties (collectionId : CollectionId) (tokenId : TokenId)
      (properties : List Property)
  | deleteTokenProperties
  | setTokenPropertyPermissions
  | createMultipleItemsEx
  | setTransfersEnabledFlag
  | burnItem
  | burnFrom
  | transfer (collectionId : CollectionId) (itemId : TokenId)
  | approve (collectionId : CollectionId) (itemId : TokenId)
  | approveFrom
  | transferFrom (from' : T.CrossAccountId) (collectionId : CollectionId) (itemId : TokenId)
  | setCollectionLimits
  | setCollectionPermissions
  | repartition
  | setAllowanceForAll
  | forceRepairCollection
  | forceRepairItem

end UniqueChain
