import UniqueChain.Nesting.Index
import UniqueChain.Runtime.Burnt

/-!
# What a destroyed collection leaves behind

A collection is destroyed when it has no tokens.  Most of what is stored under
its identifier is then deleted; the properties of tokens are empty because the
collection has no tokens, and the maps of the other pallets because they never
had an entry under the identifier (`Foreign.blank`).

Five maps are neither cleared nor empty: the permissions for properties, the
operators of a refungible collection, the baskets for new items and for token
properties, and the index of children.  The first of them gets its entry when the
collection is created, so every destroyed collection leaves one behind.  The last
is cleared for parents of the collection, which a collection without tokens does
not have.  Its items may be entered as children of other tokens: a mint of zero
fungible tokens to the address of an NFT makes such an entry.
-/

namespace UniqueChain

open CollectionDispatch FiniteMap

/-! ## The storage maps -/

/-- The maps of the pallet `common`. -/
inductive CommonMap where
  | collectionById
  | collectionProperties
  | collectionPropertyPermissions
  | adminAmount
  | isAdmin
  | allowlist

/-- The maps of the pallet `nonfungible`. -/
inductive NonfungibleMap where
  | tokensMinted
  | tokensBurnt
  | tokenData
  | tokenProperties
  | owned
  | tokenChildren
  | accountBalance
  | allowance
  | collectionAllowance
  | tokenAuxProperties

/-- The maps of the pallet `fungible`. -/
inductive FungibleMap where
  | totalSupply
  | balance
  | allowance

/-- The maps of the pallet `refungible`. -/
inductive RefungibleMap where
  | tokensMinted
  | tokensBurnt
  | tokenProperties
  | totalSupply
  | owned
  | accountBalance
  | balance
  | allowance
  | collectionAllowance

/-- The baskets, which the pallet `unique` keeps. -/
inductive UniqueMap where
  | createItemBasket
  | nftTransferBasket
  | fungibleTransferBasket
  | reFungibleTransferBasket
  | tokenPropertyBasket
  | nftApproveBasket
  | fungibleApproveBasket
  | refungibleApproveBasket

/-- The storage maps whose keys name a collection. -/
inductive StorageMap where
  | common (map : CommonMap)
  | nonfungible (map : NonfungibleMap)
  | fungible (map : FungibleMap)
  | refungible (map : RefungibleMap)
  | unique (map : UniqueMap)

variable {T : Config} {s s' : State T} {collection : CollectionId} {fungible : FungibleStorage T}

/-- The map has an entry whose key names the collection. -/
def CommonStorage.hasEntry (common : CommonStorage T) (collection : CollectionId) :
    CommonMap → Bool
  | .collectionById => common.collectionById.anyKey fun key => key = collection
  | .collectionProperties => common.collectionProperties.anyKey fun key => key = collection
  | .collectionPropertyPermissions =>
    common.collectionPropertyPermissions.anyKey fun key => key = collection
  | .adminAmount => common.adminAmount.anyKey fun key => key = collection
  | .isAdmin => common.isAdmin.anyKey fun key => key.1 = collection
  | .allowlist => common.allowlist.anyKey fun key => key.1 = collection

/-- The same for NFTs.  A key of the index of children names two collections, that of
the parent and that of the child. -/
def NonfungibleStorage.hasEntry (nonfungible : NonfungibleStorage T) (collection : CollectionId) :
    NonfungibleMap → Bool
  | .tokensMinted => nonfungible.tokensMinted.anyKey fun key => key = collection
  | .tokensBurnt => nonfungible.tokensBurnt.anyKey fun key => key = collection
  | .tokenData => nonfungible.tokenData.anyKey fun key => key.1 = collection
  | .tokenProperties => nonfungible.tokenProperties.anyKey fun key => key.1 = collection
  | .owned => nonfungible.owned.anyKey fun key => key.1 = collection
  | .tokenChildren =>
    nonfungible.tokenChildren.anyKey fun key => key.1.1 = collection ∨ key.2.1 = collection
  | .accountBalance => nonfungible.accountBalance.anyKey fun key => key.1 = collection
  | .allowance => nonfungible.allowance.anyKey fun key => key.1 = collection
  | .collectionAllowance => nonfungible.collectionAllowance.anyKey fun key => key.1 = collection
  | .tokenAuxProperties => nonfungible.tokenAuxProperties.anyKey fun key => key.1.1 = collection

/-- The same for fungible tokens. -/
def FungibleStorage.hasEntry (fungible : FungibleStorage T) (collection : CollectionId) :
    FungibleMap → Bool
  | .totalSupply => fungible.totalSupply.anyKey fun key => key = collection
  | .balance => fungible.balance.anyKey fun key => key.1 = collection
  | .allowance => fungible.allowance.anyKey fun key => key.1 = collection

/-- The same for refungible tokens. -/
def RefungibleStorage.hasEntry (refungible : RefungibleStorage T) (collection : CollectionId) :
    RefungibleMap → Bool
  | .tokensMinted => refungible.tokensMinted.anyKey fun key => key = collection
  | .tokensBurnt => refungible.tokensBurnt.anyKey fun key => key = collection
  | .tokenProperties => refungible.tokenProperties.anyKey fun key => key.1 = collection
  | .totalSupply => refungible.totalSupply.anyKey fun key => key.1 = collection
  | .owned => refungible.owned.anyKey fun key => key.1 = collection
  | .accountBalance => refungible.accountBalance.anyKey fun key => key.1 = collection
  | .balance => refungible.balance.anyKey fun key => key.1.1 = collection
  | .allowance => refungible.allowance.anyKey fun key => key.1.1 = collection
  | .collectionAllowance => refungible.collectionAllowance.anyKey fun key => key.1 = collection

/-- The same for the baskets. -/
def UniqueStorage.hasEntry (unique : UniqueStorage T) (collection : CollectionId) :
    UniqueMap → Bool
  | .createItemBasket => unique.createItemBasket.anyKey fun key => key.1 = collection
  | .nftTransferBasket => unique.nftTransferBasket.anyKey fun key => key.1 = collection
  | .fungibleTransferBasket => unique.fungibleTransferBasket.anyKey fun key => key.1 = collection
  | .reFungibleTransferBasket =>
    unique.reFungibleTransferBasket.anyKey fun key => key.1.1 = collection
  | .tokenPropertyBasket => unique.tokenPropertyBasket.anyKey fun key => key.1 = collection
  | .nftApproveBasket => unique.nftApproveBasket.anyKey fun key => key.1 = collection
  | .fungibleApproveBasket => unique.fungibleApproveBasket.anyKey fun key => key.1 = collection
  | .refungibleApproveBasket =>
    unique.refungibleApproveBasket.anyKey fun key => key.1.1 = collection

/-- The same for the maps of all pallets. -/
def State.hasEntry (s : State T) (collection : CollectionId) : StorageMap → Bool
  | .common map => s.common.hasEntry collection map
  | .nonfungible map => s.nonfungible.hasEntry collection map
  | .fungible map => s.fungible.hasEntry collection map
  | .refungible map => s.refungible.hasEntry collection map
  | .unique map => s.unique.hasEntry collection map

/-- The map is one that a destruction passes over. -/
def StorageMap.survives : StorageMap → Bool
  | .common .collectionPropertyPermissions => true
  | .nonfungible .tokenChildren => true
  | .refungible .collectionAllowance => true
  | .unique .createItemBasket => true
  | .unique .tokenPropertyBasket => true
  | _ => false

theorem State.hasEntry_congr (hstorage : s'.storage = s.storage) (map : StorageMap) :
    s'.hasEntry collection map = s.hasEntry collection map := by
  obtain ⟨hcommon, hnonfungible, hfungible, hrefungible, _, hunique⟩ :=
    State.storage_eq_iff.mp hstorage
  cases map with
  | common map => exact congrArg (·.hasEntry collection map) hcommon
  | nonfungible map => exact congrArg (·.hasEntry collection map) hnonfungible
  | fungible map => exact congrArg (·.hasEntry collection map) hfungible
  | refungible map => exact congrArg (·.hasEntry collection map) hrefungible
  | unique map => exact congrArg (·.hasEntry collection map) hunique

/-! ## What is stored of a collection without tokens -/

/-- In a blank storage no map has an entry, the index of children apart. -/
theorem NonfungibleStorage.Blank.hasEntry_eq_false {nonfungible : NonfungibleStorage T}
    (hblank : nonfungible.Blank collection) (map : NonfungibleMap)
    (hmap : (StorageMap.nonfungible map).survives = false) :
    nonfungible.hasEntry collection map = false := by
  cases map <;> refine anyKey_eq_false_iff.mpr ?_
  case tokensMinted => rintro _ rfl; exact hblank.tokensMinted
  case tokensBurnt => rintro _ rfl; exact hblank.tokensBurnt
  case tokenData => rintro ⟨_, token⟩ rfl; exact hblank.tokenData token
  case tokenProperties => rintro ⟨_, token⟩ rfl; exact hblank.tokenProperties token
  case owned => rintro ⟨_, holding⟩ rfl; exact hblank.owned holding
  case tokenChildren => cases hmap
  case accountBalance => rintro ⟨_, account⟩ rfl; exact hblank.accountBalance account
  case allowance => rintro ⟨_, token⟩ rfl; exact hblank.allowance token
  case collectionAllowance => rintro ⟨_, pair⟩ rfl; exact hblank.collectionAllowance pair
  case tokenAuxProperties => rintro ⟨⟨_, token⟩, key⟩ rfl; exact hblank.tokenAuxProperties token key

theorem FungibleStorage.Blank.hasEntry_eq_false
    (hblank : fungible.Blank collection) (map : FungibleMap) :
    fungible.hasEntry collection map = false := by
  cases map <;> refine anyKey_eq_false_iff.mpr ?_
  case totalSupply => rintro _ rfl; exact hblank.totalSupply
  case balance => rintro ⟨_, account⟩ rfl; exact hblank.balance account
  case allowance => rintro ⟨_, pair⟩ rfl; exact hblank.allowance pair

theorem RefungibleStorage.Blank.hasEntry_eq_false {refungible : RefungibleStorage T}
    (hblank : refungible.Blank collection) (map : RefungibleMap) :
    refungible.hasEntry collection map = false := by
  cases map <;> refine anyKey_eq_false_iff.mpr ?_
  case tokensMinted => rintro _ rfl; exact hblank.tokensMinted
  case tokensBurnt => rintro _ rfl; exact hblank.tokensBurnt
  case tokenProperties => rintro ⟨_, token⟩ rfl; exact hblank.tokenProperties token
  case totalSupply => rintro ⟨_, token⟩ rfl; exact hblank.totalSupply token
  case owned => rintro ⟨_, holding⟩ rfl; exact hblank.owned holding
  case accountBalance => rintro ⟨_, account⟩ rfl; exact hblank.accountBalance account
  case balance => rintro ⟨⟨_, token⟩, account⟩ rfl; exact hblank.balance token account
  case allowance => rintro ⟨⟨_, token⟩, pair⟩ rfl; exact hblank.allowance token pair
  case collectionAllowance => rintro ⟨_, pair⟩ rfl; exact hblank.collectionAllowance pair

/-- The parents in the index of children are existing tokens. -/
theorem Nonfungible.no_children_of_no_tokens (hreachable : Reachable s)
    (hdata : ∀ token, s.nonfungible.tokenData.get (collection, token) = none)
    (key : Token × Token) (hkey : key.1.1 = collection) :
    s.nonfungible.tokenChildren.get key = none := by
  subst hkey
  by_contra hentry
  exact parentsExist_of_reachable hreachable key.1 key.2 hentry (hdata key.1.2)

/-! ## What a destruction does to each pallet -/

section

variable {before after survives : Bool}

/-- Of a map that is passed over the entries are kept. -/
theorem entries_iff_of_kept (hkept : after = before) (hmap : survives = true) :
    after = false ↔ survives = false ∨ before = false := by
  subst hkept hmap
  exact ⟨.inr, fun hnone => hnone.resolve_left Bool.noConfusion⟩

/-- A map without entries gets none. -/
theorem entries_iff_of_none (hnone : survives = false → before = false) :
    before = false ↔ survives = false ∨ before = false :=
  ⟨.inr, fun hmap => hmap.elim hnone id⟩

end

theorem hasEntry_forgetCollection {common : CommonStorage T} (map : CommonMap) :
    (forgetCollection collection common).hasEntry collection map = false ↔
      (StorageMap.common map).survives = false ∨ common.hasEntry collection map = false := by
  cases map with
  | collectionPropertyPermissions => exact entries_iff_of_kept rfl rfl
  | isAdmin => exact iff_of_true anyKey_eraseWhere_self (.inl rfl)
  | allowlist => exact iff_of_true anyKey_eraseWhere_self (.inl rfl)
  | _ => exact iff_of_true anyKey_erase_self (.inl rfl)

theorem hasEntry_clearBaskets {unique : UniqueStorage T} (map : UniqueMap) :
    (clearBaskets collection unique).hasEntry collection map = false ↔
      (StorageMap.unique map).survives = false ∨ unique.hasEntry collection map = false := by
  cases map with
  | createItemBasket => exact entries_iff_of_kept rfl rfl
  | tokenPropertyBasket => exact entries_iff_of_kept rfl rfl
  | _ => exact iff_of_true anyKey_eraseWhere_self (.inl rfl)

theorem hasEntry_clearFungible (map : FungibleMap) :
    (Fungible.clearCollection collection fungible).hasEntry collection map = false := by
  cases map with
  | totalSupply => exact anyKey_erase_self
  | balance => exact anyKey_eraseWhere_self
  | allowance => exact anyKey_eraseWhere_self

section

variable (hreachable : Reachable s)

include hreachable

/-- Only the operators are left of a refungible collection without tokens. -/
theorem hasEntry_clearRefungible
    (hempty : Refungible.collectionHasTokens s collection = false) (map : RefungibleMap) :
    (Refungible.clearCollection collection s.refungible).hasEntry collection map = false ↔
      (StorageMap.refungible map).survives = false ∨
        s.refungible.hasEntry collection map = false := by
  have hsupply := anyKey_eq_false_iff.mp hempty
  cases map with
  | collectionAllowance => exact entries_iff_of_kept rfl rfl
  | tokenProperties =>
    refine iff_of_true (anyKey_eq_false_iff.mpr fun key hkey => ?_) (.inl rfl)
    by_contra hdescribed
    exact (Refungible.ledger_of_reachable hreachable).described key hdescribed (hsupply key hkey)
  | tokensMinted => exact iff_of_true anyKey_erase_self (.inl rfl)
  | tokensBurnt => exact iff_of_true anyKey_erase_self (.inl rfl)
  | _ => exact iff_of_true anyKey_eraseWhere_self (.inl rfl)

/-- Only the entries as children of other tokens are left of an NFT collection
without tokens. -/
theorem hasEntry_clearNonfungible
    (hempty : Nonfungible.collectionHasTokens s collection = false) (map : NonfungibleMap) :
    (Nonfungible.clearCollection collection s.nonfungible).hasEntry collection map = false ↔
      (StorageMap.nonfungible map).survives = false ∨
        s.nonfungible.hasEntry collection map = false := by
  have hdata := anyKey_eq_false_iff.mp hempty
  cases map with
  | tokenChildren =>
    -- no parent is of the collection, so there is nothing to delete
    have hchildless := Nonfungible.no_children_of_no_tokens hreachable fun token =>
      hdata (collection, token) rfl
    refine entries_iff_of_kept (anyKey_congr fun key _ => ?_) rfl
    show (s.nonfungible.tokenChildren.eraseWhere fun key => key.1.1 = collection).get key = _
    rw [get_eraseWhere]
    split
    · exact (hchildless key ‹_›).symm
    · rfl
  | tokenProperties =>
    refine iff_of_true (anyKey_eq_false_iff.mpr fun key hkey => ?_) (.inl rfl)
    by_contra hdescribed
    exact (Nonfungible.ledger_of_reachable hreachable).described key hdescribed (hdata key hkey)
  | tokenAuxProperties =>
    refine iff_of_true (anyKey_eq_false_iff.mpr fun key _ => ?_) (.inl rfl)
    exact Nonfungible.noAuxProperties_of_reachable hreachable key
  | tokensMinted => exact iff_of_true anyKey_erase_self (.inl rfl)
  | tokensBurnt => exact iff_of_true anyKey_erase_self (.inl rfl)
  | _ => exact iff_of_true anyKey_eraseWhere_self (.inl rfl)

/-! ## Destruction -/

theorem Destroyed.hasEntry_iff {handle : CollectionHandle T} {budget : ℕ}
    (hfound : s.common.collectionById.get handle.id = some handle.collection)
    (hdestroyed : Destroyed handle (s.setBudget budget) s') (map : StorageMap) :
    s'.hasEntry handle.id map = false ↔
      map.survives = false ∨ s.hasEntry handle.id map = false := by
  have hforeign : ∀ {Kind : CollectionMode → Prop}, ¬ Kind handle.collection.mode →
      Foreign Kind s handle.id := fun hkind => .inr ⟨_, modeOf_of_get hfound, hkind⟩
  cases map with
  | common map => cases hdestroyed <;> exact hasEntry_forgetCollection map
  | nonfungible map =>
    have hother (hkind : handle.collection.mode ≠ .nft) := entries_iff_of_none
      ((Nonfungible.blank_of_foreign hreachable (hforeign hkind)).hasEntry_eq_false map)
    cases hdestroyed with
    | nonfungible hmode hempty => exact hasEntry_clearNonfungible hreachable hempty map
    | fungible hmode hempty => exact hother (by simp [hmode])
    | refungible hmode hempty => exact hother (by simp [hmode])
  | fungible map =>
    have hother (hkind : ¬ ∃ decimals, handle.collection.mode = .fungible decimals) :=
      (Fungible.blank_of_foreign hreachable (hforeign hkind)).hasEntry_eq_false map
    refine iff_of_true ?_ (.inl rfl)
    cases hdestroyed with
    | nonfungible hmode hempty => exact hother (by simp [hmode])
    | fungible hmode hempty => exact hasEntry_clearFungible map
    | refungible hmode hempty => exact hother (by simp [hmode])
  | refungible map =>
    have hother (hkind : handle.collection.mode ≠ .reFungible) :=
      (Refungible.blank_of_foreign hreachable (hforeign hkind)).hasEntry_eq_false map
    cases hdestroyed with
    | nonfungible hmode hempty => exact entries_iff_of_none fun _ => hother (by simp [hmode])
    | fungible hmode hempty => exact entries_iff_of_none fun _ => hother (by simp [hmode])
    | refungible hmode hempty => exact hasEntry_clearRefungible hreachable hempty map
  | unique map => cases hdestroyed <;> exact hasEntry_clearBaskets map

end

/-- After the destruction of a collection a map has no entry of it exactly if it
had none before or is one that a destruction does not pass over. -/
theorem destroyed_collection_leaves_nothing {sender : T.CrossAccountId} {budget : ℕ}
    (hreachable : Reachable s)
    (hstep : step s ⟨.destroyCollection sender collection, budget⟩ = some s') (map : StorageMap) :
    s'.hasEntry collection map = false ↔
      map.survives = false ∨ s.hasEntry collection map = false := by
  obtain ⟨s₁, hchain, hstorage⟩ := chainStep_of_step hstep
  rw [State.hasEntry_congr hstorage]
  cases hchain with
  | destroyCollection hnative hfound hdestroyed =>
    exact hdestroyed.hasEntry_iff hreachable hfound map

namespace DestroyedExample

open ReferenceAccount

/-- A token is minted and burnt. -/
def emptied : List (Extrinsic reference) :=
  [reference.create .nft, ⟨.nonfungible 1 (.createMultipleItems alice [⟨alice, []⟩]), 5⟩,
    ⟨.nonfungible 1 (.burn alice 1), 5⟩]

/-- An operator is set, and the sponsor pays for a mint and for a property. -/
def sponsored : List (Extrinsic reference) :=
  [reference.create .reFungible, ⟨.refungible 1 (.setAllowanceForAll alice bob true), 5⟩,
    ⟨.settings 1 (.updateLimits alice { sponsoredDataRateLimit? := some (.blocks 5) }), 5⟩,
    ⟨.settings 1 (.forceSetSponsor alice), 5⟩,
    ⟨.sponsor 1 (.createItem alice (.reFungible 1 [])) 10, 5⟩,
    ⟨.sponsor 1 (.setTokenProperty 1 8) 10, 5⟩]

/-- Zero fungible tokens are minted to the address of an NFT. -/
def zeroMinted : List (Extrinsic reference) :=
  [reference.createNesting, ⟨.nonfungible 1 (.createMultipleItems alice [⟨alice, []⟩]), 5⟩,
    reference.create (.fungible 0), ⟨.fungible 2 (.createMultipleItems alice
      (.ofList [(reference.tokenToAddress (1, 1), 0)])), 5⟩]

/-- The owner destroys the first collection. -/
def destroy : Extrinsic reference := ⟨.destroyCollection alice 1, 5⟩

example : ∃ s', step (reference.stateOf zeroMinted rfl) ⟨.destroyCollection alice 2, 5⟩ = some s' ∧
    s'.hasEntry 2 (.nonfungible .tokenChildren) = true := ⟨_, rfl, rfl⟩

end DestroyedExample

open DestroyedExample in
theorem destroyed_collection_leaves_nothing_emptied :
    ∃ s s', Reachable s ∧ step s destroy = some s' ∧
      s.hasEntry 1 (.nonfungible .tokensMinted) = true ∧
      s'.hasEntry 1 (.nonfungible .tokensMinted) = false := by
  have hstep : (step (reference.stateOf emptied rfl) destroy).isSome := by decide +kernel
  refine ⟨_, _, reference.reachable_stateOf emptied rfl, (Option.some_get hstep).symm,
    by decide +kernel, ?_⟩
  exact (destroyed_collection_leaves_nothing (reference.reachable_stateOf emptied rfl)
    (Option.some_get hstep).symm (.nonfungible .tokensMinted)).mpr (.inl rfl)

open DestroyedExample in
theorem destroyed_collection_leaves_entries :
    ∃ s s', Reachable s ∧ step s destroy = some s' ∧
      s'.hasEntry 1 (.common .collectionPropertyPermissions) = true ∧
      s'.hasEntry 1 (.refungible .collectionAllowance) = true ∧
      s'.hasEntry 1 (.unique .createItemBasket) = true ∧
      s'.hasEntry 1 (.unique .tokenPropertyBasket) = true := by
  have hstep : (step (reference.stateOf sponsored rfl) destroy).isSome := by decide +kernel
  refine ⟨_, _, reference.reachable_stateOf sponsored rfl, (Option.some_get hstep).symm, ?_⟩
  exact ⟨rfl, rfl, rfl, rfl⟩

end UniqueChain
