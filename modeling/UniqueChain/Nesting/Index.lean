import UniqueChain.Runtime.Frame

/-!
# The index of children

An NFT is burnt only if the index has no children for it.  This file says how
the index is read after entries are added and removed, and what holds of it in
every run: an entry is made by a mint or a transfer whose sender passed the
nesting rules (`ChainStep.entered`), and its parent is an existing NFT
(`parentsExist_of_reachable`).
-/

namespace UniqueChain

open CollectionDispatch FiniteMap

variable {T : Config} {s s' : State T}

variable {call : Call T}

/-- The index has an entry for the child under the parent. -/
def IsChild (children : Children) (parent child : Token) : Prop :=
  children.get (parent, child) ≠ none

section Entries

variable {children : Children} {parent : Option Token} {under child item : Token}

theorem isChild_addChild (hchild : child.1 ≠ nativeFungibleCollectionId) :
    IsChild (addChild parent child children) under item ↔
      (parent = some under ∧ item = child) ∨ IsChild children under item := by
  unfold IsChild addChild
  grind

theorem isChild_removeChild (hchild : child.1 ≠ nativeFungibleCollectionId) :
    IsChild (removeChild parent child children) under item ↔
      ¬ (parent = some under ∧ item = child) ∧ IsChild children under item := by
  unfold IsChild removeChild
  grind

/-- Entries that may not change are not touched. -/
theorem isChild_iff_of_agreesOff {p : Token × Token → Prop} {before : Children}
    (hagrees : FiniteMap.AgreesOff p before children) (hother : ¬ p (under, item)) :
    IsChild children under item ↔ IsChild before under item := by
  unfold IsChild
  rw [hagrees _ hother]

theorem isChild_addChild_of_ne (hne : item ≠ child) :
    IsChild (addChild parent child children) under item ↔ IsChild children under item :=
  isChild_iff_of_agreesOff (p := (·.2 = child)) (agreesOff_addChild (.refl _) fun _ => rfl) hne

theorem isChild_removeChild_of_ne (hne : item ≠ child) :
    IsChild (removeChild parent child children) under item ↔ IsChild children under item :=
  isChild_iff_of_agreesOff (p := (·.2 = child)) (agreesOff_removeChild (.refl _) fun _ => rfl) hne

theorem isChild_foldl_addChild_of_ne {ι : Type} {items : List ι} {parentOf : ι → Option Token}
    {childOf : ι → Token} (hne : ∀ entry ∈ items, item ≠ childOf entry) :
    IsChild (items.foldl (fun children entry =>
        addChild (parentOf entry) (childOf entry) children) children) under item ↔
      IsChild children under item :=
  isChild_iff_of_agreesOff (p := fun key => ∃ entry ∈ items, key.2 = childOf entry)
    (agreesOff_foldl_addChild (.refl _) fun entry hentry _ => ⟨entry, hentry, rfl⟩)
    fun ⟨entry, hentry, heq⟩ => hne entry hentry heq

/-- Entries are added one after the other. -/
theorem isChild_foldl_addChild {ι : Type} {items : List ι} {parentOf : ι → Option Token}
    {childOf : ι → Token}
    (hchild : ∀ entry ∈ items, (childOf entry).1 ≠ nativeFungibleCollectionId) :
    IsChild (items.foldl (fun children entry =>
        addChild (parentOf entry) (childOf entry) children) children) under item ↔
      (∃ entry ∈ items, parentOf entry = some under ∧ item = childOf entry) ∨
        IsChild children under item := by
  induction items generalizing children with
  | nil => simp
  | cons head rest ih =>
    rw [List.forall_mem_cons] at hchild
    rw [List.foldl_cons, ih hchild.2, isChild_addChild hchild.1, List.exists_mem_cons_iff]
    exact or_left_comm.trans or_assoc.symm

/-- What is removed was there. -/
theorem IsChild.of_removeChild (hentry : IsChild (removeChild parent child children) under item) :
    IsChild children under item := by
  unfold removeChild at hentry
  unfold IsChild at hentry ⊢
  grind

/-- An entry is the one that was added, or was there before. -/
theorem IsChild.of_addChild (hentry : IsChild (addChild parent child children) under item) :
    (parent = some under ∧ item = child) ∨ IsChild children under item := by
  by_cases hchild : child.1 = nativeFungibleCollectionId
  · right
    unfold addChild at hentry
    split at hentry
    · rwa [if_pos hchild] at hentry
    · exact hentry
  · exact (isChild_addChild hchild).mp hentry

end Entries

/-! ## Where entries come from -/

/-- The sender of a mint or a transfer has put the child at the address of the
parent, and the nesting rules let it. -/
structure Entered (s : State T) (call : Call T) (parent child : Token) : Prop where
  collection : call.collection = some child.1
  mayReceive : ∃ sender account, call.giver = some sender ∧
    T.addressToToken account = some parent ∧ MayReceive s sender account child

section Steps

variable {handle : CollectionHandle T} {parent child : Token}

theorem addressToToken_of_nestingParent {account : T.CrossAccountId}
    (hparent : nestingParent s account = some parent) : T.addressToToken account = some parent :=
  (nestingParent_eq_some.mp hparent).1

theorem Reindexed.entered {children : Children} (hindex : Reindexed s call children)
    (hentry : IsChild children parent child) :
    IsChild s.nonfungible.tokenChildren parent child ∨ Entered s call parent child := by
  induction hindex with
  | start => exact .inl hentry
  | @added _ sender account _ hbefore hcollection hgiver hmay ih =>
    rcases hentry.of_addChild with ⟨hparent, rfl⟩ | hentry
    · exact .inr ⟨hcollection, sender, account, hgiver, addressToToken_of_nestingParent hparent,
        hmay⟩
    · exact ih hentry
  | removed hbefore hcollection ih => exact ih hentry.of_removeChild

/-- An entry of the index was there before the step, or the step has made it. -/
theorem ChainStep.entered (hstep : ChainStep s call s')
    (hentry : IsChild s'.nonfungible.tokenChildren parent child) :
    IsChild s.nonfungible.tokenChildren parent child ∨ Entered s call parent child := by
  cases hstep with
  | nonfungible hfound hoperation => exact hoperation.reindexed.entered hentry
  | fungible hfound hoperation => exact hoperation.reindexed.entered hentry
  | refungible hfound hoperation => exact hoperation.reindexed.entered hentry
  | destroyCollection hnative hfound hdestroyed =>
    cases hdestroyed with
    | nonfungible hmode hempty =>
      left
      unfold IsChild at hentry ⊢
      simp only [State.mapUnique, State.mapNonfungible, State.mapCommon,
        Nonfungible.clearCollection] at hentry
      grind
    | fungible hmode hempty => exact .inl hentry
    | refungible hmode hempty => exact .inl hentry
  | _ => exact .inl hentry

end Steps

/-! ## Parents exist -/

/-- Only an existing NFT can be nested under. -/
theorem NestingGranted.parent_exists {sender : T.CrossAccountId} {child parent : Token}
    {handle : CollectionHandle T} (hgranted : NestingGranted s sender child parent handle) :
    s.nonfungible.tokenData.get parent ≠ none := by
  obtain ⟨account, ancestors, hpath, _⟩ := hgranted.permitted
  intro hnone
  refine hpath.findParent_ne_tokenNotFound ?_
  rw [findParent_nonfungible hgranted.found, hnone]

theorem Entered.parent_exists {parent child : Token}
    (hentered : Entered s call parent child) : s.nonfungible.tokenData.get parent ≠ none := by
  obtain ⟨sender, account, _, hparent, hmay⟩ := hentered.mayReceive
  obtain ⟨handle, hgranted⟩ := hmay parent hparent
  exact hgranted.parent_exists

theorem not_isChild_of_tokenHasChildren {token child : Token}
    (hchildless : Nonfungible.tokenHasChildren s token = false) :
    ¬ IsChild s.nonfungible.tokenChildren token child := by
  unfold IsChild
  rw [not_not]
  exact anyKey_eq_false_iff.mp hchildless _ rfl

theorem Nonfungible.Step.kept_or_burnt {handle : CollectionHandle T}
    {operation : NonfungibleCall T} {nonfungible : NonfungibleStorage T} {token : Token}
    (hstep : Nonfungible.Step handle s operation nonfungible)
    (hexists : s.nonfungible.tokenData.get token ≠ none) :
    nonfungible.tokenData.get token ≠ none ∨
      operation.giver = none ∧ Nonfungible.tokenHasChildren s token = false := by
  have hburnt : ∀ {owner : T.CrossAccountId} {number : TokenId},
      Nonfungible.BurnChecks handle owner number s →
      (s.nonfungible.tokenData.erase (handle.id, number)).get token ≠ none ∨
        Nonfungible.tokenHasChildren s token = false := by
    intro owner number hchecks
    by_cases htoken : token = (handle.id, number)
    · exact .inr (htoken ▸ hchecks.childless)
    · rw [get_erase_of_ne _ htoken]
      exact .inl hexists
  cases hstep with
  | createMultipleItems hchecks hkept =>
    left
    show (FiniteMap.insertEach _ _ _ _).get token ≠ none
    rw [get_insertEach_ne_none]
    exact .inr hexists
  | transfer hchecks =>
    simp only [Nonfungible.transferredStorage]
    grind
  | transferFrom hallowed hchecks =>
    simp only [Nonfungible.transferredStorage]
    grind
  | burn hchecks => exact (hburnt hchecks).imp_right fun hchildless => ⟨rfl, hchildless⟩
  | burnFrom hallowed hchecks =>
    exact (hburnt hchecks).imp_right fun hchildless => ⟨rfl, hchildless⟩
  | modifyTokenProperties happly =>
    split
    · exact .inl hexists
    · exact .inl hexists
  | _ => exact .inl hexists

/-- An NFT is kept by every step except a burn, and then it has no children. -/
theorem ChainStep.kept_or_burnt (hstep : ChainStep s call s') {token : Token}
    (hexists : s.nonfungible.tokenData.get token ≠ none) :
    s'.nonfungible.tokenData.get token ≠ none ∨
      call.giver = none ∧ Nonfungible.tokenHasChildren s token = false := by
  have hstorage := hstep.pallets.nonfungible
  generalize s'.nonfungible = nonfungible at hstorage ⊢
  cases hstorage with
  | operation hcall hfound hoperation =>
    subst hcall
    exact hoperation.kept_or_burnt hexists
  | cleared hempty =>
    left
    have hnone := anyKey_eq_false_iff.mp hempty token
    simp only [Nonfungible.clearCollection]
    grind
  | children => exact .inl hexists

/-- The parents in the index are existing NFTs. -/
def ParentsExist (s : State T) : Prop :=
  ∀ parent child, IsChild s.nonfungible.tokenChildren parent child →
    s.nonfungible.tokenData.get parent ≠ none

theorem ChainStep.parentsExist (hparents : ParentsExist s)
    (hstep : ChainStep s call s') : ParentsExist s' := by
  intro parent child hentry
  rcases hstep.entered hentry with hbefore | hentered
  · rcases hstep.kept_or_burnt (hparents parent child hbefore) with hkept | ⟨_, hchildless⟩
    · exact hkept
    · exact absurd hbefore (not_isChild_of_tokenHasChildren hchildless)
  · obtain ⟨sender, _, hsender, _⟩ := hentered.mayReceive
    rcases hstep.kept_or_burnt hentered.parent_exists with hkept | ⟨hnone, _⟩
    · exact hkept
    · rw [hsender] at hnone
      cases hnone

/-- The children in the index belong to collections that exist or existed. -/
def ChildrenRegistered (s : State T) : Prop :=
  ∀ parent child, IsChild s.nonfungible.tokenChildren parent child →
    child.1 ≤ s.common.createdCollectionCount

theorem ChainStep.collection_exists {collection : CollectionId}
    (hstep : ChainStep s call s') (hcollection : call.collection = some collection) :
    CollectionExists s collection := by
  cases hstep with
  | nonfungible hfound hoperation =>
    cases hcollection
    exact .of_nonfungible hfound
  | fungible hfound hoperation =>
    cases hcollection
    have hasset : (Asset.fungible _).Registered s := ⟨_, hfound⟩
    exact hasset.collectionExists
  | refungible hfound hoperation =>
    cases hcollection
    exact .of_refungible hfound
  | _ => cases hcollection

theorem ChainStep.childrenRegistered (hregistered : Registered s.common)
    (hchildren : ChildrenRegistered s) (hstep : ChainStep s call s') : ChildrenRegistered s' := by
  intro parent child hentry
  have hbound : child.1 ≤ s.common.createdCollectionCount := by
    rcases hstep.entered hentry with hbefore | hentered
    · exact hchildren parent child hbefore
    · exact hregistered _ (hstep.collection_exists hentered.collection)
  exact Nat.le_trans hbound hstep.pallets.common.createdCollectionCount_le

theorem parentsExist_of_reachable (hreachable : Reachable s) : ParentsExist s :=
  hreachable.invariant (OfStorage.nonfungible fun nonfungible => ∀ parent child,
      IsChild nonfungible.tokenChildren parent child → nonfungible.tokenData.get parent ≠ none)
    (fun _ _ _ hentry => absurd rfl hentry)
    fun _ _ _ hparents hstep => hstep.parentsExist hparents

end UniqueChain
