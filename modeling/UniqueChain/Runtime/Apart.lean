import UniqueChain.Runtime.Assets

/-!
# Collections are kept apart

An operation on a collection leaves the entries of every other one alone
(`Nonfungible.Step.sameAt` and its companions for the other pallets).  So a
pallet stores nothing under an identifier that was not given out yet, or that is
the identifier of a collection of another kind.  The index of children is left
out here; `pallets_store_own_modes` says what holds of it.
-/

namespace UniqueChain

open CollectionDispatch FiniteMap

/-- The collection whose tokens a call operates on. -/
def Call.collection {T : Config} : Call T → Option CollectionId
  | .nonfungible collection _ => some collection
  | .fungible collection _ => some collection
  | .refungible collection _ => some collection
  | _ => none

variable {T : Config} {s s' : State T} {collection id : CollectionId} {call : Call T}

variable {handle : CollectionHandle T} {fungible : FungibleStorage T} {from' to' : T.CrossAccountId}
  {number : TokenId} {token : TokenId} {amount : ℕ} {owner spender : T.CrossAccountId}
  {tokenChildren : Children}

private theorem key_ne {β : Type} (hother : collection ≠ id) {first second : β} :
    (collection, first) ≠ (id, second) :=
  fun heq => hother (Prod.mk.inj heq).1

private theorem token_key_ne {β : Type} {token : Token} (hother : collection ≠ token.1)
    {first second : β} : ((collection, number), first) ≠ (token, second) := by
  intro heq
  exact hother (congrArg (·.1.1) heq)

private theorem token_ne {token : Token} (hother : collection ≠ token.1) :
    (collection, number) ≠ token := by
  intro heq
  exact hother (congrArg (·.1) heq)

/-! ## Non-fungible tokens -/

/-- The entries of the collection are the same in both storages.  The index of
children is not part of this: it is kept at the parents, and an operation changes
it in the collection of the parent. -/
structure NonfungibleStorage.SameAt (collection : CollectionId)
    (before after : NonfungibleStorage T) : Prop where
  tokensMinted : after.tokensMinted.get collection = before.tokensMinted.get collection
  tokensBurnt : after.tokensBurnt.get collection = before.tokensBurnt.get collection
  tokenData : ∀ token,
    after.tokenData.get (collection, token) = before.tokenData.get (collection, token)
  tokenProperties : ∀ token,
    after.tokenProperties.get (collection, token) = before.tokenProperties.get (collection, token)
  owned : ∀ holding, after.owned.get (collection, holding) = before.owned.get (collection, holding)
  accountBalance : ∀ account,
    after.accountBalance.get (collection, account) = before.accountBalance.get (collection, account)
  allowance : ∀ token,
    after.allowance.get (collection, token) = before.allowance.get (collection, token)
  collectionAllowance : ∀ pair, after.collectionAllowance.get (collection, pair) =
    before.collectionAllowance.get (collection, pair)
  tokenAuxProperties : ∀ token key, after.tokenAuxProperties.get ((collection, token), key) =
    before.tokenAuxProperties.get ((collection, token), key)

theorem NonfungibleStorage.SameAt.trans {first second third : NonfungibleStorage T}
    (hfirst : first.SameAt collection second) (hsecond : second.SameAt collection third) :
    first.SameAt collection third where
  tokensMinted := hsecond.tokensMinted.trans hfirst.tokensMinted
  tokensBurnt := hsecond.tokensBurnt.trans hfirst.tokensBurnt
  tokenData token := (hsecond.tokenData token).trans (hfirst.tokenData token)
  tokenProperties token := (hsecond.tokenProperties token).trans (hfirst.tokenProperties token)
  owned holding := (hsecond.owned holding).trans (hfirst.owned holding)
  accountBalance account := (hsecond.accountBalance account).trans (hfirst.accountBalance account)
  allowance token := (hsecond.allowance token).trans (hfirst.allowance token)
  collectionAllowance pair :=
    (hsecond.collectionAllowance pair).trans (hfirst.collectionAllowance pair)
  tokenAuxProperties token key :=
    (hsecond.tokenAuxProperties token key).trans (hfirst.tokenAuxProperties token key)

namespace Nonfungible

variable {nonfungible : NonfungibleStorage T}

theorem sameAt_setChildren : nonfungible.SameAt collection { nonfungible with tokenChildren } :=
  ⟨rfl, rfl, fun _ => rfl, fun _ => rfl, fun _ => rfl, fun _ => rfl, fun _ => rfl, fun _ => rfl,
    fun _ _ => rfl⟩

theorem sameAt_transferredStorage {parentFrom parentTo : Option Token} (hother : collection ≠ id) :
    nonfungible.SameAt collection
      (transferredStorage id from' to' token parentFrom parentTo nonfungible) where
  tokensMinted := rfl
  tokensBurnt := rfl
  tokenData _ := get_insert_of_ne _ _ (key_ne hother)
  tokenProperties _ := rfl
  owned _ := by
    simp only [transferredStorage]
    split
    · rfl
    · rw [get_insert_of_ne _ _ (key_ne hother), get_erase_of_ne _ (key_ne hother)]
  accountBalance _ := by
    simp only [transferredStorage]
    split
    · rfl
    · rw [get_insert_of_ne _ _ (key_ne hother), get_putAmount, if_neg (key_ne hother)]
  allowance _ := get_erase_of_ne _ (key_ne hother)
  collectionAllowance _ := rfl
  tokenAuxProperties _ _ := rfl

theorem sameAt_burntStorage {owner : T.CrossAccountId} {parent : Option Token}
    (hother : collection ≠ id) :
    nonfungible.SameAt collection (burntStorage id token owner parent nonfungible) where
  tokensMinted := rfl
  tokensBurnt := get_insert_of_ne _ _ hother
  tokenData _ := get_erase_of_ne _ (key_ne hother)
  tokenProperties _ := get_erase_of_ne _ (key_ne hother)
  owned _ := get_erase_of_ne _ (key_ne hother)
  accountBalance _ := by
    simp only [burntStorage]
    rw [get_putAmount, if_neg (key_ne hother)]
  allowance _ := get_erase_of_ne _ (key_ne hother)
  collectionAllowance _ := rfl
  tokenAuxProperties _ _ := by
    simp only [burntStorage]
    rw [get_eraseWhere, if_neg (key_ne hother)]

theorem sameAt_setAllowance {spender : Option T.CrossAccountId} (hother : collection ≠ id) :
    nonfungible.SameAt collection { nonfungible with
      allowance := writeAllowance (id, token) spender nonfungible.allowance } := by
  refine ⟨rfl, rfl, fun _ => rfl, fun _ => rfl, fun _ => rfl, fun _ => rfl, fun number => ?_,
    fun _ => rfl, fun _ _ => rfl⟩
  cases spender with
  | none => exact get_erase_of_ne _ (key_ne hother)
  | some spender => exact get_insert_of_ne _ _ (key_ne hother)

theorem Step.sameAt {operation : NonfungibleCall T}
    (hother : collection ≠ handle.id) (hstep : Step handle s operation nonfungible) :
    s.nonfungible.SameAt collection nonfungible := by
  cases hstep with
  | createMultipleItems hchecks hkept =>
    exact {
      tokensMinted := get_insert_of_ne _ _ hother
      tokensBurnt := rfl
      tokenData := fun _ =>
        get_insertEach_of_forall_ne fun _ _ => key_ne hother
      tokenProperties := fun _ => hkept _ fun _ _ => key_ne hother
      owned := fun _ => get_insertEach_of_forall_ne fun _ _ => key_ne hother
      accountBalance := get_countEach_of_ne hother
      allowance := fun _ => rfl
      collectionAllowance := fun _ => rfl
      tokenAuxProperties := fun _ _ => rfl }
  | transfer hchecks => exact sameAt_transferredStorage hother
  | transferFrom hallowed hchecks => exact sameAt_transferredStorage hother
  | burn hchecks => exact sameAt_burntStorage hother
  | burnFrom hallowed hchecks => exact sameAt_burntStorage hother
  | setAllowance haccess hitem hallowed => exact sameAt_setAllowance hother
  | setAllowanceFrom haccess hmirror hitem hallowed => exact sameAt_setAllowance hother
  | setAllowanceForAll =>
    exact ⟨rfl, rfl, fun _ => rfl, fun _ => rfl, fun _ => rfl, fun _ => rfl, fun _ => rfl,
      fun _ => get_insert_of_ne _ _ (key_ne hother), fun _ _ => rfl⟩
  | modifyTokenProperties happly =>
    split
    · exact sameAt_setChildren
    · exact ⟨rfl, rfl, fun _ => rfl, fun _ => get_insert_of_ne _ _ (key_ne hother),
        fun _ => rfl, fun _ => rfl, fun _ => rfl, fun _ => rfl, fun _ _ => rfl⟩

end Nonfungible

/-! ## Fungible tokens -/

/-- The entries of the collection are the same in both storages. -/
structure FungibleStorage.SameAt (collection : CollectionId) (before after : FungibleStorage T) :
    Prop where
  totalSupply : after.totalSupply.get collection = before.totalSupply.get collection
  balance : ∀ account,
    after.balance.get (collection, account) = before.balance.get (collection, account)
  allowance : ∀ pair, after.allowance.get (collection, pair) = before.allowance.get
    (collection, pair)

theorem FungibleStorage.SameAt.refl : fungible.SameAt collection fungible :=
  ⟨rfl, fun _ => rfl, fun _ => rfl⟩

theorem FungibleStorage.SameAt.trans {first second third : FungibleStorage T}
    (hfirst : first.SameAt collection second) (hsecond : second.SameAt collection third) :
    first.SameAt collection third where
  totalSupply := hsecond.totalSupply.trans hfirst.totalSupply
  balance account := (hsecond.balance account).trans (hfirst.balance account)
  allowance pair := (hsecond.allowance pair).trans (hfirst.allowance pair)

namespace Fungible

theorem sameAt_transferredState (hother : collection ≠ id) :
    s.fungible.SameAt collection (transferredState id from' to' amount s).fungible := by
  unfold transferredState
  split
  · refine ⟨rfl, fun account => ?_, fun _ => rfl⟩
    simp only [writeBalances, State.setChildren, State.mapFungible]
    rw [get_insert_of_ne _ _ (key_ne hother), get_putAmount, if_neg (key_ne hother)]
  · exact .refl

theorem sameAt_burntState {owner : T.CrossAccountId} (hother : collection ≠ id) :
    s.fungible.SameAt collection (burntState id owner amount s).fungible := by
  refine ⟨get_insert_of_ne _ _ hother, fun account => ?_, fun _ => rfl⟩
  simp only [burntState, State.setChildren, State.mapFungible]
  rw [get_putAmount, if_neg (key_ne hother)]

theorem sameAt_storedAllowance {left : Option ℕ} (hother : collection ≠ id) :
    fungible.SameAt collection (storedAllowance id owner spender left fungible) := by
  refine ⟨rfl, fun _ => rfl, fun pair => ?_⟩
  cases left with
  | none => rfl
  | some left =>
    simp only [storedAllowance, Option.elim]
    rw [get_putAmount, if_neg (key_ne hother)]

theorem Step.sameAt {operation : FungibleCall T}
    (hother : collection ≠ handle.id) (hstep : Step handle s operation s') :
    s.fungible.SameAt collection s'.fungible := by
  cases hstep with
  | createMultipleItems hchecks =>
    exact ⟨get_insert_of_ne _ _ hother,
      fun _ => get_insertEach_of_forall_ne fun _ _ => key_ne hother, fun _ => rfl⟩
  | transfer hchecks => exact sameAt_transferredState hother
  | transferFrom hallowed haccess hchecks =>
    exact (sameAt_transferredState hother).trans (sameAt_storedAllowance hother)
  | burn hchecks => exact sameAt_burntState hother
  | burnFrom hallowed haccess hchecks =>
    exact (sameAt_burntState hother).trans (sameAt_storedAllowance hother)
  | setAllowance haccess => exact sameAt_storedAllowance hother
  | setAllowanceFrom haccess hmirror => exact sameAt_storedAllowance hother

end Fungible

/-! ## Refungible tokens -/

/-- The entries of the collection are the same in both storages. -/
structure RefungibleStorage.SameAt (collection : CollectionId)
    (before after : RefungibleStorage T) : Prop where
  tokensMinted : after.tokensMinted.get collection = before.tokensMinted.get collection
  tokensBurnt : after.tokensBurnt.get collection = before.tokensBurnt.get collection
  tokenProperties : ∀ token,
    after.tokenProperties.get (collection, token) = before.tokenProperties.get (collection, token)
  totalSupply : ∀ token,
    after.totalSupply.get (collection, token) = before.totalSupply.get (collection, token)
  owned : ∀ holding, after.owned.get (collection, holding) = before.owned.get (collection, holding)
  accountBalance : ∀ account,
    after.accountBalance.get (collection, account) = before.accountBalance.get (collection, account)
  balance : ∀ token account, after.balance.get ((collection, token), account) =
    before.balance.get ((collection, token), account)
  allowance : ∀ token pair, after.allowance.get ((collection, token), pair) =
    before.allowance.get ((collection, token), pair)
  collectionAllowance : ∀ pair, after.collectionAllowance.get (collection, pair) =
    before.collectionAllowance.get (collection, pair)

namespace RefungibleStorage.SameAt

variable {first second third : RefungibleStorage T}

theorem refl : first.SameAt collection first :=
  ⟨rfl, rfl, fun _ => rfl, fun _ => rfl, fun _ => rfl, fun _ => rfl, fun _ _ => rfl,
    fun _ _ => rfl, fun _ => rfl⟩

theorem trans (hfirst : first.SameAt collection second) (hsecond : second.SameAt collection third) :
    first.SameAt collection third where
  tokensMinted := hsecond.tokensMinted.trans hfirst.tokensMinted
  tokensBurnt := hsecond.tokensBurnt.trans hfirst.tokensBurnt
  tokenProperties token := (hsecond.tokenProperties token).trans (hfirst.tokenProperties token)
  totalSupply token := (hsecond.totalSupply token).trans (hfirst.totalSupply token)
  owned holding := (hsecond.owned holding).trans (hfirst.owned holding)
  accountBalance account := (hsecond.accountBalance account).trans (hfirst.accountBalance account)
  balance token account := (hsecond.balance token account).trans (hfirst.balance token account)
  allowance token pair := (hsecond.allowance token pair).trans (hfirst.allowance token pair)
  collectionAllowance pair :=
    (hsecond.collectionAllowance pair).trans (hfirst.collectionAllowance pair)

end RefungibleStorage.SameAt

namespace Refungible

variable {refungible : RefungibleStorage T} {token : Token} {account : T.CrossAccountId}

section

variable (hother : collection ≠ token.1)

include hother

theorem sameAt_dropHolder : refungible.SameAt collection (dropHolder token account refungible) := by
  refine { RefungibleStorage.SameAt.refl with owned := fun _ => ?_, accountBalance := fun _ => ?_ }
  · exact get_erase_of_ne _ (key_ne hother)
  · exact get_insert_of_ne _ _ (key_ne hother)

theorem sameAt_addHolder : refungible.SameAt collection (addHolder token account refungible) := by
  refine { RefungibleStorage.SameAt.refl with owned := fun _ => ?_, accountBalance := fun _ => ?_ }
  · exact get_insert_of_ne _ _ (key_ne hother)
  · exact get_insert_of_ne _ _ (key_ne hother)

theorem sameAt_debited {balance : ℕ} :
    refungible.SameAt collection (debited token account balance refungible) := by
  have hwritten : refungible.SameAt collection
      { refungible with balance := refungible.balance.putAmount (token, account) balance } := by
    refine { RefungibleStorage.SameAt.refl with balance := fun number other => ?_ }
    rw [get_putAmount, if_neg (token_key_ne hother)]
  unfold debited
  simp only
  split
  · exact hwritten.trans (sameAt_dropHolder hother)
  · exact hwritten

theorem sameAt_movedPieces {balanceFrom balanceTo amount : ℕ} :
    refungible.SameAt collection
      (movedPieces token from' to' balanceFrom balanceTo amount refungible) := by
  have hreceived : ∀ sent : RefungibleStorage T, sent.SameAt collection
      { sent with balance := sent.balance.insert (token, to') (balanceTo + amount) } := by
    intro sent
    refine { RefungibleStorage.SameAt.refl with balance := fun number other => ?_ }
    exact get_insert_of_ne _ _ (token_key_ne hother)
  have hmoved := (@sameAt_debited T collection refungible token from' hother
    (balanceFrom - amount)).trans (hreceived _)
  unfold movedPieces
  simp only
  split
  · exact hmoved.trans (sameAt_addHolder hother)
  · exact hmoved

theorem sameAt_transferredState :
    s.refungible.SameAt collection (transferredState token from' to' amount s).refungible := by
  unfold transferredState
  split
  · exact sameAt_movedPieces hother
  · exact .refl

theorem sameAt_burntToken : refungible.SameAt collection (burntToken token account refungible) := by
  have hdropped : refungible.SameAt collection (dropHolder token account refungible) :=
    sameAt_dropHolder hother
  refine { hdropped with
    tokensBurnt := get_insert_of_ne _ _ hother
    tokenProperties := fun _ => get_erase_of_ne _ (token_ne hother)
    totalSupply := fun _ => get_erase_of_ne _ (token_ne hother)
    balance := fun number other => ?_
    allowance := fun number pair => ?_ }
  · simp only [burntToken]
    rw [get_eraseWhere, if_neg (token_ne hother)]
  · simp only [burntToken]
    rw [get_eraseWhere, if_neg (token_ne hother)]

theorem sameAt_burntState :
    s.refungible.SameAt collection (burntState token account amount s).refungible := by
  unfold burntState
  simp only
  split
  · exact sameAt_burntToken hother
  · exact { sameAt_debited hother with
      totalSupply := fun _ => get_insert_of_ne _ _ (token_ne hother) }

end

theorem sameAt_storedAllowance {left : Option ℕ} (hother : collection ≠ id) :
    refungible.SameAt collection (storedAllowance id owner spender number left refungible) := by
  refine { RefungibleStorage.SameAt.refl with allowance := fun other pair => ?_ }
  cases left with
  | none => rfl
  | some left =>
    simp only [storedAllowance, Option.elim]
    rw [get_putAmount, if_neg (token_key_ne hother)]

theorem Step.sameAt {operation : RefungibleCall T}
    (hother : collection ≠ handle.id) (hstep : Step handle s operation s') :
    s.refungible.SameAt collection s'.refungible := by
  cases hstep with
  | createMultipleItems hchecks hkept =>
    exact {
      tokensMinted := get_insert_of_ne _ _ hother
      tokensBurnt := rfl
      tokenProperties := fun _ => hkept _ fun _ _ => key_ne hother
      totalSupply := fun _ =>
        get_insertEach_of_forall_ne fun _ _ => key_ne hother
      owned := fun _ => get_insertEach_of_forall_ne fun _ _ => key_ne hother
      accountBalance := get_countEach_of_ne hother
      balance := fun _ _ =>
        get_insertEach_of_forall_ne fun _ _ => token_key_ne hother
      allowance := fun _ _ => rfl
      collectionAllowance := fun _ => rfl }
  | transfer hchecks => exact sameAt_transferredState hother
  | transferFrom hallowed haccess hchecks =>
    exact (sameAt_transferredState hother).trans (sameAt_storedAllowance hother)
  | burn hchecks => exact sameAt_burntState hother
  | burnFrom hallowed haccess hchecks hself =>
    exact (sameAt_burntState hother).trans (sameAt_storedAllowance hother)
  | repartition hmax hpos hall =>
    exact { RefungibleStorage.SameAt.refl with
      totalSupply := fun _ => get_insert_of_ne _ _ (key_ne hother)
      balance := fun _ _ => get_insert_of_ne _ _ (token_key_ne hother) }
  | setAllowance haccess hcovered => exact sameAt_storedAllowance hother
  | setAllowanceFrom haccess hmirror hcovered => exact sameAt_storedAllowance hother
  | setAllowanceForAll =>
    exact { RefungibleStorage.SameAt.refl with
      collectionAllowance := fun _ => get_insert_of_ne _ _ (key_ne hother) }
  | modifyTokenProperties hkept happly =>
    exact { RefungibleStorage.SameAt.refl with
      tokenProperties := fun _ => hkept _ (key_ne hother) }

end Refungible

/-! ## All calls -/

/-- The entries of the collection are the same in the storages of all pallets. -/
structure State.SameAt (collection : CollectionId) (s s' : State T) : Prop where
  nonfungible : s.nonfungible.SameAt collection s'.nonfungible
  fungible : s.fungible.SameAt collection s'.fungible
  refungible : s.refungible.SameAt collection s'.refungible

theorem State.sameAt_of_children
    (hnonfungible : s'.nonfungible = { s.nonfungible with tokenChildren })
    (hfungible : s.fungible.SameAt collection s'.fungible)
    (hrefungible : s.refungible.SameAt collection s'.refungible) : s.SameAt collection s' where
  nonfungible := by
    rw [hnonfungible]
    exact Nonfungible.sameAt_setChildren
  fungible := hfungible
  refungible := hrefungible

theorem Destroyed.sameAt (hother : collection ≠ handle.id)
    (hdestroyed : Destroyed handle s s') : s.SameAt collection s' := by
  cases hdestroyed with
  | nonfungible hmode hempty =>
    refine ⟨?_, .refl, .refl⟩
    exact {
      tokensMinted := get_erase_of_ne _ hother
      tokensBurnt := get_erase_of_ne _ hother
      tokenData := fun _ => get_eraseWhere_of_not _ hother
      tokenProperties := fun _ => rfl
      owned := fun _ => get_eraseWhere_of_not _ hother
      accountBalance := fun _ => get_eraseWhere_of_not _ hother
      allowance := fun _ => get_eraseWhere_of_not _ hother
      collectionAllowance := fun _ => get_eraseWhere_of_not _ hother
      tokenAuxProperties := fun _ _ => rfl }
  | fungible hmode hempty =>
    refine ⟨Nonfungible.sameAt_setChildren, ?_, .refl⟩
    exact ⟨get_erase_of_ne _ hother,
      fun _ => get_eraseWhere_of_not _ hother,
      fun _ => get_eraseWhere_of_not _ hother⟩
  | refungible hmode hempty =>
    refine ⟨Nonfungible.sameAt_setChildren, .refl, ?_⟩
    exact {
      tokensMinted := get_erase_of_ne _ hother
      tokensBurnt := get_erase_of_ne _ hother
      tokenProperties := fun _ => rfl
      totalSupply := fun _ => get_eraseWhere_of_not _ hother
      owned := fun _ => get_eraseWhere_of_not _ hother
      accountBalance := fun _ => get_eraseWhere_of_not _ hother
      balance := fun _ _ => get_eraseWhere_of_not _ hother
      allowance := fun _ _ => get_eraseWhere_of_not _ hother
      collectionAllowance := fun _ => rfl }

/-- A call leaves the entries of every collection alone that it neither operates
on nor destroys. -/
theorem ChainStep.sameAt (hstep : ChainStep s call s') (hcall : call.collection ≠ some collection)
    (hkept : ∀ sender, call ≠ .destroyCollection sender collection) : s.SameAt collection s' := by
  cases hstep with
  | nonfungible hfound hoperation =>
    exact ⟨hoperation.sameAt fun heq => hcall (heq ▸ rfl), .refl, .refl⟩
  | fungible hfound hoperation =>
    obtain ⟨⟨_, _, _, children, hnonfungible⟩, hrefungible⟩ := hoperation.frame
    refine State.sameAt_of_children hnonfungible
      (hoperation.sameAt fun heq => hcall (heq ▸ rfl)) ?_
    rw [hrefungible]
    exact .refl
  | refungible hfound hoperation =>
    obtain ⟨⟨_, _, _, children, hnonfungible⟩, hfungible⟩ := hoperation.frame
    refine State.sameAt_of_children hnonfungible ?_
      (hoperation.sameAt fun heq => hcall (heq ▸ rfl))
    rw [hfungible]
    exact .refl
  | destroyCollection hnative hfound hdestroyed =>
    refine hdestroyed.sameAt ?_
    rintro rfl
    exact hkept _ rfl
  | _ => exact ⟨Nonfungible.sameAt_setChildren, .refl, .refl⟩

/-! ## What a pallet stores of foreign collections -/

section Foreign

variable {Kind : CollectionMode → Prop}

/-- The identifier was not given out yet, or to a collection of another kind. -/
def Foreign (Kind : CollectionMode → Prop) (s : State T) (collection : CollectionId) : Prop :=
  s.common.createdCollectionCount < collection ∨
    ∃ mode, modeOf s collection = some mode ∧ ¬ Kind mode

theorem foreign_congr (hcommon : s'.common = s.common) :
    Foreign Kind s' collection ↔ Foreign Kind s collection := by
  unfold Foreign
  rw [hcommon, modeOf_congr hcommon]

theorem Foreign.not_kind {mode : CollectionMode} (hregistered : Registered s.common)
    (hforeign : Foreign Kind s collection) (hmode : modeOf s collection = some mode) :
    ¬ Kind mode := by
  rcases hforeign with hnew | ⟨other, hother, hkind⟩
  · obtain ⟨data, hget, _⟩ := Option.map_eq_some_iff.mp hmode
    have hbound := hregistered collection (by rw [hget]; exact Option.some_ne_none _)
    exact absurd hbound (Nat.not_le_of_lt hnew)
  · rw [hmode] at hother
    cases hother
    exact hkind

/-- A step makes no identifier foreign. -/
theorem Foreign.of_step (hstep : ChainStep s call s') (hforeign : Foreign Kind s' collection) :
    Foreign Kind s collection := by
  rcases hforeign with hnew | ⟨mode, hmode, hkind⟩
  · exact .inl (Nat.lt_of_le_of_lt hstep.pallets.common.createdCollectionCount_le hnew)
  · rcases hstep.modeOf_cases collection with hkept | hgiven | ⟨handle, rfl, _, hdestroyed⟩
    · exact .inr ⟨mode, hkept ▸ hmode, hkind⟩
    · exact .inl (hgiven ▸ Nat.lt_succ_self _)
    · rw [hdestroyed.modeOf_eq_none] at hmode
      cases hmode

/-- A pallet that touches only collections of its own kind, and then only under
their identifiers, stores nothing of the others. -/
theorem Foreign.blank {Blank : CollectionId → State T → Prop}
    (hstorage : ∀ collection, OfStorage (Blank collection))
    (hgenesis : ∀ collection balances, Blank collection (genesis balances))
    (hkeeps : ∀ collection s call s', (∀ mode, modeOf s collection = some mode → ¬ Kind mode) →
      Blank collection s → ChainStep s call s' → Blank collection s')
    (hreachable : Reachable s) (hforeign : Foreign Kind s collection) : Blank collection s := by
  have hforeignStorage : OfStorage fun s : State T =>
      ∀ collection, Foreign Kind s collection → Blank collection s := by
    intro s s' hsame hblank collection hforeign
    have hcommon := (State.storage_eq_iff.mp hsame).1
    exact hstorage collection hsame (hblank collection ((foreign_congr hcommon).mp hforeign))
  have hinvariant : Registered s.common ∧
      ∀ collection, Foreign Kind s collection → Blank collection s := by
    refine hreachable.invariant (OfStorage.and (OfStorage.common Registered) hforeignStorage)
      (fun balances => ?_) fun s call s' hbefore hstep => ?_
    · exact ⟨fun _ hget => absurd rfl hget, fun collection _ => hgenesis collection balances⟩
    · refine ⟨hstep.pallets.common.registered hbefore.1, fun collection hforeign => ?_⟩
      have hearlier := hforeign.of_step hstep
      exact hkeeps collection s call s' (fun _ => hearlier.not_kind hbefore.1)
        (hbefore.2 collection hearlier) hstep
  exact hinvariant.2 collection hforeign

end Foreign

/-- Nothing is stored under the identifier outside the index of children, which
this says nothing about. -/
def NonfungibleStorage.Blank (collection : CollectionId) (nonfungible : NonfungibleStorage T) :
    Prop :=
  NonfungibleStorage.empty.SameAt collection nonfungible

theorem Nonfungible.blank_clearCollection {nonfungible : NonfungibleStorage T}
    (hblank : nonfungible.Blank collection) :
    (Nonfungible.clearCollection id nonfungible).Blank collection where
  tokensMinted := get_erase_of_eq_none hblank.tokensMinted
  tokensBurnt := get_erase_of_eq_none hblank.tokensBurnt
  tokenData token := get_eraseWhere_of_eq_none (hblank.tokenData token)
  tokenProperties := hblank.tokenProperties
  owned holding := get_eraseWhere_of_eq_none (hblank.owned holding)
  accountBalance account := get_eraseWhere_of_eq_none (hblank.accountBalance account)
  allowance token := get_eraseWhere_of_eq_none (hblank.allowance token)
  collectionAllowance pair :=
    get_eraseWhere_of_eq_none (hblank.collectionAllowance pair)
  tokenAuxProperties := hblank.tokenAuxProperties

theorem Nonfungible.StorageStep.blank {nonfungible : NonfungibleStorage T}
    (hkind : ∀ mode, modeOf s collection = some mode → mode ≠ .nft)
    (hblank : s.nonfungible.Blank collection) (hstep : Nonfungible.StorageStep s call nonfungible) :
    nonfungible.Blank collection := by
  cases hstep with
  | @operation handle _ _ hcall hfound hoperation =>
    obtain ⟨_, _, hget, hmode⟩ := dispatch_eq_nonfungible.mp hfound
    have hother : collection ≠ handle.id := by
      rintro rfl
      exact hkind _ (modeOf_of_get hget) hmode
    exact hblank.trans (hoperation.sameAt hother)
  | cleared hempty => exact Nonfungible.blank_clearCollection hblank
  | children => exact hblank.trans Nonfungible.sameAt_setChildren

theorem Nonfungible.blank_of_foreign (hreachable : Reachable s)
    (hforeign : Foreign (· = .nft) s collection) : s.nonfungible.Blank collection := by
  refine Foreign.blank (fun collection => OfStorage.nonfungible
      (NonfungibleStorage.Blank collection)) (fun _ _ => ?_)
    (fun _ _ _ _ hkind hblank hstep => hstep.pallets.nonfungible.blank hkind hblank)
    hreachable hforeign
  exact ⟨rfl, rfl, fun _ => rfl, fun _ => rfl, fun _ => rfl, fun _ => rfl, fun _ => rfl,
    fun _ => rfl, fun _ _ => rfl⟩

/-- Nothing is stored under the identifier. -/
def FungibleStorage.Blank (collection : CollectionId) (fungible : FungibleStorage T) : Prop :=
  FungibleStorage.empty.SameAt collection fungible

theorem Fungible.StorageStep.blank
    (hkind : ∀ mode, modeOf s collection = some mode → ¬ ∃ decimals, mode = .fungible decimals)
    (hblank : s.fungible.Blank collection) (hstep : Fungible.StorageStep s call fungible) :
    fungible.Blank collection := by
  cases hstep with
  | @operation handle _ _ hcall hfound hoperation =>
    obtain ⟨_, _, hget, hmode⟩ := dispatch_eq_fungible.mp hfound
    have hother : collection ≠ handle.id := by
      rintro rfl
      exact hkind _ (modeOf_of_get hget) hmode
    exact hblank.trans (hoperation.sameAt hother)
  | cleared hempty =>
    exact {
      totalSupply := get_erase_of_eq_none hblank.totalSupply
      balance := fun account => get_eraseWhere_of_eq_none (hblank.balance account)
      allowance := fun pair => get_eraseWhere_of_eq_none (hblank.allowance pair) }
  | unchanged => exact hblank

theorem Fungible.blank_of_foreign (hreachable : Reachable s)
    (hforeign : Foreign (∃ decimals, · = .fungible decimals) s collection) :
    s.fungible.Blank collection :=
  Foreign.blank (fun collection => OfStorage.fungible (FungibleStorage.Blank collection))
    (fun _ _ => .refl)
    (fun _ _ _ _ hkind hblank hstep => hstep.pallets.fungible.blank hkind hblank)
    hreachable hforeign

/-- Nothing is stored under the identifier. -/
def RefungibleStorage.Blank (collection : CollectionId) (refungible : RefungibleStorage T) : Prop :=
  RefungibleStorage.empty.SameAt collection refungible

theorem Refungible.blank_clearCollection {refungible : RefungibleStorage T}
    (hblank : refungible.Blank collection) :
    (Refungible.clearCollection id refungible).Blank collection where
  tokensMinted := get_erase_of_eq_none hblank.tokensMinted
  tokensBurnt := get_erase_of_eq_none hblank.tokensBurnt
  tokenProperties := hblank.tokenProperties
  totalSupply token := get_eraseWhere_of_eq_none (hblank.totalSupply token)
  owned holding := get_eraseWhere_of_eq_none (hblank.owned holding)
  accountBalance account := get_eraseWhere_of_eq_none (hblank.accountBalance account)
  balance token account := get_eraseWhere_of_eq_none (hblank.balance token account)
  allowance token pair := get_eraseWhere_of_eq_none (hblank.allowance token pair)
  collectionAllowance := hblank.collectionAllowance

theorem Refungible.StorageStep.blank {refungible : RefungibleStorage T}
    (hkind : ∀ mode, modeOf s collection = some mode → mode ≠ .reFungible)
    (hblank : s.refungible.Blank collection) (hstep : Refungible.StorageStep s call refungible) :
    refungible.Blank collection := by
  cases hstep with
  | @operation handle _ _ hcall hfound hoperation =>
    obtain ⟨_, _, hget, hmode⟩ := dispatch_eq_refungible.mp hfound
    have hother : collection ≠ handle.id := by
      rintro rfl
      exact hkind _ (modeOf_of_get hget) hmode
    exact hblank.trans (hoperation.sameAt hother)
  | cleared hempty => exact Refungible.blank_clearCollection hblank
  | unchanged => exact hblank

theorem Refungible.blank_of_foreign (hreachable : Reachable s)
    (hforeign : Foreign (· = .reFungible) s collection) : s.refungible.Blank collection :=
  Foreign.blank (fun collection => OfStorage.refungible (RefungibleStorage.Blank collection))
    (fun _ _ => .refl)
    (fun _ _ _ _ hkind hblank hstep => hstep.pallets.refungible.blank hkind hblank)
    hreachable hforeign

end UniqueChain
