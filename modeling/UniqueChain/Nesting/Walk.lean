import UniqueChain.Model.Structure

/-!
# What the walk up the nesting tree finds

The walk is specified by `OwnerPath`: the tokens that lie between a token and
the account at its top.  A walk that ends at an account has followed such a
path, with one unit of budget for each step; and where there is a path, a walk
with enough budget follows it to its end.  The set of visited tokens plays no
part in the specification, since a path that ends never meets a token twice.
-/

namespace UniqueChain

open Execution

variable {T : Config} {s s' : State T}

variable {user : T.CrossAccountId} {token : Token} {chain : ParentChain}
  {handle : CollectionHandle T}

/-- Following owners from a token through the tokens `ancestors` ends at the
account `user`. -/
inductive OwnerPath (s : State T) : Token → List Token → T.CrossAccountId → Prop
  | user {token : Token} {user : T.CrossAccountId} (hparent : findParent s token = .user user) :
      OwnerPath s token [] user
  | token {token parent : Token} {ancestors : List Token} {user : T.CrossAccountId}
      (hparent : findParent s token = .token parent) (hpath : OwnerPath s parent ancestors user) :
      OwnerPath s token (parent :: ancestors) user

namespace OwnerPath

variable {token : Token} {ancestors : List Token} {user : T.CrossAccountId}

/-- A path is kept by every change that keeps the parents of the tokens on it. -/
theorem congr (hpath : OwnerPath s token ancestors user)
    (hparents : ∀ node ∈ token :: ancestors, findParent s' node = findParent s node) :
    OwnerPath s' token ancestors user := by
  induction hpath with
  | user hparent =>
    refine .user ?_
    rw [hparents _ (List.mem_cons_self ..), hparent]
  | token hparent _ ih =>
    refine .token ?_ (ih fun node hnode => hparents node (List.mem_cons_of_mem _ hnode))
    rw [hparents _ (List.mem_cons_self ..), hparent]

end OwnerPath

/-! ## Parents by kind of collection -/

/-- The parent an owner stands for. -/
def parentOf (owner : T.CrossAccountId) : Parent T :=
  match T.addressToToken owner with
  | some parent => .token parent
  | none => .user owner

theorem findParent_nonfungible
    (hfound : CollectionDispatch.dispatch s token.1 = some (.nonfungible handle)) :
    findParent s token =
      match s.nonfungible.tokenData.get token with
      | some item => parentOf item.owner
      | none => .tokenNotFound := by
  have hid := (CollectionDispatch.dispatch_eq_nonfungible.mp hfound).2.1
  have htoken : (handle.id, token.2) = token := Prod.ext hid rfl
  unfold findParent
  simp only [hfound, CollectionDispatch.tokenOwner, Nonfungible.tokenOwner, htoken, parentOf]
  cases s.nonfungible.tokenData.get token <;> rfl

theorem findParent_refungible
    (hfound : CollectionDispatch.dispatch s token.1 = some (.refungible handle)) :
    findParent s token =
      match Refungible.tokenOwner s token with
      | .ok owner => parentOf owner
      | .error .multipleOwners => .multipleOwners
      | .error .notFound => .tokenNotFound := by
  have hid := (CollectionDispatch.dispatch_eq_refungible.mp hfound).2.1
  have htoken : (handle.id, token.2) = token := Prod.ext hid rfl
  unfold findParent
  rw [hfound]
  show (match Refungible.tokenOwner s (handle.id, token.2) with
    | .ok owner => _
    | .error .multipleOwners => _
    | .error .notFound => _) = _
  rw [htoken]
  rfl

/-- A token at the beginning of a path exists. -/
theorem OwnerPath.findParent_ne_tokenNotFound {ancestors : List Token}
    (hpath : OwnerPath s token ancestors user) : findParent s token ≠ .tokenNotFound := by
  cases hpath with
  | user hparent => simp [hparent]
  | token hparent _ => simp [hparent]

/-! ## The search for the topmost owner -/

theorem getCheckedTopmostOwnerLoop_le (forNest : Option Token) (budget : ℕ)
    (chain : ParentChain) : (getCheckedTopmostOwnerLoop s forNest budget chain).2 ≤ budget := by
  induction budget generalizing chain with
  | zero => exact Nat.le_refl _
  | succ budget ih =>
    unfold getCheckedTopmostOwnerLoop
    split
    · exact Nat.le_refl _
    · exact Nat.le_succ _
    · split
      · exact Nat.le_succ _
      · exact (ih _).trans (Nat.le_succ _)
    all_goals exact Nat.le_succ _

theorem findTopmostOwnerLoop_le (budget : ℕ) (chain : ParentChain) :
    (findTopmostOwnerLoop s budget chain).2 ≤ budget := by
  induction budget generalizing chain with
  | zero => exact Nat.le_refl _
  | succ budget ih =>
    unfold findTopmostOwnerLoop
    split
    · exact Nat.le_refl _
    · exact (ih _).trans (Nat.le_succ _)
    · exact Nat.le_succ _
    · exact (ih _).trans (Nat.le_succ _)

theorem parentChain_finished (token : Token) : (parentChain token).finished = false := rfl

/-- The next item of an unfinished chain, by the parent of its current token. -/
theorem ParentChain.next_eq (hopen : chain.finished = false) :
    chain.next s =
      match findParent s chain.current with
      | .token parent =>
        if parent ∈ chain.visited then
          some (.error .ouroborosDetected, { chain with current := parent, finished := true })
        else
          some (.ok (.token parent),
            { chain with current := parent, visited := parent :: chain.visited })
      | parent => some (.ok parent, { chain with finished := true }) := by
  unfold ParentChain.next
  rw [hopen]
  cases findParent s chain.current <;> rfl

/-- A checked walk that ends at an account has followed the path to it, and has
not met the token to be nested. -/
theorem ownerPath_of_getCheckedTopmostOwnerLoop {forNest : Option Token} {budget left : ℕ}
    (hopen : chain.finished = false)
    (hloop : getCheckedTopmostOwnerLoop s forNest budget chain = (.ok (some user), left)) :
    ∃ ancestors, OwnerPath s chain.current ancestors user ∧
      (∀ nested, forNest = some nested → nested ∉ ancestors) ∧
      left + ancestors.length + 1 = budget := by
  induction budget generalizing chain with
  | zero => simp [getCheckedTopmostOwnerLoop] at hloop
  | succ budget ih =>
    unfold getCheckedTopmostOwnerLoop at hloop
    rw [ParentChain.next_eq hopen] at hloop
    cases hparent : findParent s chain.current with
    | user account =>
      simp only [hparent, Prod.mk.injEq, Except.ok.injEq, Option.some.injEq] at hloop
      obtain ⟨rfl, rfl⟩ := hloop
      exact ⟨[], .user hparent, by simp, by simp⟩
    | tokenNotFound => simp [hparent] at hloop
    | multipleOwners => simp [hparent] at hloop
    | token parent =>
      simp only [hparent] at hloop
      by_cases hvisited : parent ∈ chain.visited
      · simp [hvisited] at hloop
      · simp only [hvisited, if_false] at hloop
        by_cases hnest : some parent = forNest
        · simp [hnest] at hloop
        · simp only [hnest, if_false] at hloop
          obtain ⟨ancestors, hpath, havoid, hleft⟩ := @ih ⟨parent, _, _⟩ hopen hloop
          refine ⟨parent :: ancestors, .token hparent hpath, ?_, ?_⟩
          · intro nested hnested hmem
            rcases List.mem_cons.mp hmem with rfl | hrest
            · exact hnest hnested.symm
            · exact havoid nested hnested hrest
          · simp only [List.length_cons]
            omega

/-- The unchecked search that ends at an account has followed the path to it. -/
theorem ownerPath_of_findTopmostOwnerLoop {budget left : ℕ} (hopen : chain.finished = false)
    (hloop : findTopmostOwnerLoop s budget chain = (some (.user user), left)) :
    ∃ ancestors, OwnerPath s chain.current ancestors user ∧
      left + ancestors.length + 1 = budget := by
  induction budget generalizing chain with
  | zero => simp [findTopmostOwnerLoop] at hloop
  | succ budget ih =>
    unfold findTopmostOwnerLoop at hloop
    rw [ParentChain.next_eq hopen] at hloop
    cases hparent : findParent s chain.current with
    | user account =>
      simp only [hparent, Prod.mk.injEq, Option.some.injEq, Parent.user.injEq] at hloop
      obtain ⟨rfl, rfl⟩ := hloop
      exact ⟨[], .user hparent, by simp⟩
    | tokenNotFound => simp [hparent] at hloop
    | multipleOwners => simp [hparent] at hloop
    | token parent =>
      simp only [hparent] at hloop
      by_cases hvisited : parent ∈ chain.visited
      · -- The chain is finished after the error, so nothing more is found.
        simp only [hvisited, if_true] at hloop
        cases budget with
        | zero => simp [findTopmostOwnerLoop] at hloop
        | succ budget => simp [findTopmostOwnerLoop, ParentChain.next] at hloop
      · simp only [hvisited, if_false] at hloop
        obtain ⟨ancestors, hpath, hleft⟩ := @ih ⟨parent, _, _⟩ hopen hloop
        refine ⟨parent :: ancestors, .token hparent hpath, ?_⟩
        simp only [List.length_cons]
        omega

end UniqueChain
