import UniqueChain.Library.Simulation
import UniqueChain.Nesting.Storage

/-!
# Walks from related states

A walk up the nesting tree looks at the owners of tokens and consumes budget.  It
does not notice a change of anything else.  It goes the same way with more budget,
except that it may have run out of the smaller one; and it goes the same way if
tokens are added, except that it may have looked for one of them.

`WalkNeutral` is what a relation between states has to guarantee for that.  The
checks that consist of walks then have the same outcome from related states.
-/

namespace UniqueChain

open Execution CollectionDispatch

variable {T : Config} {s t : State T}

variable {forNest : Option Token} {user : T.CrossAccountId} {token : Token}

/-! ## The two searches -/

/-- What `find_topmost_owner` makes of the parent its search ended with. -/
def topmostAnswer : Option (Parent T) → Exec T (Option T.CrossAccountId)
  | none => fail StructureError.depthLimit
  | some (.user account) => pure (some account)
  | some .multipleOwners => pure none
  | some _ => fail StructureError.tokenNotFound

theorem findTopmostOwner_run :
    (findTopmostOwner token).run s =
      (topmostAnswer (findTopmostOwnerLoop s s.budget (parentChain token)).1).run
        (s.setBudget (findTopmostOwnerLoop s s.budget (parentChain token)).2) := rfl

/-- The result of the walk of `get_checked_topmost_owner`, with its error raised. -/
def checkedAnswer : Except StructureError (Option T.CrossAccountId) →
    Exec T (Option T.CrossAccountId)
  | .ok owner => pure owner
  | .error error => fail error

theorem getCheckedTopmostOwner_run (hself : some token ≠ forNest) :
    (getCheckedTopmostOwner token forNest).run s =
      (checkedAnswer (getCheckedTopmostOwnerLoop s forNest s.budget (parentChain token)).1).run
        (s.setBudget (getCheckedTopmostOwnerLoop s forNest s.budget (parentChain token)).2) := by
  unfold getCheckedTopmostOwner ensure
  rw [if_pos hself]
  rfl

/-- Related states show a walk the same parents, except of tokens that are not
found, and the second has at least the budget of the first.  What is exempt says
which of the two differences there may be. -/
structure WalkNeutral (R : State T → State T → Prop) (Exempt : Failure → Prop) : Prop where
  common : ∀ s t, R s t → t.common = s.common
  next : ∀ s t, R s t → ∀ chain : ParentChain, chain.next t = chain.next s ∨
    Exempt StructureError.tokenNotFound ∧
      ∃ rest, chain.next s = some (.ok .tokenNotFound, rest)
  budget : ∀ s t, R s t → ∃ more, t.budget = s.budget + more ∧
    (more = 0 ∨ Exempt StructureError.depthLimit) ∧
    ∀ left, R (s.setBudget left) (t.setBudget (left + more))

namespace WalkNeutral

variable {R : State T → State T → Prop} {Exempt : Failure → Prop} (hR : WalkNeutral R Exempt)

include hR

theorem findTopmostOwnerLoop_eq (hst : R s t) {more budget : ℕ} {chain : ParentChain}
    (hmore : more = 0 ∨ Exempt StructureError.depthLimit) :
    (∃ error : Failure, Exempt error ∧
        topmostAnswer (T := T) (findTopmostOwnerLoop s budget chain).1 = fail error) ∨
      findTopmostOwnerLoop t (budget + more) chain =
        ((findTopmostOwnerLoop s budget chain).1,
          (findTopmostOwnerLoop s budget chain).2 + more) := by
  induction budget generalizing chain with
  | zero =>
    rcases hmore with rfl | hlimit
    · exact .inr rfl
    · exact .inl ⟨_, hlimit, rfl⟩
  | succ budget ih =>
    rw [Nat.succ_add]
    unfold findTopmostOwnerLoop
    rcases hR.next s t hst chain with hnext | ⟨hexempt, rest, hnext⟩
    · rw [hnext]
      cases chain.next s with
      | none =>
        rcases hmore with rfl | hlimit
        · exact .inr rfl
        · exact .inl ⟨_, hlimit, rfl⟩
      | some item =>
        obtain ⟨item, rest⟩ := item
        cases item with
        | error error => exact ih
        | ok parent =>
          cases parent with
          | token parent => exact ih
          | _ => exact .inr rfl
    · rw [hnext]
      exact .inl ⟨_, hexempt, rfl⟩

theorem getCheckedTopmostOwnerLoop_eq (hst : R s t) {more budget : ℕ}
    {chain : ParentChain} (hmore : more = 0 ∨ Exempt StructureError.depthLimit) :
    (∃ error : StructureError, Exempt error ∧
        (getCheckedTopmostOwnerLoop s forNest budget chain).1 = .error error) ∨
      getCheckedTopmostOwnerLoop t forNest (budget + more) chain =
        ((getCheckedTopmostOwnerLoop s forNest budget chain).1,
          (getCheckedTopmostOwnerLoop s forNest budget chain).2 + more) := by
  induction budget generalizing chain with
  | zero =>
    rcases hmore with rfl | hlimit
    · exact .inr rfl
    · exact .inl ⟨.depthLimit, hlimit, rfl⟩
  | succ budget ih =>
    rw [Nat.succ_add]
    unfold getCheckedTopmostOwnerLoop
    rcases hR.next s t hst chain with hnext | ⟨hexempt, rest, hnext⟩
    · rw [hnext]
      cases chain.next s with
      | none =>
        rcases hmore with rfl | hlimit
        · exact .inr rfl
        · exact .inl ⟨.depthLimit, hlimit, rfl⟩
      | some item =>
        obtain ⟨item, rest⟩ := item
        cases item with
        | error error => exact .inr rfl
        | ok parent =>
          cases parent with
          | token parent =>
            simp only
            split
            · exact .inr rfl
            · exact ih
          | _ => exact .inr rfl
    · rw [hnext]
      exact .inl ⟨.tokenNotFound, hexempt, rfl⟩

/-! ## Checks that consist of walks -/

theorem simulates_findTopmostOwner : Simulates R Exempt (findTopmostOwner token : Exec T _) := by
  intro s t hst
  obtain ⟨more, hbudget, hmore, hspent⟩ := hR.budget s t hst
  rw [findTopmostOwner_run, findTopmostOwner_run, hbudget]
  rcases hR.findTopmostOwnerLoop_eq hst hmore with ⟨error, hexempt, hanswer⟩ | hloop
  · rw [hanswer]
    exact .inl hexempt
  · rw [hloop]
    have hanswer : ∀ found : Option (Parent T), Simulates R Exempt (topmostAnswer found) := by
      intro found
      unfold topmostAnswer
      split
      all_goals first | exact .fail | exact .pure
    exact hanswer _ _ _ (hspent _)

theorem simulates_getCheckedTopmostOwner :
    Simulates R Exempt (getCheckedTopmostOwner token forNest : Exec T _) := by
  by_cases hself : some token ≠ forNest
  · intro s t hst
    obtain ⟨more, hbudget, hmore, hspent⟩ := hR.budget s t hst
    rw [getCheckedTopmostOwner_run hself, getCheckedTopmostOwner_run hself, hbudget]
    rcases hR.getCheckedTopmostOwnerLoop_eq hst hmore with ⟨error, hexempt, hresult⟩ | hloop
    · rw [hresult]
      exact .inl hexempt
    · rw [hloop]
      have hanswer : ∀ result : Except StructureError (Option T.CrossAccountId),
          Simulates R Exempt (checkedAnswer result) := by
        intro result
        cases result with
        | ok owner => exact .pure
        | error error => exact .fail
      exact hanswer _ _ _ (hspent _)
  · unfold getCheckedTopmostOwner ensure
    rw [if_neg hself]
    exact .read_bind (fun _ _ _ => rfl) fun _ _ t hst => .inr ⟨t, rfl, hst⟩

/-- The checks have the same outcome from related states. -/
theorem checks {ν : Type} {view : State T → ν} (hview : ∀ s t, R s t → view t = view s)
    (hcommon : ∀ s t : State T, view t = view s → t.common = s.common) :
    CheckAnalysis view (fun _ body => Simulates R Exempt body) fun _ => True where
  toCompositional := compositional_simulates
  dispatch _ _ := trivial
  common := hcommon
  read_bind hsame := .read_bind fun s t hst => hsame s t (hview s t hst)
  findTopmostOwner _ := hR.simulates_findTopmostOwner
  getCheckedTopmostOwner _ _ := hR.simulates_getCheckedTopmostOwner

end WalkNeutral

/-! ## Events and logs -/

/-- Events and logs are not noticed at all. -/
theorem walkNeutral_withRecords (events : List (Event T)) (logs : List Log) :
    WalkNeutral (fun s t : State T => t = s.withRecords events logs) fun _ => False where
  common := by
    rintro s _ rfl
    rfl
  next := by
    rintro s _ rfl chain
    exact .inl rfl
  budget := by
    rintro s _ rfl
    exact ⟨0, rfl, .inl rfl, fun _ => rfl⟩

theorem commutes_checkIndirectlyOwned (events : List (Event T)) (logs : List Log) :
    Commutes (State.withRecords events logs) (checkIndirectlyOwned user token forNest) :=
  ((walkNeutral_withRecords events logs).checks (walkNeutral_withRecords events logs).common
    fun _ _ hcommon => hcommon).checkIndirectlyOwned

/-! ## New tokens -/

/-- The parent of a token is read from its owner or its holders. -/
theorem findParent_congr (hcommon : t.common = s.common)
    (howner : t.nonfungible.tokenData.get token = s.nonfungible.tokenData.get token)
    (hholders : ∀ account,
      t.refungible.balance.get (token, account) = s.refungible.balance.get (token, account)) :
    findParent t token = findParent s token := by
  have hdispatch : dispatch t token.1 = dispatch s token.1 := dispatch_congr hcommon
  cases hkind : dispatch s token.1 with
  | none => simp only [findParent, hdispatch, hkind]
  | some kind =>
    rw [hkind] at hdispatch
    cases kind with
    | nonfungible handle =>
      rw [findParent_nonfungible hdispatch, findParent_nonfungible hkind, howner]
    | refungible handle =>
      have hsame : Refungible.tokenOwner t token = Refungible.tokenOwner s token := by
        have hagree : ∀ key : Token × T.CrossAccountId, key.1 = token →
            t.refungible.balance.get key = s.refungible.balance.get key := by
          rintro ⟨_, account⟩ rfl
          exact hholders account
        unfold Refungible.tokenOwner
        rw [FiniteMap.soleKey_congr hagree, FiniteMap.anyKey_congr hagree]
      rw [findParent_refungible hdispatch, findParent_refungible hkind, hsame]
    | fungible handle => simp only [findParent, hdispatch, hkind, CollectionDispatch.tokenOwner]
    | nativeFungible => simp only [findParent, hdispatch, hkind, CollectionDispatch.tokenOwner]

/-- The tokens of the first state have the same parents in the second, which may
have more tokens and more budget. -/
structure ParentsKept (s t : State T) : Prop where
  common : t.common = s.common
  parents : ∀ token, findParent s token ≠ .tokenNotFound → findParent t token = findParent s token
  budget : s.budget ≤ t.budget

/-- A walk that succeeds does so with more tokens and more budget as well. -/
theorem walkNeutral_parentsKept :
    WalkNeutral (ParentsKept : State T → State T → Prop) fun _ => True where
  common := fun _ _ hkept => hkept.common
  next := by
    intro s t hkept chain
    cases hfinished : chain.finished with
    | true => simp [ParentChain.next, hfinished]
    | false =>
      rw [ParentChain.next_eq hfinished, ParentChain.next_eq hfinished]
      by_cases hparent : findParent s chain.current = .tokenNotFound
      · exact .inr ⟨trivial, _, by rw [hparent]⟩
      · rw [hkept.parents _ hparent]
        exact .inl rfl
  budget := by
    intro s t hkept
    refine ⟨t.budget - s.budget, (Nat.add_sub_of_le hkept.budget).symm, .inr trivial, ?_⟩
    exact fun left => ⟨hkept.common, hkept.parents, Nat.le_add_right _ _⟩

end UniqueChain
