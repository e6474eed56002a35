import UniqueChain.Library.Execution

/-!
# Properties of executions that compose

Many analyses of a program follow its text: a sequence has the property if its
parts have it, where the second part is looked at only for values that the first
can return.  Such a property is `Compositional`, and a program that is built from
checks, branches and sequences is then analysed once for all of them.

`Yields A Q body` carries along what is known of the returned value.
-/

namespace Execution

variable {ε σ α β : Type} {s s' : σ} {error : ε} {next : α → Execution ε σ β}

/-- A sequence has the property `A` if its parts have it.  A failure has it if its
error is within `E`. -/
structure Compositional (A : (α : Type) → Execution ε σ α → Prop) (E : ε → Prop) : Prop where
  pure : ∀ {α : Type} (value : α), A α (Pure.pure value)
  fail : ∀ {α : Type} {error : ε}, E error → A α (Execution.fail error)
  bind : ∀ {α β : Type} {first : Execution ε σ α} {next : α → Execution ε σ β},
    A α first → (∀ value, Returned first value → A β (next value)) → A β (first >>= next)

/-- The execution has the property, and what it returns is within `Q`. -/
structure Yields (A : (α : Type) → Execution ε σ α → Prop) (Q : α → Prop)
    (body : Execution ε σ α) : Prop where
  holds : A α body
  returns : ∀ value, Returned body value → Q value

namespace Compositional

variable {A : (α : Type) → Execution ε σ α → Prop} {E : ε → Prop} {Q : α → Prop} {R : β → Prop}
  {body first second : Execution ε σ α}

theorem yields_pure (hA : Compositional A E) {value : α} (hvalue : Q value) :
    Yields A Q (Pure.pure value) where
  holds := hA.pure value
  returns := by
    rintro other ⟨s, s', hrun⟩
    exact (pure_ok.mp hrun).1 ▸ hvalue

theorem yields_bind (hA : Compositional A E)
    (hfirst : Yields A Q first) (hnext : ∀ value, Q value → Yields A R (next value)) :
    Yields A R (first >>= next) where
  holds := hA.bind hfirst.holds fun value hvalue =>
    (hnext value (hfirst.returns value hvalue)).holds
  returns := by
    rintro result ⟨s, s', hrun⟩
    obtain ⟨value, middle, hvalue, hresult⟩ := bind_ok.mp hrun
    exact (hnext value (hfirst.returns value ⟨s, middle, hvalue⟩)).returns result
      ⟨middle, s', hresult⟩

theorem yields_ite {p : Prop} [Decidable p] (hfirst : p → Yields A Q first)
    (hsecond : ¬ p → Yields A Q second) : Yields A Q (if p then first else second) := by
  split
  · exact hfirst (by assumption)
  · exact hsecond (by assumption)

theorem ensure (hA : Compositional A E) {p : Prop} [Decidable p] (herror : E error) :
    A Unit (Execution.ensure p error) := by
  unfold Execution.ensure
  split
  · exact hA.pure ()
  · exact hA.fail herror

theorem ite {p : Prop} [Decidable p] (hfirst : A α first) (hsecond : A α second) :
    A α (if p then first else second) := by
  split
  · exact hfirst
  · exact hsecond

theorem okOr (hA : Compositional A E) {value : Option α} (herror : E error) :
    A α (Execution.okOr value error) := by
  cases value with
  | none => exact hA.fail herror
  | some value => exact hA.pure value

theorem forEach (hA : Compositional A E) {body : α → Execution ε σ Unit} {elements : List α}
    (hbody : ∀ element ∈ elements, A Unit (body element)) :
    A Unit (Execution.forEach body elements) := by
  induction elements with
  | nil => exact hA.pure ()
  | cons element rest ih =>
    rw [List.forall_mem_cons] at hbody
    exact hA.bind hbody.1 fun _ _ => ih hbody.2

end Compositional

theorem Yields.of_holds {A : (α : Type) → Execution ε σ α → Prop} {body : Execution ε σ α}
    (hbody : A α body) : Yields A (fun _ => True) body := ⟨hbody, fun _ _ => trivial⟩

/-! ## Instances -/

/-- Keeping a view of the state is compositional. -/
theorem compositional_preserves {ν : Type} {view : σ → ν} :
    Compositional (fun _ body => @Preserves ε σ _ _ view body) fun _ => True where
  pure _ := .pure
  fail _ := .fail
  bind hfirst hnext := hfirst.bind_returned hnext

/-- So is failing with certain errors only. -/
theorem compositional_failsWithin {P : ε → Prop} :
    Compositional (fun _ body => @FailsWithin ε σ _ P body) P where
  pure _ := .pure
  fail herror := .fail herror
  bind hfirst hnext := hfirst.bind_returned hnext

/-- From a state within `I` the execution ends in such a state, or with an error
within `P`. -/
def Keeps (I : σ → Prop) (P : ε → Prop) (body : Execution ε σ α) : Prop :=
  ∀ s, I s →
    match body.run s with
    | .ok _ reached => I reached
    | .error error _ => P error

namespace Keeps

variable {I : σ → Prop} {P : ε → Prop} {body : Execution ε σ α} {a : α}

theorem of_ok (hbody : Keeps I P body) (hs : I s) (hrun : body.run s = .ok a s') : I s' := by
  have hkept := hbody s hs
  rwa [hrun] at hkept

theorem of_error (hbody : Keeps I P body) (hs : I s) (hrun : body.run s = .error error s') :
    P error := by
  have hkept := hbody s hs
  rwa [hrun] at hkept

theorem of_run (hok : ∀ s a s', I s → body.run s = .ok a s' → I s')
    (herror : ∀ s error s', I s → body.run s = .error error s' → P error) : Keeps I P body := by
  intro s hs
  cases hrun : body.run s with
  | ok a s' => exact hok s a s' hs hrun
  | error error s' => exact herror s error s' hs hrun

theorem update {f : σ → σ} (hupdate : ∀ s, I s → I (f s)) :
    Keeps I P (Execution.update f : Execution ε σ Unit) := hupdate

/-- What an execution does not show, and the errors it can end with. -/
theorem of_preserves {ν : Type} {view : σ → ν} {start : ν} (hview : Preserves view body)
    (hfails : FailsWithin P body) : Keeps (fun s => view s = start) P body :=
  of_run (fun _ _ _ hs hrun => (hview.of_ok hrun).trans hs) fun s _ _ _ hrun => hfails s _ _ hrun

theorem transactional {restore : σ → σ → σ} (hbody : Keeps I P body) :
    Keeps I P (Execution.transactional restore body) := by
  refine of_run (fun s a s' hs hrun => hbody.of_ok hs (transactional_ok.mp hrun)) ?_
  intro s error s' hs hrun
  simp only [Execution.transactional] at hrun
  split at hrun
  · cases hrun
  · rename_i failure reached hfailed
    cases hrun
    exact hbody.of_error hs hfailed

theorem unchangedOnError {ν : Type} {view : σ → ν} (hbody : Keeps I (fun _ => False) body)
    (hs : I s) : UnchangedOnError view body s :=
  fun _ _ hrun => (hbody.of_error hs hrun).elim

/-- The second part may rely on the first having succeeded from a state within
`I`. -/
theorem bind_of_ok (hbody : Keeps I P body)
    (hnext : ∀ s a s', I s → body.run s = .ok a s' → Keeps I P (next a)) :
    Keeps I P (body >>= next) := by
  refine .of_run (fun s b s' hs hrun => ?_) fun s error s' hs hrun => ?_
  · obtain ⟨a, middle, hfirst, hsecond⟩ := bind_ok.mp hrun
    exact (hnext s a middle hs hfirst).of_ok (hbody.of_ok hs hfirst) hsecond
  · rcases bind_error.mp hrun with hfailed | ⟨a, middle, hfirst, hfailed⟩
    · exact hbody.of_error hs hfailed
    · exact (hnext s a middle hs hfirst).of_error (hbody.of_ok hs hfirst) hfailed

end Keeps

theorem compositional_keeps {I : σ → Prop} {P : ε → Prop} :
    Compositional (fun _ body => Keeps (ε := ε) I P body) P where
  pure _ := fun _ hs => hs
  fail herror := fun _ _ => herror
  bind hfirst hnext := hfirst.bind_of_ok fun s value s' _ hvalue => hnext value ⟨s, s', hvalue⟩

end Execution
