import UniqueChain.Library.Analysis

/-!
# Two runs of one program

A program is run from two states, and the runs are compared.  `Simulates R` says
that from states related by `R` both runs end in the same way and in related
states again.  Some errors may be exempt: a first run that ends with one of them
is not compared.

If the second state is a function of the first, a change `f` that the program
neither looks at nor overwrites can be made before it or after it (`Tracks`).
-/

namespace Execution

variable {ε σ α β : Type} {s s' t t' : σ} {a : α} {error : ε}

/-- From related states the runs have the same outcome, and end in related states. -/
def Simulates (R : σ → σ → Prop) (Exempt : ε → Prop) (body : Execution ε σ α) : Prop :=
  ∀ s t, R s t →
    match body.run s with
    | .ok value s' => ∃ t', body.run t = .ok value t' ∧ R s' t'
    | .error error s' => Exempt error ∨ ∃ t', body.run t = .error error t' ∧ R s' t'

namespace Simulates

variable {R : σ → σ → Prop} {Exempt : ε → Prop} {body first : Execution ε σ α}
  {next : α → Execution ε σ β}

theorem of_ok (hbody : Simulates R Exempt body) (hR : R s t) (hrun : body.run s = .ok a s') :
    ∃ t', body.run t = .ok a t' ∧ R s' t' := by
  have hsimulated := hbody s t hR
  rwa [hrun] at hsimulated

theorem of_error (hbody : Simulates R Exempt body) (hR : R s t)
    (hrun : body.run s = .error error s') :
    Exempt error ∨ ∃ t', body.run t = .error error t' ∧ R s' t' := by
  have hsimulated := hbody s t hR
  rwa [hrun] at hsimulated

theorem of_run
    (hok : ∀ s t a s', R s t → body.run s = .ok a s' → ∃ t', body.run t = .ok a t' ∧ R s' t')
    (herror : ∀ s t error s', R s t → body.run s = .error error s' →
      Exempt error ∨ ∃ t', body.run t = .error error t' ∧ R s' t') : Simulates R Exempt body := by
  intro s t hR
  cases hrun : body.run s with
  | ok a s' => exact hok s t a s' hR hrun
  | error error s' => exact herror s t error s' hR hrun

theorem pure : Simulates R Exempt (Pure.pure a : Execution ε σ α) :=
  fun _ t hR => ⟨t, rfl, hR⟩

theorem fail : Simulates R Exempt (Execution.fail error : Execution ε σ α) :=
  fun _ t hR => .inr ⟨t, rfl, hR⟩

theorem update {g : σ → σ} (hg : ∀ s t, R s t → R (g s) (g t)) :
    Simulates R Exempt (Execution.update g : Execution ε σ Unit) :=
  fun s t hR => ⟨g t, rfl, hg s t hR⟩

theorem bind_returned (hfirst : Simulates R Exempt first)
    (hnext : ∀ value, Returned first value → Simulates R Exempt (next value)) :
    Simulates R Exempt (first >>= next) := by
  refine of_run (fun s t b s' hR hrun => ?_) fun s t error s' hR hrun => ?_
  · obtain ⟨a, middle, hvalue, hresult⟩ := bind_ok.mp hrun
    obtain ⟨middle', hvalue', hmiddle⟩ := hfirst.of_ok hR hvalue
    obtain ⟨t', hresult', hR'⟩ := (hnext a ⟨s, middle, hvalue⟩).of_ok hmiddle hresult
    exact ⟨t', bind_ok.mpr ⟨a, middle', hvalue', hresult'⟩, hR'⟩
  · rcases bind_error.mp hrun with hfailed | ⟨a, middle, hvalue, hfailed⟩
    · refine (hfirst.of_error hR hfailed).imp_right ?_
      rintro ⟨t', hfailed', hR'⟩
      exact ⟨t', bind_error.mpr (.inl hfailed'), hR'⟩
    · obtain ⟨middle', hvalue', hmiddle⟩ := hfirst.of_ok hR hvalue
      refine ((hnext a ⟨s, middle, hvalue⟩).of_error hmiddle hfailed).imp_right ?_
      rintro ⟨t', hfailed', hR'⟩
      exact ⟨t', bind_error.mpr (.inr ⟨a, middle', hvalue', hfailed'⟩), hR'⟩

theorem bind (hfirst : Simulates R Exempt first)
    (hnext : ∀ value, Simulates R Exempt (next value)) : Simulates R Exempt (first >>= next) :=
  hfirst.bind_returned fun value _ => hnext value

/-- Reading the state is harmless if what follows depends on it only through what
related states have in common. -/
theorem read_bind {next : σ → Execution ε σ β} (hsame : ∀ s t, R s t → next t = next s)
    (hnext : ∀ s, Simulates R Exempt (next s)) : Simulates R Exempt (Execution.read >>= next) := by
  refine of_run (fun s t b s' hR hrun => ?_) fun s t error s' hR hrun => ?_
  · simp only [read_bind_ok] at hrun ⊢
    rw [hsame s t hR]
    exact (hnext s).of_ok hR hrun
  · simp only [read_bind_error] at hrun ⊢
    rw [hsame s t hR]
    exact (hnext s).of_error hR hrun

theorem ite {p : Prop} [Decidable p] {second : Execution ε σ α} (hfirst : Simulates R Exempt first)
    (hsecond : Simulates R Exempt second) : Simulates R Exempt (if p then first else second) := by
  split
  · exact hfirst
  · exact hsecond

theorem ensure {p : Prop} [Decidable p] :
    Simulates R Exempt (Execution.ensure p error : Execution ε σ Unit) := ite pure fail

theorem okOr {value : Option α} :
    Simulates R Exempt (Execution.okOr value error : Execution ε σ α) := by
  cases value with
  | none => exact fail
  | some value => exact pure

theorem forEach {body : α → Execution ε σ Unit}
    (hbody : ∀ element, Simulates R Exempt (body element)) (elements : List α) :
    Simulates R Exempt (Execution.forEach body elements) := by
  induction elements with
  | nil => exact pure
  | cons element rest ih => exact bind (hbody element) fun _ => ih

end Simulates

theorem compositional_simulates {R : σ → σ → Prop} {Exempt : ε → Prop} :
    Compositional (fun _ body => Simulates R Exempt body) fun _ => True where
  pure _ := .pure
  fail _ := .fail
  bind hfirst hnext := hfirst.bind_returned hnext

/-- Changing the state by `f` first only changes the state at the end by `f`. -/
abbrev Tracks (f : σ → σ) (Exempt : ε → Prop) (body : Execution ε σ α) : Prop :=
  Simulates (fun s t => t = f s) Exempt body

namespace Tracks

variable {f : σ → σ} {Exempt : ε → Prop} {body : Execution ε σ α}

theorem run_ok (hbody : Tracks f Exempt body) (hrun : body.run s = .ok a s') :
    body.run (f s) = .ok a (f s') := by
  obtain ⟨_, hrun', rfl⟩ := hbody.of_ok rfl hrun
  exact hrun'

theorem run_error (hbody : Tracks f Exempt body) (hrun : body.run s = .error error s') :
    Exempt error ∨ body.run (f s) = .error error (f s') := by
  refine (hbody.of_error rfl hrun).imp_right ?_
  rintro ⟨_, hrun', rfl⟩
  exact hrun'

theorem update {g : σ → σ} (hcomm : ∀ s, g (f s) = f (g s)) :
    Tracks f Exempt (Execution.update g : Execution ε σ Unit) := by
  refine Simulates.update ?_
  rintro s _ rfl
  exact hcomm s

theorem read_bind {next : σ → Execution ε σ β} (hsame : ∀ s, next (f s) = next s)
    (hnext : ∀ s, Tracks f Exempt (next s)) : Tracks f Exempt (Execution.read >>= next) := by
  refine Simulates.read_bind ?_ hnext
  rintro s _ rfl
  exact hsame s

theorem transactional {restore : σ → σ → σ} (hbody : Tracks f Exempt body)
    (hrestore : ∀ before reached, restore (f before) (f reached) = f (restore before reached)) :
    Tracks f Exempt (Execution.transactional restore body) := by
  rintro s _ rfl
  simp only [Execution.transactional]
  cases hrun : body.run s with
  | ok value reached => simp [hbody.run_ok hrun]
  | error error reached =>
    refine (hbody.run_error hrun).imp_right fun hrun' => ?_
    simp [hrun', hrestore]

end Tracks

/-- Changing the state by `f` first only changes the state at the end by `f`,
however the run ends. -/
abbrev Commutes (f : σ → σ) (body : Execution ε σ α) : Prop := Tracks f (fun _ => False) body

theorem Commutes.run_eq {f : σ → σ} {body : Execution ε σ α} (hbody : Commutes f body) (s : σ) :
    body.run (f s) =
      match body.run s with
      | .ok value reached => .ok value (f reached)
      | .error error reached => .error error (f reached) := by
  cases hrun : body.run s with
  | ok value reached => exact Tracks.run_ok hbody hrun
  | error error reached => exact (Tracks.run_error hbody hrun).resolve_left id

end Execution
