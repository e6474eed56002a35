import Mathlib.Tactic.Common

/-!
# Executions that read and write a state and may fail

Code that reads and writes a state and may stop with an error is an
`Execution`.  A failing execution keeps the state it had reached, as code
without an enclosing transaction does; `transactional` is the enclosing
transaction.

The lemmas named `_ok` read a successful execution backwards.  They are simp
lemmas: a hypothesis that a `do` block ended well unfolds to the checks it
passed and the state it left, and no later proof looks inside the monad.
-/

/-- How an execution ends. -/
inductive Outcome (ε σ α : Type) where
  | ok (value : α) (state : σ)
  | error (error : ε) (state : σ)
  deriving DecidableEq

/-- The state in which an execution ends. -/
def Outcome.state {ε σ α : Type} : Outcome ε σ α → σ
  | .ok _ state => state
  | .error _ state => state

/-- A computation on a state that can fail. -/
structure Execution (ε σ α : Type) where
  run : σ → Outcome ε σ α

namespace Execution

variable {ε σ α β : Type}

variable {body : Execution ε σ α} {first : Execution ε σ α} {second : Execution ε σ α} {p : Prop}
  {next : α → Execution ε σ β} {value : Option α}

instance : Monad (Execution ε σ) where
  pure value := ⟨fun state => .ok value state⟩
  bind first next := ⟨fun state =>
    match first.run state with
    | .ok value middle => (next value).run middle
    | .error error middle => .error error middle⟩

/-- Stop with an error. -/
def fail (error : ε) : Execution ε σ α := ⟨fun state => .error error state⟩

/-- The current state. -/
def read : Execution ε σ σ := ⟨fun state => .ok state state⟩

/-- Change the current state. -/
def update (f : σ → σ) : Execution ε σ Unit := ⟨fun state => .ok () (f state)⟩

/-- A check: fail with `error` unless `p` holds. -/
def ensure (p : Prop) [Decidable p] (error : ε) : Execution ε σ Unit :=
  if p then pure () else fail error

/-- The value of an option, or a failure. -/
def okOr (value : Option α) (error : ε) : Execution ε σ α :=
  match value with
  | some value => pure value
  | none => fail error

/-- Run `body`; if it fails, replace the state it reached by `restore before reached`. -/
def transactional (restore : σ → σ → σ) (body : Execution ε σ α) : Execution ε σ α :=
  ⟨fun state =>
    match body.run state with
    | .ok value reached => .ok value reached
    | .error error reached => .error error (restore state reached)⟩

/-- Run `body` and go on whether it fails or not. -/
def ignoreError (body : Execution ε σ Unit) : Execution ε σ Unit :=
  ⟨fun state =>
    match body.run state with
    | .ok _ reached => .ok () reached
    | .error _ reached => .ok () reached⟩

/-- Run `body`, and put its error into those of the caller. -/
def mapError {ε' : Type} (f : ε → ε') (body : Execution ε σ α) : Execution ε' σ α :=
  ⟨fun state =>
    match body.run state with
    | .ok value reached => .ok value reached
    | .error error reached => .error (f error) reached⟩

/-- Run `body` and go on with its result, be it a value or an error. -/
def attempt (body : Execution ε σ α) : Execution ε σ (Except ε α) :=
  ⟨fun state =>
    match body.run state with
    | .ok value reached => .ok (.ok value) reached
    | .error error reached => .ok (.error error) reached⟩

/-- Run `body` on every element of a list, from the left. -/
def forEach (body : α → Execution ε σ Unit) : List α → Execution ε σ Unit
  | [] => pure ()
  | element :: rest => do
    body element
    forEach body rest

/-! ## Laws of sequences -/

@[ext] theorem ext {first second : Execution ε σ α} (hrun : ∀ s, first.run s = second.run s) :
    first = second := by
  obtain ⟨run⟩ := first
  obtain ⟨other⟩ := second
  exact congrArg Execution.mk (funext hrun)

theorem pure_bind (a : α) (next : α → Execution ε σ β) : (pure a >>= next) = next a := rfl

theorem bind_pure (body : Execution ε σ α) : (body >>= pure) = body := by
  ext s
  change (match body.run s with
    | .ok value middle => .ok value middle
    | .error error middle => .error error middle) = body.run s
  cases body.run s <;> rfl

theorem bind_assoc {γ : Type} (body : Execution ε σ α) (next : α → Execution ε σ β)
    (last : β → Execution ε σ γ) :
    (body >>= next >>= last) = body >>= fun value => next value >>= last := by
  ext s
  simp only [Bind.bind]
  cases body.run s <;> rfl

theorem okOr_bind_congr {error : ε} {next next' : α → Execution ε σ β}
    (hnext : ∀ a, value = some a → next a = next' a) :
    (okOr value error >>= next) = okOr value error >>= next' := by
  cases value with
  | none => rfl
  | some a => exact hnext a rfl

/-! ## Reading a successful execution backwards -/

variable {s s' : σ} {a b : α} {error : ε} {result : β} {restore : σ → σ → σ} {f : σ → σ}

@[simp] theorem bind_ok :
    (first >>= next).run s = .ok result s' ↔
      ∃ value middle, first.run s = .ok value middle ∧ (next value).run middle = .ok result s' := by
  change (match first.run s with
    | .ok value middle => (next value).run middle
    | .error error middle => .error error middle) = _ ↔ _
  cases first.run s with
  | ok value middle => simp
  | error error middle => simp

/-- The same for a first part that returns nothing. -/
@[simp high] theorem bind_unit_ok {first : Execution ε σ Unit} {next : Unit → Execution ε σ β} :
    (first >>= next).run s = .ok result s' ↔
      ∃ middle, first.run s = .ok () middle ∧ (next ()).run middle = .ok result s' := by
  rw [bind_ok]
  exact ⟨fun ⟨(), middle, h⟩ => ⟨middle, h⟩, fun ⟨middle, h⟩ => ⟨(), middle, h⟩⟩

@[simp] theorem pure_ok : (pure a : Execution ε σ α).run s = .ok b s' ↔ a = b ∧ s = s' := by
  change Outcome.ok a s = .ok b s' ↔ _
  simp

@[simp] theorem fail_ok : (fail error : Execution ε σ α).run s ≠ .ok b s' := by
  simp [fail]

@[simp] theorem read_ok {value : σ} :
    (read : Execution ε σ σ).run s = .ok value s' ↔ s = value ∧ s = s' := by
  simp [read]

@[simp] theorem update_ok {value : Unit} :
    (update f : Execution ε σ Unit).run s = .ok value s' ↔ f s = s' := by
  simp [update]

@[simp] theorem ensure_ok [Decidable p] {value : Unit} :
    (ensure p error : Execution ε σ Unit).run s = .ok value s' ↔ p ∧ s = s' := by
  unfold ensure
  by_cases hp : p <;> simp [hp]

@[simp] theorem okOr_ok :
    (okOr value error : Execution ε σ α).run s = .ok a s' ↔ value = some a ∧ s = s' := by
  cases value <;> simp [okOr]

/-! A first part that leaves the state alone, or only writes, needs no name for
the state in between. -/

@[simp high] theorem read_bind_ok {next : σ → Execution ε σ β} :
    ((read : Execution ε σ σ) >>= next).run s = .ok result s' ↔
      (next s).run s = .ok result s' := by
  simp

theorem pure_bind_ok :
    ((pure a : Execution ε σ α) >>= next).run s = .ok result s' ↔
      (next a).run s = .ok result s' := Iff.rfl

@[simp high] theorem ensure_bind_ok [Decidable p] {next : Unit → Execution ε σ β} :
    ((ensure p error : Execution ε σ Unit) >>= next).run s = .ok result s' ↔
      p ∧ (next ()).run s = .ok result s' := by
  simp only [bind_unit_ok, ensure_ok]
  constructor
  · rintro ⟨_, ⟨hp, rfl⟩, hnext⟩
    exact ⟨hp, hnext⟩
  · rintro ⟨hp, hnext⟩
    exact ⟨s, ⟨hp, rfl⟩, hnext⟩

@[simp high] theorem okOr_bind_ok :
    ((okOr value error : Execution ε σ α) >>= next).run s = .ok result s' ↔
      ∃ a, value = some a ∧ (next a).run s = .ok result s' := by
  simp only [bind_ok, okOr_ok]
  constructor
  · rintro ⟨a, _, ⟨hvalue, rfl⟩, hnext⟩
    exact ⟨a, hvalue, hnext⟩
  · rintro ⟨a, hvalue, hnext⟩
    exact ⟨a, s, ⟨hvalue, rfl⟩, hnext⟩

@[simp high] theorem update_bind_ok {next : Unit → Execution ε σ β} :
    ((update f : Execution ε σ Unit) >>= next).run s = .ok result s' ↔
      (next ()).run (f s) = .ok result s' := by
  simp

/-- The same for any first part that only checks. -/
theorem bind_ok_of_check {first : Execution ε σ Unit} {check : σ → Prop}
    (hcheck : ∀ {s s'}, first.run s = .ok () s' ↔ check s ∧ s = s')
    {next : Unit → Execution ε σ β} :
    (first >>= next).run s = .ok result s' ↔ check s ∧ (next ()).run s = .ok result s' := by
  rw [bind_unit_ok]
  constructor
  · rintro ⟨middle, hfirst, hnext⟩
    obtain ⟨hs, rfl⟩ := hcheck.mp hfirst
    exact ⟨hs, hnext⟩
  · rintro ⟨hs, hnext⟩
    exact ⟨s, hcheck.mpr ⟨hs, rfl⟩, hnext⟩

/-- The same for any first part that only writes. -/
theorem bind_ok_of_write {first : Execution ε σ Unit}
    (hwrite : ∀ {s s'}, first.run s = .ok () s' ↔ f s = s') {next : Unit → Execution ε σ β} :
    (first >>= next).run s = .ok result s' ↔ (next ()).run (f s) = .ok result s' := by
  rw [bind_unit_ok]
  constructor
  · rintro ⟨middle, hfirst, hnext⟩
    rw [hwrite.mp hfirst]
    exact hnext
  · exact fun hnext => ⟨f s, hwrite.mpr rfl, hnext⟩

theorem ite_ok [Decidable p] {first second : Execution ε σ α} :
    (if p then first else second).run s = .ok a s' ↔
      (p ∧ first.run s = .ok a s') ∨ (¬ p ∧ second.run s = .ok a s') := by
  by_cases hp : p <;> simp [hp]

@[simp] theorem transactional_ok :
    (transactional restore body).run s = .ok a s' ↔ body.run s = .ok a s' := by
  unfold transactional
  cases hbody : body.run s <;> simp [hbody]

@[simp] theorem forEach_nil_ok {body : α → Execution ε σ Unit} {value : Unit} :
    (forEach body []).run s = .ok value s' ↔ s = s' := by
  simp [forEach]

theorem forEach_cons_ok {body : α → Execution ε σ Unit} {element : α} {rest : List α}
    {value : Unit} :
    (forEach body (element :: rest)).run s = .ok value s' ↔
      ∃ middle, (body element).run s = .ok () middle ∧
        (forEach body rest).run middle = .ok () s' := by
  simp [forEach]

/-- A loop that only checks each element ends well exactly when every element
passes, and leaves the state alone. -/
theorem forEach_ok_of_check {body : α → Execution ε σ Unit} (check : α → σ → Prop)
    (hbody : ∀ element s s', (body element).run s = .ok () s' ↔ check element s ∧ s = s')
    {elements : List α} {value : Unit} :
    (forEach body elements).run s = .ok value s' ↔
      (∀ element ∈ elements, check element s) ∧ s = s' := by
  induction elements with
  | nil => simp
  | cons element rest ih =>
    simp only [forEach_cons_ok, hbody, List.mem_cons, forall_eq_or_imp]
    constructor
    · rintro ⟨middle, ⟨hcheck, rfl⟩, hrest⟩
      obtain ⟨hall, rfl⟩ := ih.mp hrest
      exact ⟨⟨hcheck, hall⟩, rfl⟩
    · rintro ⟨⟨hcheck, hall⟩, rfl⟩
      exact ⟨s, ⟨hcheck, rfl⟩, ih.mpr ⟨hall, rfl⟩⟩

/-- What every iteration of a loop preserves, the loop preserves. -/
theorem forEach_ok_induction {body : α → Execution ε σ Unit} {P : σ → Prop}
    {elements : List α} {value : Unit}
    (hstep : ∀ element ∈ elements, ∀ s s', P s → (body element).run s = .ok () s' → P s')
    (hstart : P s) (hrun : (forEach body elements).run s = .ok value s') : P s' := by
  induction elements generalizing s with
  | nil =>
    rw [forEach_nil_ok] at hrun
    exact hrun ▸ hstart
  | cons element rest ih =>
    obtain ⟨middle, hbody, hrest⟩ := forEach_cons_ok.mp hrun
    refine ih (fun other hother => hstep other (List.mem_cons_of_mem _ hother)) ?_ hrest
    exact hstep element (List.mem_cons_self ..) s middle hstart hbody

/-! ## Reading a failure backwards

A sequence fails where its first part fails, or where the rest does. -/

variable {failure : ε}

theorem bind_error :
    (first >>= next).run s = .error error s' ↔
      first.run s = .error error s' ∨
        ∃ value middle, first.run s = .ok value middle ∧
          (next value).run middle = .error error s' := by
  change (match first.run s with
    | .ok value middle => (next value).run middle
    | .error error middle => .error error middle) = _ ↔ _
  cases first.run s with
  | ok value middle => simp
  | error error middle => simp

@[simp] theorem pure_error : (pure a : Execution ε σ α).run s ≠ .error error s' := by
  change Outcome.ok a s ≠ .error error s'
  simp

@[simp] theorem fail_error :
    (fail failure : Execution ε σ α).run s = .error error s' ↔ failure = error ∧ s = s' := by
  simp [fail]

@[simp] theorem read_error : (read : Execution ε σ σ).run s ≠ .error error s' := by
  simp [read]

@[simp] theorem update_error : (update f : Execution ε σ Unit).run s ≠ .error error s' := by
  simp [update]

@[simp] theorem ensure_error [Decidable p] :
    (ensure p failure : Execution ε σ Unit).run s = .error error s' ↔
      ¬ p ∧ failure = error ∧ s = s' := by
  unfold ensure
  by_cases hp : p <;> simp [hp]

@[simp] theorem okOr_error :
    (okOr value failure : Execution ε σ α).run s = .error error s' ↔
      value = none ∧ failure = error ∧ s = s' := by
  cases value <;> simp [okOr]

theorem read_bind_error {next : σ → Execution ε σ β} :
    ((read : Execution ε σ σ) >>= next).run s = .error error s' ↔
      (next s).run s = .error error s' := by
  simp [bind_error]

theorem update_bind_error {next : Unit → Execution ε σ β} :
    (update f >>= next).run s = .error error s' ↔ (next ()).run (f s) = .error error s' := by
  simp only [Bind.bind, update]

theorem ensure_bind_error [Decidable p] {next : Unit → Execution ε σ β} :
    ((ensure p failure : Execution ε σ Unit) >>= next).run s = .error error s' ↔
      (¬ p ∧ failure = error ∧ s = s') ∨ (p ∧ (next ()).run s = .error error s') := by
  rw [bind_error, ensure_error]
  simp only [ensure_ok]
  refine or_congr_right ⟨?_, fun ⟨hp, hnext⟩ => ⟨(), s, ⟨hp, rfl⟩, hnext⟩⟩
  rintro ⟨_, _, ⟨hp, rfl⟩, hnext⟩
  exact ⟨hp, hnext⟩

theorem okOr_bind_error :
    ((okOr value failure : Execution ε σ α) >>= next).run s = .error error s' ↔
      (value = none ∧ failure = error ∧ s = s') ∨
        ∃ a, value = some a ∧ (next a).run s = .error error s' := by
  rw [bind_error, okOr_error]
  simp only [okOr_ok]
  refine or_congr_right ⟨?_, fun ⟨a, hvalue, hnext⟩ => ⟨a, s, ⟨hvalue, rfl⟩, hnext⟩⟩
  rintro ⟨a, _, ⟨hvalue, rfl⟩, hnext⟩
  exact ⟨a, hvalue, hnext⟩

/-! ## Running forwards -/

/-- The execution fails from the state `s`. -/
def Fails (body : Execution ε σ α) (s : σ) : Prop := ∃ error s', body.run s = .error error s'

theorem run_bind_of_ok
    (hfirst : first.run s = .ok a s') : (first >>= next).run s = (next a).run s' := by
  change (match first.run s with
    | .ok value middle => (next value).run middle
    | .error error middle => .error error middle) = _
  rw [hfirst]

theorem mapError_ok {ε' : Type} {f : ε → ε'} {value : α} :
    (mapError f body).run s = .ok value s' ↔ body.run s = .ok value s' := by
  cases hrun : body.run s with
  | ok result reached => simp [mapError, hrun]
  | error error reached => simp [mapError, hrun]

/-- An attempt goes on from the state it has reached, with the value or with the error. -/
theorem run_attempt_bind {next : Except ε α → Execution ε σ β} :
    (attempt body >>= next).run s =
      match body.run s with
      | .ok value reached => (next (.ok value)).run reached
      | .error error reached => (next (.error error)).run reached := by
  cases hrun : body.run s with
  | ok value reached =>
    refine run_bind_of_ok ?_
    simp only [attempt, hrun]
  | error error reached =>
    refine run_bind_of_ok ?_
    simp only [attempt, hrun]

theorem Fails.bind (hfirst : Fails first s) : Fails (first >>= next) s := by
  obtain ⟨error, s', hrun⟩ := hfirst
  exact ⟨error, s', bind_error.mpr (.inl hrun)⟩

theorem Fails.bind_of_ok
    (hfirst : first.run s = .ok a s') (hnext : Fails (next a) s') : Fails (first >>= next) s := by
  obtain ⟨error, reached, hrun⟩ := hnext
  exact ⟨error, reached, bind_error.mpr (.inr ⟨a, s', hfirst, hrun⟩)⟩

theorem Fails.ensure_bind [Decidable p] {next : Unit → Execution ε σ β}
    (hnext : Fails (next ()) s) : Fails ((ensure p error : Execution ε σ Unit) >>= next) s := by
  by_cases hp : p
  · exact Fails.bind_of_ok (ensure_ok.mpr ⟨hp, rfl⟩) hnext
  · exact Fails.bind ⟨error, s, ensure_error.mpr ⟨hp, rfl, rfl⟩⟩

theorem Fails.transactional
    (hbody : Fails body s) : Fails (Execution.transactional restore body) s := by
  obtain ⟨error, reached, hrun⟩ := hbody
  refine ⟨error, restore s reached, ?_⟩
  unfold Execution.transactional
  simp only [hrun]

theorem not_fails_of_ok (hrun : body.run s = .ok a s') : ¬ Fails body s := by
  rintro ⟨error, reached, herror⟩
  rw [hrun] at herror
  cases herror

@[simp] theorem fails_fail : Fails (fail error : Execution ε σ α) s := ⟨error, s, rfl⟩

theorem fails_ensure [Decidable p] (hp : ¬ p) :
    Fails (ensure p error : Execution ε σ Unit) s := ⟨error, s, ensure_error.mpr ⟨hp, rfl, rfl⟩⟩

/-- Some run of the execution returns the value. -/
def Returned (body : Execution ε σ α) (value : α) : Prop := ∃ s s', body.run s = .ok value s'

theorem ok_or_fails (body : Execution ε σ α) (s : σ) :
    (∃ value s', body.run s = .ok value s') ∨ Fails body s := by
  cases hrun : body.run s with
  | ok value s' => exact .inl ⟨value, s', rfl⟩
  | error error s' => exact .inr ⟨error, s', hrun⟩

/-! ## Errors that can occur -/

/-- Every error the execution can end with satisfies `P`. -/
def FailsWithin (P : ε → Prop) (body : Execution ε σ α) : Prop :=
  ∀ s error s', body.run s = .error error s' → P error

namespace FailsWithin

variable {P : ε → Prop} {body first : Execution ε σ α}

theorem pure : FailsWithin P (Pure.pure a : Execution ε σ α) :=
  fun _ _ _ hrun => absurd hrun pure_error

theorem fail (herror : P error) : FailsWithin P (Execution.fail error : Execution ε σ α) :=
  fun _ _ _ hrun => (fail_error.mp hrun).1 ▸ herror

theorem read : FailsWithin P (Execution.read : Execution ε σ σ) :=
  fun _ _ _ hrun => absurd hrun read_error

theorem update : FailsWithin P (Execution.update f : Execution ε σ Unit) :=
  fun _ _ _ hrun => absurd hrun update_error

/-- The second part is looked at only for values the first can return. -/
theorem bind_returned (hfirst : FailsWithin P first)
    (hnext : ∀ value, Returned first value → FailsWithin P (next value)) :
    FailsWithin P (first >>= next) := by
  intro s error s' hrun
  rcases bind_error.mp hrun with herror | ⟨value, middle, hok, herror⟩
  · exact hfirst s error s' herror
  · exact hnext value ⟨s, middle, hok⟩ middle error s' herror

theorem bind (hfirst : FailsWithin P first)
    (hnext : ∀ value, FailsWithin P (next value)) : FailsWithin P (first >>= next) :=
  hfirst.bind_returned fun value _ => hnext value

theorem ite [Decidable p] (hfirst : FailsWithin P first)
    (hsecond : FailsWithin P second) : FailsWithin P (if p then first else second) := by
  split
  · exact hfirst
  · exact hsecond

theorem ensure [Decidable p] (herror : P error) :
    FailsWithin P (Execution.ensure p error : Execution ε σ Unit) := ite pure (fail herror)

theorem okOr (herror : P error) : FailsWithin P (Execution.okOr value error : Execution ε σ α) := by
  cases value with
  | none => exact fail herror
  | some value => exact pure

theorem ignoreError {body : Execution ε σ Unit} : FailsWithin P (Execution.ignoreError body) := by
  intro s error s' hrun
  simp only [Execution.ignoreError] at hrun
  split at hrun <;> cases hrun

theorem transactional (hbody : FailsWithin P body) :
    FailsWithin P (Execution.transactional restore body) := by
  intro s error s' hrun
  simp only [Execution.transactional] at hrun
  split at hrun
  · cases hrun
  · rename_i failure reached hfailed
    cases hrun
    exact hbody _ _ _ hfailed

theorem forEach {body : α → Execution ε σ Unit} (hbody : ∀ element, FailsWithin P (body element))
    (elements : List α) : FailsWithin P (Execution.forEach body elements) := by
  induction elements with
  | nil => exact pure
  | cons element rest ih => exact bind (hbody element) fun _ => ih

end FailsWithin

/-- The execution succeeds from every state. -/
abbrev NeverFails (body : Execution ε σ α) : Prop := FailsWithin (fun _ => False) body

/-! ## Views that are preserved

What a computation leaves alone is said by a view of the state that is the same
after it, however it ends. -/

/-- The execution leaves the view of the state alone. -/
def Preserves {ν : Type} (view : σ → ν) (body : Execution ε σ α) : Prop :=
  ∀ s, view (body.run s).state = view s

namespace Preserves

variable {ν : Type} {view : σ → ν} {body first : Execution ε σ α}

theorem of_ok (hbody : Preserves view body) (hrun : body.run s = .ok a s') : view s' = view s := by
  have hview := hbody s
  rwa [hrun] at hview

theorem of_error (hbody : Preserves view body) (hrun : body.run s = .error error s') :
    view s' = view s := by
  have hview := hbody s
  rwa [hrun] at hview

/-- The second part is looked at only for values the first can return. -/
theorem bind_returned (hfirst : Preserves view first)
    (hnext : ∀ value, Returned first value → Preserves view (next value)) :
    Preserves view (first >>= next) := by
  intro s
  have hview := hfirst s
  change view (match first.run s with
    | .ok value middle => (next value).run middle
    | .error error middle => .error error middle).state = _
  cases hrun : first.run s with
  | ok value middle =>
    rw [hrun] at hview
    exact (hnext value ⟨s, middle, hrun⟩ middle).trans hview
  | error error middle =>
    rw [hrun] at hview
    exact hview

theorem bind (hfirst : Preserves view first)
    (hnext : ∀ value, Preserves view (next value)) : Preserves view (first >>= next) :=
  hfirst.bind_returned fun value _ => hnext value

theorem pure : Preserves view (Pure.pure a : Execution ε σ α) := fun _ => rfl

theorem fail : Preserves view (Execution.fail error : Execution ε σ α) := fun _ => rfl

theorem read : Preserves view (Execution.read : Execution ε σ σ) := fun _ => rfl

theorem update (hview : ∀ s, view (f s) = view s) :
    Preserves view (Execution.update f : Execution ε σ Unit) := hview

theorem ite [Decidable p] (hfirst : Preserves view first)
    (hsecond : Preserves view second) : Preserves view (if p then first else second) := by
  split
  · exact hfirst
  · exact hsecond

theorem ensure [Decidable p] :
    Preserves view (Execution.ensure p error : Execution ε σ Unit) := ite pure fail

theorem okOr : Preserves view (Execution.okOr value error : Execution ε σ α) := by
  cases value with
  | none => exact fail
  | some value => exact pure

theorem transactional (hbody : Preserves view body)
    (hrestore : ∀ before reached, view (restore before reached) = view before) :
    Preserves view (Execution.transactional restore body) := by
  intro s
  have hview := hbody s
  simp only [Execution.transactional]
  cases hrun : body.run s with
  | ok value reached =>
    rw [hrun] at hview
    exact hview
  | error error reached => exact hrestore s reached

theorem forEach {body : α → Execution ε σ Unit} (hbody : ∀ element, Preserves view (body element))
    (elements : List α) : Preserves view (Execution.forEach body elements) := by
  induction elements with
  | nil => exact pure
  | cons element rest ih => exact bind (hbody element) fun _ => ih

end Preserves

/-! ## Relations between the states before and after

The same for what a computation may do: however it ends, the states are related.  For a
reflexive and transitive relation it is enough to look at the parts that write. -/

/-- The execution moves the state along the relation. -/
def Moves (R : σ → σ → Prop) (body : Execution ε σ α) : Prop := ∀ s, R s (body.run s).state

namespace Moves

variable {R : σ → σ → Prop} {body first : Execution ε σ α}

theorem bind (htrans : ∀ {a b c}, R a b → R b c → R a c)
    (hfirst : Moves R first) (hnext : ∀ value, Moves R (next value)) :
    Moves R (first >>= next) := by
  intro s
  have hmoved := hfirst s
  change R s (match first.run s with
    | .ok value middle => (next value).run middle
    | .error error middle => .error error middle).state
  cases hrun : first.run s with
  | ok value middle =>
    rw [hrun] at hmoved
    exact htrans hmoved (hnext value middle)
  | error error middle =>
    rw [hrun] at hmoved
    exact hmoved

variable (hrefl : ∀ s, R s s)

include hrefl

theorem pure : Moves R (Pure.pure a : Execution ε σ α) := hrefl

theorem read : Moves R (Execution.read : Execution ε σ σ) := hrefl

theorem okOr : Moves R (Execution.okOr value error : Execution ε σ α) := by
  cases value with
  | none => exact hrefl
  | some value => exact hrefl

theorem forEach (htrans : ∀ {a b c}, R a b → R b c → R a c)
    {body : α → Execution ε σ Unit} (hbody : ∀ element, Moves R (body element))
    (elements : List α) : Moves R (Execution.forEach body elements) := by
  induction elements with
  | nil => exact hrefl
  | cons element rest ih => exact bind htrans (hbody element) fun _ => ih

end Moves

/-- A run that fails from `s` leaves the view of the state alone. -/
def UnchangedOnError {ν : Type} (view : σ → ν) (body : Execution ε σ α) (s : σ) : Prop :=
  ∀ error s', body.run s = .error error s' → view s' = view s

namespace UnchangedOnError

variable {ν : Type} {view : σ → ν} {first : Execution ε σ α}

/-- Nothing may be written before the part that cleans up after itself. -/
theorem bind (hfirst : Preserves view first)
    (hnext : ∀ value s', first.run s = .ok value s' → UnchangedOnError view (next value) s') :
    UnchangedOnError view (first >>= next) s := by
  intro error s' hrun
  rcases bind_error.mp hrun with herror | ⟨value, middle, hok, herror⟩
  · exact hfirst.of_error herror
  · exact (hnext value middle hok error s' herror).trans (hfirst.of_ok hok)

/-- What follows it must not fail. -/
theorem bind_of_total (hfirst : UnchangedOnError view first s)
    (hnext : ∀ value, NeverFails (next value)) : UnchangedOnError view (first >>= next) s := by
  intro error s' hrun
  rcases bind_error.mp hrun with herror | ⟨value, middle, _, herror⟩
  · exact hfirst error s' herror
  · exact (hnext value middle error s' herror).elim

end UnchangedOnError

/-- A failing run leaves the view of the state alone. -/
def PreservesOnError {ν : Type} (view : σ → ν) (body : Execution ε σ α) : Prop :=
  ∀ s error s', body.run s = .error error s' → view s' = view s

namespace PreservesOnError

variable {ν : Type} {view : σ → ν} {first : Execution ε σ α}

theorem of_preserves (hbody : Preserves view body) : PreservesOnError view body :=
  fun _ _ _ hrun => hbody.of_error hrun

theorem of_neverFails (hbody : NeverFails body) : PreservesOnError view body :=
  fun s error s' hrun => (hbody s error s' hrun).elim

theorem ite [Decidable p]
    (hfirst : PreservesOnError view first) (hsecond : PreservesOnError view second) :
    PreservesOnError view (if p then first else second) := by
  split
  · exact hfirst
  · exact hsecond

theorem transactional (hrestore : ∀ before reached, view (restore before reached) = view before) :
    PreservesOnError view (Execution.transactional restore body) := by
  intro s error s' hrun
  unfold Execution.transactional at hrun
  simp only at hrun
  split at hrun
  · cases hrun
  · cases hrun
    exact hrestore s _

theorem bind (hfirst : Preserves view first) (hnext : ∀ value, PreservesOnError view (next value)) :
    PreservesOnError view (first >>= next) :=
  fun _ => UnchangedOnError.bind hfirst fun value s' _ => hnext value s'

theorem bind_of_total (hfirst : PreservesOnError view first)
    (hnext : ∀ value, NeverFails (next value)) : PreservesOnError view (first >>= next) :=
  fun s => UnchangedOnError.bind_of_total (hfirst s) hnext

end PreservesOnError

end Execution
