import Mathlib.Tactic.Common

/-!
# Runs of a transition system

A system is a partial step function: a call either succeeds and gives the next
state, or is rejected and changes nothing.  A run records the successful calls
together with the states they were made in, the latest first, so that a
statement about a history can be made about the same object as an invariant.
-/

/-- One successful call of a run: the state it was made in, and the call. -/
structure CallRecord (σ ι : Type) where
  state : σ
  call : ι

/-- `Run step start history last`: from `start` the calls of `history` lead to
`last`, with any number of rejected calls in between. -/
inductive Run {σ ι : Type} (step : σ → ι → Option σ) (start : σ) : List (CallRecord σ ι) → σ → Prop
  | start : Run step start [] start
  | accepted {history : List (CallRecord σ ι)} {s s' : σ} {call : ι}
      (hrun : Run step start history s) (hstep : step s call = some s') :
      Run step start (⟨s, call⟩ :: history) s'
  | rejected {history : List (CallRecord σ ι)} {s : σ} {call : ι}
      (hrun : Run step start history s) (hstep : step s call = none) :
      Run step start history s

namespace Run

variable {σ ι : Type} {step : σ → ι → Option σ} {start s s' : σ} {history : List (CallRecord σ ι)}
  {call : ι}

/-- With an invariant `Base` of all runs at hand: what holds at the start and is kept by
every successful call that meets the condition `Allowed` holds at the end of every run
whose calls all meet it. -/
theorem invariant_of_base {Base P : σ → Prop} (Allowed : σ → ι → Prop)
    (hbase : ∀ {history s}, Run step start history s → Base s) (hstart : P start)
    (hstep : ∀ s call s', Base s → Base s' → P s → Allowed s call → step s call = some s' → P s')
    (hrun : Run step start history s)
    (hallowed : ∀ event ∈ history, Allowed event.state event.call) : P s := by
  induction hrun with
  | start => exact hstart
  | accepted hrun hcall ih =>
    have hearlier := ih fun event hevent => hallowed event (List.mem_cons_of_mem _ hevent)
    exact hstep _ _ _ (hbase hrun) (hbase (hrun.accepted hcall)) hearlier
      (hallowed _ (List.mem_cons_self ..)) hcall
  | rejected hrun hcall ih => exact ih hallowed

/-- The same without such an invariant. -/
theorem invariant {P : σ → Prop} (Allowed : σ → ι → Prop) (hstart : P start)
    (hstep : ∀ s call s', P s → Allowed s call → step s call = some s' → P s') :
    Run step start history s → (∀ event ∈ history, Allowed event.state event.call) → P s :=
  invariant_of_base Allowed (fun _ => trivial) hstart fun s call s' _ _ => hstep s call s'

/-- Every recorded call was made at the end of an earlier run. -/
theorem of_mem (hrun : Run step start history s) {event : CallRecord σ ι}
    (hevent : event ∈ history) :
    ∃ earlier s', Run step start earlier event.state ∧ step event.state event.call = some s' := by
  induction hrun with
  | start => simp at hevent
  | accepted hrun hcall ih =>
    rcases List.mem_cons.mp hevent with rfl | hevent
    · exact ⟨_, _, hrun, hcall⟩
    · exact ih hevent
  | rejected hrun hcall ih => exact ih hevent

/-- What a recorded call brings about and every later call keeps holds at the end. -/
theorem since {P : σ → Prop} {event : CallRecord σ ι}
    (hmade : ∀ earlier s', Run step start earlier event.state →
      step event.state event.call = some s' → P s')
    (hkeeps : ∀ earlier s call s', Run step start earlier s → P s → step s call = some s' → P s')
    (hrun : Run step start history s) (hevent : event ∈ history) : P s := by
  induction hrun with
  | start => simp at hevent
  | accepted hrun hcall ih =>
    rcases List.mem_cons.mp hevent with rfl | hearlier
    · exact hmade _ _ hrun hcall
    · exact hkeeps _ _ _ _ hrun (ih hearlier) hcall
  | rejected hrun hcall ih => exact ih hevent

end Run

/-- Some entry of the history meets `P`, together with what came before it, and no later
one meets `Q`. -/
inductive Since {α : Type} (P : List α → α → Prop) (Q : α → Prop) : List α → Prop
  | now {earlier : List α} {event : α} (hevent : P earlier event) : Since P Q (event :: earlier)
  | later {history : List α} {event : α} (hsince : Since P Q history) (hquiet : ¬ Q event) :
      Since P Q (event :: history)

section Replay

variable {σ ι : Type}

/-- Make the calls one after the other, as long as each of them succeeds. -/
def replay (step : σ → ι → Option σ) (history : List (CallRecord σ ι)) (s : σ) :
    List ι → Option (List (CallRecord σ ι) × σ)
  | [] => some (history, s)
  | call :: rest => (step s call).bind fun next => replay step (⟨s, call⟩ :: history) next rest

theorem Run.of_replay {step : σ → ι → Option σ} {start s s' : σ}
    {history history' : List (CallRecord σ ι)} {calls : List ι} (hrun : Run step start history s)
    (hcalls : replay step history s calls = some (history', s')) : Run step start history' s' := by
  induction calls generalizing history s with
  | nil =>
    cases hcalls
    exact hrun
  | cons call rest ih =>
    obtain ⟨next, hnext, hrest⟩ := Option.bind_eq_some_iff.mp hcalls
    exact ih (hrun.accepted hnext) hrest

theorem call_mem_of_replay {step : σ → ι → Option σ} {s s' : σ}
    {history history' : List (CallRecord σ ι)} {calls : List ι}
    (hcalls : replay step history s calls = some (history', s')) {event : CallRecord σ ι}
    (hevent : event ∈ history') : event ∈ history ∨ event.call ∈ calls := by
  induction calls generalizing history s with
  | nil =>
    cases hcalls
    exact .inl hevent
  | cons call rest ih =>
    obtain ⟨next, _, hrest⟩ := Option.bind_eq_some_iff.mp hcalls
    rcases ih hrest with hearlier | hlater
    · rcases List.mem_cons.mp hearlier with rfl | hbefore
      · exact .inr (List.mem_cons_self ..)
      · exact .inl hbefore
    · exact .inr (List.mem_cons_of_mem _ hlater)

/-- The history of calls that all succeed. -/
def replayHistory (step : σ → ι → Option σ) (start : σ) (calls : List ι)
    (hcalls : (replay step [] start calls).isSome) : List (CallRecord σ ι) :=
  ((replay step [] start calls).get hcalls).1

/-- The state that calls that all succeed lead to. -/
def replayState (step : σ → ι → Option σ) (start : σ) (calls : List ι)
    (hcalls : (replay step [] start calls).isSome) : σ :=
  ((replay step [] start calls).get hcalls).2

/-- The history of the calls is made of these calls. -/
theorem call_mem_of_mem_replayHistory {step : σ → ι → Option σ} {start : σ} {calls : List ι}
    {hcalls : (replay step [] start calls).isSome} {event : CallRecord σ ι}
    (hevent : event ∈ replayHistory step start calls hcalls) : event.call ∈ calls :=
  (call_mem_of_replay (Option.some_get hcalls).symm hevent).resolve_left List.not_mem_nil

theorem run_replay (step : σ → ι → Option σ) (start : σ) (calls : List ι)
    (hcalls : (replay step [] start calls).isSome) :
    Run step start (replayHistory step start calls hcalls) (replayState step start calls hcalls) :=
  Run.start.of_replay (Option.some_get hcalls).symm

end Replay
