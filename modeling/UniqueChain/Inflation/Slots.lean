import UniqueChain.Inflation.Schedule

/-!
# The start of the inflation and its slots

The pallet knows that it was started by a start block other than zero.  A start at
relay block zero leaves no trace, and the next call starts the inflation anew; after
a start at any other block a later call does nothing, whatever blocks come between.

From the start on the two counters of the pallet give the number of payments and of
recalculations (`Slots`).  A block processes at most one slot, and it processes one
exactly if the relay chain has reached the block of the slot.  So a chain that lags
behind catches up slot by slot: at relay block `r` it ends with `(r - start) / interval`
payments.
-/

namespace UniqueChain.Inflation

variable {T : Config} {s s' : State} {env : Environment} {start : ℕ}

/-! ## The start -/

theorem startBlock_onInitialize : (onInitialize T env s).startBlock = s.startBlock := by
  unfold onInitialize
  split
  · simp only
    split
    · rfl
    · rfl
  · rfl

/-- A call after the start changes nothing. -/
theorem step_startInflation_of_started {chain final : Chain} {origin : Origin} {block : ℕ}
    (hstarted : chain.pallet.startBlock ≠ 0)
    (hstep : step T chain (.startInflation env origin block) = some final) :
    final = chain := by
  simp only [step, startInflation, if_neg hstarted] at hstep
  split at hstep
  · cases hstep
    rfl
  · cases hstep

/-- The start block is the one of the call that makes the first deposit. -/
theorem step_startInflation_of_zero {chain after : Chain} {origin : Origin} {block : ℕ}
    (hzero : chain.pallet.startBlock = 0)
    (hstep : step T chain (.startInflation env origin block) = some after) :
    after.pallet.startBlock = block := by
  simp only [step, startInflation, if_pos hzero] at hstep
  split at hstep
  · split at hstep
    · cases hstep
      rfl
    · cases hstep
  · cases hstep

theorem startBlock_of_step {chain chain' : Chain} {input : Input}
    (hstarted : chain.pallet.startBlock ≠ 0) (hstep : step T chain input = some chain') :
    chain'.pallet.startBlock = chain.pallet.startBlock := by
  cases input with
  | startInflation env origin block =>
    rw [step_startInflation_of_started hstarted hstep]
  | onInitialize env =>
    cases hstep
    exact startBlock_onInitialize

theorem startBlock_of_run {chain chain' : Chain} {history : List (CallRecord Chain Input)}
    (hstarted : chain.pallet.startBlock ≠ 0) (hrun : Run (step T) chain history chain') :
    chain'.pallet.startBlock ≠ 0 :=
  hrun.invariant (P := fun chain => chain.pallet.startBlock ≠ 0) (fun _ _ => True) hstarted
    (fun _ _ _ hstarted _ hstep => by rwa [startBlock_of_step hstarted hstep])
    fun _ _ => trivial

/-- After the call that makes the first deposit, all later calls leave the pallet and
the treasury as they are, whatever happens before them, exactly if this call is given
a block other than zero. -/
theorem later_starts_change_nothing_iff {before after : Chain} {block : ℕ}
    (hdeposits : before.pallet.startBlock = 0)
    (hstart : step T before (.startInflation env .root block) = some after) :
    (∀ history later root origin again final, Run (step T) after history later →
        step T later (.startInflation root origin again) = some final → final = later) ↔
      block ≠ 0 := by
  have hblock := step_startInflation_of_zero hdeposits hstart
  constructor
  · -- a start at zero is followed by a start at one
    rintro honce rfl
    let willing : Environment := { env with acceptsDeposit := fun _ => true }
    obtain ⟨final, hfinal⟩ :
        ∃ final, step T after (.startInflation willing .root 1) = some final := by
      simp [step, startInflation, hblock, willing]
    have hsame := honce [] after willing .root 1 final .start hfinal
    have hone := step_startInflation_of_zero hblock hfinal
    rw [hsame, hblock] at hone
    cases hone
  · intro hpos history later root origin again final hrun hcall
    exact step_startInflation_of_started (startBlock_of_run (hblock ▸ hpos) hrun) hcall

namespace SlotsExample

open ScheduleExample

/-- The chain after a start at the given block. -/
def startedAt (block : ℕ) : Chain :=
  (step config {} (.startInflation (relayAt 1) .root block)).get rfl

theorem later_starts_change_nothing_at_one :
    step config {} (.startInflation (relayAt 1) .root 1) = some (startedAt 1) ∧
      ∀ history later root origin again final, Run (step config) (startedAt 1) history later →
        step config later (.startInflation root origin again) = some final → final = later :=
  ⟨(Option.some_get rfl).symm,
    (later_starts_change_nothing_iff rfl (Option.some_get rfl).symm).mpr Nat.one_ne_zero⟩

/-- After a start at block zero the next call makes a second deposit and moves the
start. -/
theorem second_start_after_zero :
    (startedAt 0).treasury = 1901280 ∧
      ∃ final, step config (startedAt 0) (.startInflation (relayAt 1) .root 7) = some final ∧
        final.treasury = 2 * 1901280 ∧ final.pallet.startBlock = 7 ∧
        final.pallet.nextInflationBlock ≠ (startedAt 0).pallet.nextInflationBlock :=
  ⟨by decide, _, rfl, by decide, rfl, by decide⟩

end SlotsExample

/-! ## The slots -/

/-- A block recalculates the inflation, as part of a payment. -/
def RecalculationDue (env : Environment) (s : State) : Prop :=
  PaymentDue env s ∧ s.nextRecalculationBlock ≤ env.relayBlock

instance (env : Environment) (s : State) : Decidable (RecalculationDue env s) :=
  inferInstanceAs (Decidable (_ ∧ _))

/-- The block numbers that are added up fit into their type. -/
structure BlocksFit (T : Config) (env : Environment) (s : State) : Prop where
  slot : PaymentDue env s → s.nextInflationBlock + T.inflationBlockInterval < 2 ^ 32
  recalculation : RecalculationDue env s → s.nextRecalculationBlock + year < 2 ^ 32

instance (s : State) : Decidable (BlocksFit T env s) :=
  decidable_of_iff ((PaymentDue env s → s.nextInflationBlock + T.inflationBlockInterval < 2 ^ 32) ∧
      (RecalculationDue env s → s.nextRecalculationBlock + year < 2 ^ 32))
    ⟨fun h => ⟨h.1, h.2⟩, fun h => ⟨h.slot, h.recalculation⟩⟩

/-- The counters after the given number of recalculations, the first one included. -/
structure Slots (T : Config) (start recalculations : ℕ) (s : State) : Prop where
  startBlock : s.startBlock = start
  nextInflationBlock :
    s.nextInflationBlock = start + (s.payments.length + 1) * T.inflationBlockInterval
  nextRecalculationBlock : s.nextRecalculationBlock = start + recalculations * year

theorem slots_of_startInflation (hstart : startInflation T env .root start {} = some s)
    (hslot : start + T.inflationBlockInterval < 2 ^ 32) (hyear : start + year < 2 ^ 32) :
    Slots T start 1 s := by
  unfold startInflation at hstart
  rw [if_pos rfl, if_pos rfl] at hstart
  simp only [Option.ite_none_right_eq_some, Option.some.injEq] at hstart
  obtain ⟨_, rfl⟩ := hstart
  refine ⟨rfl, ?_, ?_⟩
  · show wrap (start + T.inflationBlockInterval) = start + (0 + 1) * T.inflationBlockInterval
    rw [wrap_of_lt hslot, Nat.zero_add, Nat.one_mul]
  · show wrap (start + year) = start + 1 * year
    rw [wrap_of_lt hyear, Nat.one_mul]

theorem payments_of_startInflation
    (hstart : startInflation T env .root start {} = some s) : s.payments = [] := by
  unfold startInflation at hstart
  rw [if_pos rfl, if_pos rfl] at hstart
  simp only [Option.ite_none_right_eq_some, Option.some.injEq] at hstart
  obtain ⟨_, rfl⟩ := hstart
  rfl

variable (T s env) in
/-- A block makes a payment exactly if one is due. -/
theorem length_payments_onInitialize : (onInitialize T env s).payments.length =
      s.payments.length + if PaymentDue env s then 1 else 0 := by
  unfold onInitialize
  split
  · simp only [List.length_cons]
    split
    · rfl
    · rfl
  · rfl

namespace Slots

variable {recalculations : ℕ}

section

variable (hslots : Slots T start recalculations s)

include hslots

/-- A slot is due exactly if the relay chain has reached it: the pallet was started. -/
theorem paymentDue_iff (hinterval : 0 < T.inflationBlockInterval) :
    PaymentDue env s ↔ s.nextInflationBlock ≤ env.relayBlock := by
  have hpos : 0 < s.nextInflationBlock := by
    rw [hslots.nextInflationBlock, Nat.succ_mul]
    omega
  exact ⟨fun hdue => hdue.2, fun hreached => ⟨Nat.pos_iff_ne_zero.mp hpos, hreached⟩⟩

theorem onInitialize (hfit : BlocksFit T env s) :
    Slots T start (recalculations + if RecalculationDue env s then 1 else 0)
      (onInitialize T env s) := by
  have hlength := length_payments_onInitialize T s env
  by_cases hdue : PaymentDue env s
  · have hnext : wrap (s.nextInflationBlock + T.inflationBlockInterval) =
        start + (s.payments.length + 1 + 1) * T.inflationBlockInterval := by
      rw [wrap_of_lt (hfit.slot hdue), hslots.nextInflationBlock]
      ring
    rw [if_pos hdue] at hlength
    refine ⟨startBlock_onInitialize.trans hslots.startBlock, ?_, ?_⟩
    · rw [hlength, ← hnext]
      simp only [Inflation.onInitialize, if_pos hdue]
    · by_cases hyear : s.nextRecalculationBlock ≤ env.relayBlock
      · rw [if_pos ⟨hdue, hyear⟩]
        simp only [Inflation.onInitialize, if_pos hdue, if_pos hyear, recalculateInflation]
        rw [wrap_of_lt (hfit.recalculation ⟨hdue, hyear⟩), hslots.nextRecalculationBlock]
        ring
      · rw [if_neg fun hboth => hyear hboth.2]
        simp only [Inflation.onInitialize, if_pos hdue, if_neg hyear]
        exact hslots.nextRecalculationBlock
  · rw [if_neg fun hboth => hdue hboth.1]
    simp only [Inflation.onInitialize, if_neg hdue]
    exact hslots

/-- A slot that is processed has been reached. -/
theorem slot_le (hdue : PaymentDue env s) :
    start + (s.payments.length + 1) * T.inflationBlockInterval ≤ env.relayBlock :=
  hslots.nextInflationBlock ▸ hdue.2

end

end Slots

/-! ## Runs -/

/-- The number of slots that a history of blocks processes. -/
def processedSlots (history : List (CallRecord State Environment)) : ℕ :=
  history.countP fun event => PaymentDue event.call event.state

/-- The number of recalculations of a history, with the one of the start. -/
def recalculationsOf (history : List (CallRecord State Environment)) : ℕ :=
  1 + history.countP fun event => RecalculationDue event.call event.state

/-- The relay chain does not go back; the latest block is the first of the list. -/
def RelayForward (history : List (CallRecord State Environment)) : Prop :=
  history.Pairwise fun later earlier => earlier.call.relayBlock ≤ later.call.relayBlock

section Runs

variable {started : State} {history : List (CallRecord State Environment)}

theorem slots_of_run (hslots : Slots T start 1 started) (hempty : started.payments = [])
    (hrun : Run (blockStep T) started history s)
    (hfit : ∀ event ∈ history, BlocksFit T event.call event.state) :
    Slots T start (recalculationsOf history) s ∧ s.payments.length = processedSlots history := by
  induction hrun with
  | start => exact ⟨hslots, by simp [hempty, processedSlots]⟩
  | accepted hearlier hblock ih =>
    cases hblock
    rw [List.forall_mem_cons] at hfit
    obtain ⟨hslots', hlength⟩ := ih hfit.2
    refine ⟨?_, ?_⟩
    · have hafter := hslots'.onInitialize hfit.1
      simpa [recalculationsOf, List.countP_cons, Nat.add_assoc] using hafter
    · rw [length_payments_onInitialize, hlength]
      simp [processedSlots, List.countP_cons]
  | rejected hearlier hblock ih => cases hblock

/-- All slots processed by a block or before it lie at or before its relay block. -/
theorem slots_reached_of_run (hslots : Slots T start 1 started) (hempty : started.payments = [])
    (hrun : Run (blockStep T) started history s) (hforward : RelayForward history)
    (hfit : ∀ event ∈ history, BlocksFit T event.call event.state)
    {relayBlock : ℕ} (hlatest : ∀ event ∈ history, event.call.relayBlock ≤ relayBlock)
    (hsome : 0 < s.payments.length) :
    start + s.payments.length * T.inflationBlockInterval ≤ relayBlock := by
  induction hrun with
  | start => simp [hempty] at hsome
  | @accepted history before after env hearlier hblock ih =>
    cases hblock
    obtain ⟨hslots', _⟩ := slots_of_run hslots hempty hearlier
      (List.forall_mem_cons.mp hfit).2
    rw [length_payments_onInitialize] at hsome ⊢
    have hcurrent := (List.forall_mem_cons.mp hlatest).1
    by_cases hdue : PaymentDue env before
    · rw [if_pos hdue]
      exact (hslots'.slot_le hdue).trans hcurrent
    · rw [if_neg hdue] at hsome ⊢
      exact ih (List.pairwise_cons.mp hforward).2 (List.forall_mem_cons.mp hfit).2
        (List.forall_mem_cons.mp hlatest).2 hsome
  | rejected hearlier hblock ih => cases hblock

/-- At a relay block that stays the same, every block processes one slot until all
slots up to it are processed. -/
theorem length_payments_of_catchUp {recalculations relayBlock : ℕ} {last : State}
    {later : List (CallRecord State Environment)} (hinterval : 0 < T.inflationBlockInterval)
    (hslots : Slots T start recalculations s) (hstart : start ≤ relayBlock)
    (hreached : s.payments.length ≤ (relayBlock - start) / T.inflationBlockInterval)
    (hrun : Run (blockStep T) s later last)
    (hlater : ∀ event ∈ later, event.call.relayBlock = relayBlock ∧
      BlocksFit T event.call event.state) :
    (∃ recalculations, Slots T start recalculations last) ∧
      last.payments.length ≤ (relayBlock - start) / T.inflationBlockInterval ∧
      min (s.payments.length + later.length) ((relayBlock - start) / T.inflationBlockInterval) ≤
        last.payments.length := by
  induction hrun with
  | start => exact ⟨⟨_, hslots⟩, hreached, by simp⟩
  | @accepted later before after env hearlier hblock ih =>
    cases hblock
    obtain ⟨⟨hblock, hfit⟩, hlater⟩ := List.forall_mem_cons.mp hlater
    obtain ⟨⟨count, hbefore⟩, hle, hge⟩ := ih hlater
    refine ⟨⟨_, hbefore.onInitialize hfit⟩, ?_⟩
    -- the next slot is reached exactly if it is one of the slots up to the relay block
    have hdue : PaymentDue env before ↔
        before.payments.length + 1 ≤ (relayBlock - start) / T.inflationBlockInterval := by
      rw [hbefore.paymentDue_iff hinterval, hbefore.nextInflationBlock, hblock,
        Nat.le_div_iff_mul_le hinterval]
      omega
    rw [length_payments_onInitialize, List.length_cons]
    split
    · rename_i hpaid
      have hnext := hdue.mp hpaid
      omega
    · rename_i hwaits
      have hlast := mt hdue.mpr hwaits
      omega
  | rejected hearlier hblock ih => cases hblock

/-- In every state after the start the counters give the number of payments and of
recalculations.  The next block processes a slot exactly if the relay chain has reached
it, no slot is processed before its block, and blocks at one relay block end with all
slots up to it processed. -/
theorem slots_neither_skipped_nor_doubled {root : Environment}
    (hinterval : 0 < T.inflationBlockInterval)
    (hstart : startInflation T root .root start {} = some started)
    (hslot : start + T.inflationBlockInterval < 2 ^ 32) (hyear : start + year < 2 ^ 32)
    (hrun : Run (blockStep T) started history s) (hforward : RelayForward history)
    (hfit : ∀ event ∈ history, BlocksFit T event.call event.state) :
    s.nextInflationBlock = start + (processedSlots history + 1) * T.inflationBlockInterval ∧
      s.nextRecalculationBlock = start + recalculationsOf history * year ∧
      s.payments.length = processedSlots history ∧
      (∀ env, (onInitialize T env s).payments.length =
        s.payments.length + if s.nextInflationBlock ≤ env.relayBlock then 1 else 0) ∧
      (∀ event ∈ history.head?, ∀ slot, 0 < slot → slot ≤ processedSlots history →
        start + slot * T.inflationBlockInterval ≤ event.call.relayBlock) ∧
      ∀ relayBlock later last, start ≤ relayBlock →
        (∀ event ∈ history, event.call.relayBlock ≤ relayBlock) →
        Run (blockStep T) s later last →
        (∀ event ∈ later, event.call.relayBlock = relayBlock ∧
          BlocksFit T event.call event.state) →
        (relayBlock - start) / T.inflationBlockInterval ≤ later.length →
        last.payments.length = (relayBlock - start) / T.inflationBlockInterval := by
  have hfirst := slots_of_startInflation hstart hslot hyear
  have hempty := payments_of_startInflation hstart
  obtain ⟨hslots, hlength⟩ := slots_of_run hfirst hempty hrun hfit
  have hreached : ∀ relayBlock, (∀ event ∈ history, event.call.relayBlock ≤ relayBlock) →
      0 < s.payments.length →
      start + s.payments.length * T.inflationBlockInterval ≤ relayBlock :=
    fun _ hlatest => slots_reached_of_run hfirst hempty hrun hforward hfit hlatest
  refine ⟨hlength ▸ hslots.nextInflationBlock, hslots.nextRecalculationBlock, hlength,
    fun env => ?_, fun event hevent slot hpos hslot => ?_,
    fun relayBlock later last hstart hlatest hrest hlater henough => ?_⟩
  · rw [length_payments_onInitialize]
    exact congrArg _ (if_congr (hslots.paymentDue_iff hinterval) rfl rfl)
  · have hlatest : ∀ earlier ∈ history, earlier.call.relayBlock ≤ event.call.relayBlock := by
      cases hhistory : history with
      | nil => simp
      | cons latest rest =>
        rw [hhistory] at hevent hforward
        cases hevent
        rw [List.forall_mem_cons]
        exact ⟨Nat.le_refl _, (List.pairwise_cons.mp hforward).1⟩
    have hle := hreached _ hlatest (by omega)
    have hmono := Nat.mul_le_mul_right T.inflationBlockInterval (hlength ▸ hslot)
    omega
  · have hbefore : s.payments.length ≤ (relayBlock - start) / T.inflationBlockInterval := by
      rw [Nat.le_div_iff_mul_le hinterval]
      rcases Nat.eq_zero_or_pos s.payments.length with hzero | hpos
      · simp [hzero]
      · have hle := hreached relayBlock hlatest hpos
        omega
    obtain ⟨_, hle, hge⟩ :=
      length_payments_of_catchUp hinterval hslots hstart hbefore hrest hlater
    omega

end Runs

namespace SlotsExample

open ScheduleExample

/-- Two blocks in time, then a jump over five slots, of which three blocks process
one each. -/
def lagging : List Environment :=
  [relayAt 50, relayAt 101, relayAt 620, relayAt 620, relayAt 620]

theorem slots_kept_lagging :
    processedSlots (replayHistory (blockStep config) (started 1) lagging rfl) = 4 ∧
      (replayState (blockStep config) (started 1) lagging rfl).nextInflationBlock =
        1 + (4 + 1) * 100 :=
  ⟨by decide, (slots_neither_skipped_nor_doubled (by decide) (Option.some_get _).symm (by decide)
    (by decide) (run_replay (blockStep config) (started 1) lagging rfl)
    (by unfold RelayForward; decide) (by decide)).1⟩

end SlotsExample

end UniqueChain.Inflation
