import UniqueChain.Model.Inflation

/-!
# The schedule of the inflation

Payment `k` is the one for the slot block `start + k · interval`, which lies in year
`k · interval / year` of the schedule.  The pallet compares the next
recalculation with the current relay block and not with the slot that is paid, so
a payment that is made late takes the rate of a later year.

`Timely` says when it does not: the relay chain has not yet reached the year after
the one of the slot, or the slot is the first one of its year.  Along a run of
timely payments the recalculations stay in step with the slots (`InStep`), and
every payment is the one of the schedule.
-/

namespace UniqueChain.Inflation

variable {T : Config} {s s' : State} {env : Environment} {issuance : ℕ → ℕ} {start : ℕ}

/-- The year of the schedule in which slot `slot` lies. -/
def slotYear (T : Config) (slot : ℕ) : ℕ := slot * T.inflationBlockInterval / year

/-- What the schedule pays for a slot, given the total issuance at the start of
every year. -/
def scheduledPayment (T : Config) (issuance : ℕ → ℕ) (slot : ℕ) : ℕ :=
  intervalInflation T (slotYear T slot) (issuance (slotYear T slot))

/-- The payments of the schedule for the first slots, the latest first. -/
def scheduledPayments (T : Config) (issuance : ℕ → ℕ) : ℕ → List ℕ
  | 0 => []
  | count + 1 => scheduledPayment T issuance (count + 1) :: scheduledPayments T issuance count

/-- The next payment of a state can be made at a relay block without leaving the
schedule. -/
structure Timely (T : Config) (s : State) (relayBlock : ℕ) : Prop where
  /-- No year is jumped over. -/
  year_le : slotYear T (s.payments.length + 1) ≤ slotYear T s.payments.length + 1
  /-- The relay chain is not past the year of the slot, unless a year begins with it. -/
  current : slotYear T (s.payments.length + 1) = slotYear T s.payments.length →
    relayBlock < s.startBlock + (slotYear T s.payments.length + 1) * year
  /-- The blocks of the next payment and recalculation are block numbers. -/
  slot_lt : s.startBlock + (s.payments.length + 2) * T.inflationBlockInterval < 2 ^ 32
  year_lt : s.startBlock + (slotYear T (s.payments.length + 1) + 1) * year < 2 ^ 32

instance (s : State) (relayBlock : ℕ) : Decidable (Timely T s relayBlock) :=
  decidable_of_iff
    ((slotYear T (s.payments.length + 1) ≤ slotYear T s.payments.length + 1 ∧
        (slotYear T (s.payments.length + 1) = slotYear T s.payments.length →
          relayBlock < s.startBlock + (slotYear T s.payments.length + 1) * year)) ∧
      s.startBlock + (s.payments.length + 2) * T.inflationBlockInterval < 2 ^ 32 ∧
      s.startBlock + (slotYear T (s.payments.length + 1) + 1) * year < 2 ^ 32)
    ⟨fun h => ⟨h.1.1, h.1.2, h.2.1, h.2.2⟩,
      fun h => ⟨⟨h.year_le, h.current⟩, h.slot_lt, h.year_lt⟩⟩

/-- A recalculation reads the total issuance of the start of its year. -/
def IssuanceOfYear (issuance : ℕ → ℕ) (s : State) (env : Environment) : Prop :=
  s.nextRecalculationBlock ≤ env.relayBlock →
    env.totalIssuance = issuance (yearOf s s.nextRecalculationBlock)

instance (s : State) (env : Environment) : Decidable (IssuanceOfYear issuance s env) :=
  inferInstanceAs (Decidable (_ → _))

/-- The recalculations are in step with the payments. -/
structure InStep (T : Config) (issuance : ℕ → ℕ) (start : ℕ) (s : State) : Prop where
  startBlock : s.startBlock = start
  nextInflationBlock :
    s.nextInflationBlock = start + (s.payments.length + 1) * T.inflationBlockInterval
  nextRecalculationBlock :
    s.nextRecalculationBlock = start + (slotYear T s.payments.length + 1) * year
  blockInflation : s.blockInflation = scheduledPayment T issuance s.payments.length
  payments : s.payments = scheduledPayments T issuance s.payments.length

theorem wrap_of_lt {block : ℕ} (hblock : block < 2 ^ 32) : wrap block = block :=
  Nat.mod_eq_of_lt hblock

theorem yearOf_of_le {block : ℕ} (hstart : s.startBlock ≤ block) (hblock : block < 2 ^ 32) :
    yearOf s block = (block - s.startBlock) / year := by
  unfold yearOf
  congr 1
  rw [show block + 2 ^ 32 - s.startBlock = (block - s.startBlock) + 2 ^ 32 by omega, wrap,
    Nat.add_mod_right, Nat.mod_eq_of_lt (by omega)]

theorem year_pos : 0 < year := by decide

/-- The block at which a year begins belongs to it. -/
theorem yearOf_start (number : ℕ) (hblock : s.startBlock + number * year < 2 ^ 32) :
    yearOf s (s.startBlock + number * year) = number := by
  rw [yearOf_of_le (Nat.le_add_right ..) hblock, Nat.add_sub_cancel_left,
    Nat.mul_div_cancel _ year_pos]

/-- The slot of a payment lies behind the beginning of its year. -/
theorem slotYear_mul_year_le (slot : ℕ) :
    slotYear T slot * year ≤ slot * T.inflationBlockInterval :=
  Nat.div_mul_le_self ..

theorem slotYear_le_succ (slot : ℕ) : slotYear T slot ≤ slotYear T (slot + 1) := by
  refine Nat.div_le_div_right ?_
  rw [Nat.succ_mul]
  exact Nat.le_add_right ..

/-- One timely payment. -/
theorem InStep.onInitialize (hstep : InStep T issuance start s)
    (htimely : PaymentDue env s → Timely T s env.relayBlock)
    (hissuance : PaymentDue env s → IssuanceOfYear issuance s env) :
    InStep T issuance start (onInitialize T env s) := by
  unfold Inflation.onInitialize
  by_cases hdue : PaymentDue env s
  · rw [if_pos hdue]
    have htimely := htimely hdue
    have hnext : wrap (s.nextInflationBlock + T.inflationBlockInterval) =
        start + (s.payments.length + 2) * T.inflationBlockInterval := by
      have hsum : s.nextInflationBlock + T.inflationBlockInterval =
          start + (s.payments.length + 2) * T.inflationBlockInterval := by
        rw [hstep.nextInflationBlock]
        ring
      rw [hsum, wrap_of_lt (hstep.startBlock ▸ htimely.slot_lt)]
    by_cases hrecalculation : s.nextRecalculationBlock ≤ env.relayBlock
    · -- the relay chain has reached the next year, so the slot begins it
      have hyear : slotYear T (s.payments.length + 1) = slotYear T s.payments.length + 1 := by
        have hle := htimely.year_le
        have hge := slotYear_le_succ (T := T) s.payments.length
        have hcurrent := htimely.current
        rw [hstep.startBlock, ← hstep.nextRecalculationBlock] at hcurrent
        omega
      have hfits : s.startBlock + (slotYear T s.payments.length + 1) * year < 2 ^ 32 := by
        have hlt := htimely.year_lt
        rw [hyear] at hlt
        have hmono := Nat.mul_le_mul_right year
          (Nat.le_succ (slotYear T s.payments.length + 1))
        simp only [Nat.succ_eq_add_one] at hmono
        omega
      have hyearOf : yearOf s s.nextRecalculationBlock = slotYear T (s.payments.length + 1) := by
        rw [hstep.nextRecalculationBlock, ← hstep.startBlock, yearOf_start _ hfits, hyear]
      have hamount : intervalInflation T (yearOf s s.nextRecalculationBlock)
          env.totalIssuance = scheduledPayment T issuance (s.payments.length + 1) := by
        rw [hissuance hdue hrecalculation, hyearOf]
        rfl
      simp only [if_pos hrecalculation, recalculateInflation]
      refine ⟨hstep.startBlock, ?_, ?_, ?_, ?_⟩
      · simpa using hnext
      · show wrap (s.nextRecalculationBlock + year) = _
        have hsum : s.nextRecalculationBlock + year =
            s.startBlock + (slotYear T (s.payments.length + 1) + 1) * year := by
          rw [hstep.nextRecalculationBlock, hstep.startBlock, hyear]
          ring
        rw [hsum, wrap_of_lt htimely.year_lt, hstep.startBlock]
        rfl
      · simpa using hamount
      · simp only [List.length_cons, scheduledPayments, List.cons.injEq]
        exact ⟨hamount, hstep.payments⟩
    · -- the slot lies in the year that is current
      have hyear : slotYear T (s.payments.length + 1) = slotYear T s.payments.length := by
        have hle := htimely.year_le
        have hge := slotYear_le_succ (T := T) s.payments.length
        by_contra hother
        have hbegins : slotYear T (s.payments.length + 1) =
            slotYear T s.payments.length + 1 := by omega
        have hbehind := slotYear_mul_year_le (T := T) (s.payments.length + 1)
        rw [hbegins] at hbehind
        have hpaid := hdue.2
        rw [hstep.nextInflationBlock] at hpaid
        rw [hstep.nextRecalculationBlock] at hrecalculation
        omega
      have hamount : s.blockInflation = scheduledPayment T issuance (s.payments.length + 1) := by
        rw [hstep.blockInflation, scheduledPayment, scheduledPayment, hyear]
      simp only [if_neg hrecalculation]
      refine ⟨hstep.startBlock, ?_, ?_, ?_, ?_⟩
      · simpa using hnext
      · simp only [List.length_cons]
        rw [hyear]
        exact hstep.nextRecalculationBlock
      · simpa using hamount
      · simp only [List.length_cons, scheduledPayments, List.cons.injEq]
        exact ⟨hamount, hstep.payments⟩
  · rw [if_neg hdue]
    exact hstep

/-- The start of the inflation. -/
theorem inStep_of_startInflation (hstart : startInflation T env .root start {} = some s)
    (hslot : start + T.inflationBlockInterval < 2 ^ 32) (hyear : start + year < 2 ^ 32)
    (hissuance : env.totalIssuance = issuance 0) : InStep T issuance start s := by
  have hzero : slotYear T 0 = 0 := by simp [slotYear]
  unfold startInflation at hstart
  rw [if_pos rfl, if_pos rfl] at hstart
  simp only [Option.ite_none_right_eq_some, Option.some.injEq] at hstart
  obtain ⟨_, rfl⟩ := hstart
  have hfirst : yearOf { startBlock := start } start = 0 := by
    have hbegin := yearOf_start (s := { startBlock := start }) 0
      (by show start + 0 * year < 2 ^ 32; omega)
    simpa using hbegin
  refine ⟨rfl, ?_, ?_, ?_, rfl⟩
  · show wrap (start + T.inflationBlockInterval) = start + (0 + 1) * T.inflationBlockInterval
    rw [wrap_of_lt hslot, Nat.zero_add, Nat.one_mul]
  · show wrap (start + year) = start + (slotYear T 0 + 1) * year
    rw [wrap_of_lt hyear, hzero, Nat.zero_add, Nat.one_mul]
  · show intervalInflation T (yearOf _ start) env.totalIssuance = scheduledPayment T issuance 0
    rw [hfirst, hissuance, scheduledPayment, hzero]

/-- Along a run in which every payment is timely, the payments are those of the
schedule: each one uses the rate of the year of its slot.  What a chain has paid
then depends on the number of its payments only. -/
theorem payments_follow_schedule {root : Environment} {started : State}
    {history : List (CallRecord State Environment)}
    (hstart : startInflation T root .root start {} = some started)
    (hslot : start + T.inflationBlockInterval < 2 ^ 32) (hyear : start + year < 2 ^ 32)
    (hissuance : root.totalIssuance = issuance 0) (hrun : Run (blockStep T) started history s)
    (htimely : ∀ event ∈ history, PaymentDue event.call event.state →
      Timely T event.state event.call.relayBlock)
    (hissuances : ∀ event ∈ history, PaymentDue event.call event.state →
      IssuanceOfYear issuance event.state event.call) :
    s.payments = scheduledPayments T issuance s.payments.length := by
  have hinStep : InStep T issuance start s := by
    refine hrun.invariant (fun s env =>
        (PaymentDue env s → Timely T s env.relayBlock) ∧
          (PaymentDue env s → IssuanceOfYear issuance s env))
      (inStep_of_startInflation hstart hslot hyear hissuance) ?_
      fun event hevent => ⟨htimely event hevent, hissuances event hevent⟩
    rintro s env s' hinStep ⟨htimely, hissuance⟩ hblock
    cases hblock
    exact hinStep.onInitialize htimely hissuance
  exact hinStep.payments

namespace ScheduleExample

def config : Config := ⟨100, by decide⟩

/-- A block at which the relay chain has the given number. -/
def relayAt (relayBlock : ℕ) : Environment := ⟨relayBlock, 1000000000000, fun _ => true⟩

/-- The state of the pallet after a start at relay block 1. -/
def started (relayBlock : ℕ) : State :=
  (startInflation config (relayAt relayBlock) .root 1 {}).get rfl

/-- The blocks of a chain that is not behind. -/
def punctual : List Environment := [relayAt 50, relayAt 101, relayAt 150, relayAt 201]

theorem punctual_follows_schedule :
    (replayState (blockStep config) (started 1) punctual rfl).payments =
        scheduledPayments config (fun _ => 1000000000000)
          (replayState (blockStep config) (started 1) punctual rfl).payments.length ∧
      (replayState (blockStep config) (started 1) punctual rfl).payments.length = 2 :=
  ⟨payments_follow_schedule (Option.some_get _).symm (by decide) (by decide) rfl
    (run_replay (blockStep config) (started 1) punctual rfl) (by decide) (by decide), rfl⟩

/-- A chain on which the inflation is started three years late pays the first slot at
the rate of the second year. -/
theorem late_start_skips_first_year :
    (replayState (blockStep config) (started 20000000) [relayAt 20000000] rfl).payments =
        [1774530] ∧
      scheduledPayments config (fun _ => 1000000000000) 1 = [1901280] := by
  decide

end ScheduleExample

end UniqueChain.Inflation
