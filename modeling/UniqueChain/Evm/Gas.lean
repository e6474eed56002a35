import UniqueChain.Model.Recorder

/-!
# Gas of EVM calls

Every charge either leaves the recorder as it was or takes the gas it asks for, so a method
only ever lowers what is left, and what it took is the sum over the charges that were
accepted (`Method.run_eq`).  The refund at the end is at most the charge before the dispatch,
because the unspent weight is part of the predicted one.  Both together say that a call
never leaves more gas than it was given and records exactly what it used.

Charging reads and writes in one go prices the writes as reads.  It is the same as charging
them one after the other exactly where this makes no difference: the writes cost as much
either way, or the gas suffices for neither charge.
-/

namespace UniqueChain.EvmCoder

open Execution

variable {config : GasConfig} {recorder recorder' : SubstrateRecorder} {gas : ℕ}

/-! ## One charge -/

def SubstrateRecorder.spend (recorder : SubstrateRecorder) (gas : ℕ) : SubstrateRecorder :=
  { recorder with gasLimit := recorder.gasLimit - gas }

theorem spend_spend (first second : ℕ) :
    (recorder.spend first).spend second = recorder.spend (first + second) := by
  unfold SubstrateRecorder.spend
  rw [Nat.sub_add_eq]

theorem consumeGas_ok : (consumeGas gas).run recorder = .ok () recorder' ↔
    gas ≠ u64Max ∧ gas ≤ recorder.gasLimit ∧ recorder.spend gas = recorder' := by
  rw [consumeGas, ensure_bind_ok, read_bind_ok, ensure_bind_ok, update_ok]
  rfl

/-- The recorder is charged, or left as it was. -/
theorem consumeGas_cases (gas : ℕ) (recorder : SubstrateRecorder) :
    (consumeGas gas).run recorder = .error (.error .outOfGas) recorder ∨
      gas ≤ recorder.gasLimit ∧ (consumeGas gas).run recorder = .ok () (recorder.spend gas) := by
  by_cases hmax : gas = u64Max
  · left
    rw [consumeGas, ensure, if_neg (not_not.mpr hmax)]
    rfl
  by_cases hgas : gas ≤ recorder.gasLimit
  · exact .inr ⟨hgas, consumeGas_ok.mpr ⟨hmax, hgas, rfl⟩⟩
  · left
    rw [consumeGas, ensure, if_pos hmax, pure_bind]
    change ((ensure (gas ≤ recorder.gasLimit) _ : GasExec Unit) >>= _).run recorder = _
    rw [ensure, if_neg hgas]
    rfl

theorem accepted_cases (gas : ℕ) (recorder : SubstrateRecorder) :
    (accepted (consumeGas gas)).run recorder = .ok false recorder ∨
      gas ≤ recorder.gasLimit ∧
        (accepted (consumeGas gas)).run recorder = .ok true (recorder.spend gas) := by
  rcases consumeGas_cases gas recorder with hrun | ⟨hle, hrun⟩
  · left
    rw [accepted, run_attempt_bind, hrun]
    rfl
  · right
    refine ⟨hle, ?_⟩
    rw [accepted, run_attempt_bind, hrun]
    rfl

/-- The gas a charge asks for. -/
def Charge.gasOf (config : GasConfig) : Charge → ℕ
  | .gas amount => amount
  | .sload => gSloadWord
  | .sstore => gSstoreWord
  | .sstores amount => saturatingMul gSstoreWord amount
  | .storeReads reads => config.weightToGas ⟨saturatingMul config.read reads, 0⟩
  | .storeWrites writes => config.weightToGas ⟨saturatingMul config.write writes, 0⟩
  | .storeReadsAndWrites reads writes => config.weightToGas
      ⟨saturatingAdd (saturatingMul config.read reads) (saturatingMul config.read writes), 0⟩
  | .budget lent calls => calls * lent.gasPerCall

/-- A charge is refused and changes nothing, or it takes the gas it asks for. -/
theorem Charge.perform_cases (charge : Charge) :
    (charge.perform config).run recorder = .ok false recorder ∨
      charge.gasOf config ≤ recorder.gasLimit ∧
        (charge.perform config).run recorder = .ok true (recorder.spend (charge.gasOf config)) := by
  cases charge with
  | budget lent calls =>
    rw [perform, GasCallsBudget.consumeCustom]
    split
    · exact accepted_cases ..
    · exact .inl rfl
  | _ => exact accepted_cases ..

/-! ## A method -/

namespace Method

variable {α : Type}

/-- The gas of the charges of a method that were accepted. -/
def consumed (config : GasConfig) : Method α → SubstrateRecorder → ℕ
  | .finish _, _ => 0
  | .charge first next, recorder =>
    match (first.perform config).run recorder with
    | .ok true after => first.gasOf config + (next true).consumed config after
    | .ok false after => (next false).consumed config after
    | .error _ _ => 0

/-- The recorder while a method runs. -/
inductive Visits (config : GasConfig) :
    Method α → SubstrateRecorder → SubstrateRecorder → Prop
  | here {method : Method α} {recorder : SubstrateRecorder} : Visits config method recorder recorder
  | next {first : Charge} {next : Bool → Method α} {answer : Bool}
      {recorder after middle : SubstrateRecorder}
      (hfirst : (first.perform config).run recorder = .ok answer after)
      (hrest : Visits config (next answer) after middle) :
      Visits config (.charge first next) recorder middle

/-- A method ends, and has taken what it consumed. -/
theorem run_eq (method : Method α) (recorder : SubstrateRecorder) :
    method.consumed config recorder ≤ recorder.gasLimit ∧ ∃ result,
      (method.run config).run recorder =
        .ok result (recorder.spend (method.consumed config recorder)) := by
  induction method generalizing recorder with
  | finish result => exact ⟨Nat.zero_le _, result, rfl⟩
  | charge first next ih =>
    rcases first.perform_cases with hrefused | ⟨hle, haccepted⟩
    · obtain ⟨hconsumed, result, hrun⟩ := ih false recorder
      rw [consumed, hrefused]
      exact ⟨hconsumed, result, bind_ok.mpr ⟨false, recorder, hrefused, hrun⟩⟩
    · obtain ⟨hconsumed, result, hrun⟩ := ih true (recorder.spend (first.gasOf config))
      rw [consumed, haccepted]
      refine ⟨?_, result, bind_ok.mpr ⟨true, _, haccepted, ?_⟩⟩
      · change _ ≤ recorder.gasLimit - first.gasOf config at hconsumed
        dsimp only
        omega
      · rw [hrun, spend_spend]

theorem Visits.le {method : Method α} {middle : SubstrateRecorder}
    (hvisits : method.Visits config recorder middle) :
    middle.initialGas = recorder.initialGas ∧ middle.gasLimit ≤ recorder.gasLimit := by
  induction hvisits with
  | here => exact ⟨rfl, Nat.le_refl _⟩
  | @next first next answer recorder after middle hfirst hrest ih =>
    rcases first.perform_cases with hrefused | ⟨hle, haccepted⟩
    · rw [hrefused] at hfirst
      cases hfirst
      exact ih
    · rw [haccepted] at hfirst
      cases hfirst
      exact ⟨ih.1, Nat.le_trans ih.2 (Nat.sub_le ..)⟩

end Method

/-! ## A whole call -/

/-- More weight costs at least as much gas. -/
def GasConfig.Monotone (config : GasConfig) : Prop :=
  ∀ a b : Weight, a ≤ b → config.weightToGas a ≤ config.weightToGas b

section Call

variable {Call : Type} {contract : Contract Call} {gasLimit : ℕ} {input : List UInt8}
  {target : Call} {charged reached : SubstrateRecorder}
  {result : ResultWithPostInfo (List UInt8)}

/-- The input names a method, and its weight was charged. -/
structure Dispatched (config : GasConfig) (contract : Contract Call) (gasLimit : ℕ)
    (input : List UInt8) (target : Call) (charged : SubstrateRecorder) : Prop where
  parsed : contract.parseFull input = .ok (some target)
  paid : (consumeGas (config.weightToGas (contract.dispatchInfo target).weight)).run
    (.new gasLimit) = .ok () charged

/-- The recorder at any time during a call. -/
inductive Visited (config : GasConfig) (contract : Contract Call) (gasLimit : ℕ)
    (input : List UInt8) : SubstrateRecorder → Prop
  | start : Visited config contract gasLimit input (.new gasLimit)
  | running {target : Call} {charged middle : SubstrateRecorder}
      (hdispatched : Dispatched config contract gasLimit input target charged)
      (hvisits : (contract.call target).Visits config charged middle) :
      Visited config contract gasLimit input middle
  | finished : Visited config contract gasLimit input (call config contract gasLimit input).1

/-- A call that is not dispatched leaves the recorder as it was. -/
theorem recorder_of_not_dispatched
    (hnot : ∀ target charged, ¬ Dispatched config contract gasLimit input target charged) :
    (call config contract gasLimit input).1 = .new gasLimit := by
  unfold call callInternal
  match hparsed : contract.parseFull input with
  | .error error => rfl
  | .ok none => rfl
  | .ok (some target) =>
    rcases consumeGas_cases (config.weightToGas (contract.dispatchInfo target).weight)
      (.new gasLimit) with hrun | ⟨_, hrun⟩
    · dsimp only
      rw [bind_error.mpr (.inl hrun)]
      rfl
    · exact absurd ⟨hparsed, hrun⟩ (hnot target _)

theorem recorder_of_dispatched
    (hdispatched : Dispatched config contract gasLimit input target charged)
    (hmethod : ((contract.call target).run config).run charged = .ok result reached) :
    (call config contract gasLimit input).1 =
      returnGas (config.weightToGas ((postInfoOf result).calcUnspent
        (contract.dispatchInfo target))) reached := by
  unfold call callInternal
  rw [hdispatched.parsed]
  dsimp only
  rw [run_bind_of_ok hdispatched.paid, run_bind_of_ok hmethod]
  cases result <;> rfl

/-- The balance of a call that was dispatched. -/
theorem balance_of_dispatched (hmonotone : config.Monotone) (hlimit : gasLimit ≤ u64Max)
    (hdispatched : Dispatched config contract gasLimit input target charged)
    (hmethod : ((contract.call target).run config).run charged = .ok result reached) :
    let after := (call config contract gasLimit input).1
    let info := contract.dispatchInfo target
    let refund := config.weightToGas ((postInfoOf result).calcUnspent info)
    let used := config.weightToGas info.weight + (contract.call target).consumed config charged
    after.initialGas = gasLimit ∧ refund ≤ config.weightToGas info.weight ∧ used ≤ gasLimit ∧
      after.gasLeft = gasLimit - used + refund := by
  obtain ⟨hconsumed, _, hrun⟩ := (contract.call target).run_eq charged
  obtain ⟨_, rfl⟩ := Outcome.ok.inj (hmethod.symm.trans hrun)
  obtain ⟨_, hpre, rfl⟩ := consumeGas_ok.mp hdispatched.paid
  intro after info refund used
  have hrefund : refund ≤ config.weightToGas info.weight :=
    hmonotone _ _ ⟨Nat.sub_le .., Nat.sub_le ..⟩
  have hused : used ≤ gasLimit := by
    change _ ≤ gasLimit - config.weightToGas info.weight at hconsumed
    change config.weightToGas info.weight ≤ gasLimit at hpre
    omega
  have hsmall : gasLimit < 2 ^ 64 := Nat.lt_of_le_of_lt hlimit (by decide)
  have hafter : after = returnGas refund _ := recorder_of_dispatched hdispatched hmethod
  rw [spend_spend] at hafter
  refine ⟨hafter ▸ rfl, hrefund, hused, ?_⟩
  calc after.gasLeft = (gasLimit - used + refund) % 2 ^ 64 := hafter ▸ rfl
    _ = gasLimit - used + refund := Nat.mod_eq_of_lt (by omega)

theorem call_bounded (hmonotone : config.Monotone) (hlimit : gasLimit ≤ u64Max) :
    (call config contract gasLimit input).1.initialGas = gasLimit ∧
      (call config contract gasLimit input).1.gasLeft ≤ gasLimit := by
  by_cases hdispatched : ∃ target charged, Dispatched config contract gasLimit input target charged
  · obtain ⟨target, charged, hdispatched⟩ := hdispatched
    obtain ⟨_, result, hmethod⟩ := (contract.call target).run_eq charged
    obtain ⟨hinitial, hrefund, hused, hleft⟩ :=
      balance_of_dispatched hmonotone hlimit hdispatched hmethod
    exact ⟨hinitial, by omega⟩
  · rw [recorder_of_not_dispatched fun target charged h => hdispatched ⟨target, charged, h⟩]
    exact ⟨rfl, Nat.le_refl _⟩

theorem recordedCost_eq {after : SubstrateRecorder} (hlimit : gasLimit ≤ u64Max)
    (hafter : after.initialGas = gasLimit ∧ after.gasLeft ≤ gasLimit) :
    (after.initialGas + 2 ^ 64 - after.gasLeft) % 2 ^ 64 = gasLimit - after.gasLeft := by
  obtain ⟨hinitial, hleft⟩ := hafter
  have hsmall : gasLimit < 2 ^ 64 := Nat.lt_of_le_of_lt hlimit (by decide)
  have hsum : after.initialGas + 2 ^ 64 - after.gasLeft = gasLimit - after.gasLeft + 2 ^ 64 := by
    omega
  rw [hsum, Nat.add_mod_right, Nat.mod_eq_of_lt (by omega)]

/-- No call leaves more gas than it was given, at any time, so the difference it records does
not underflow and is at most the limit.  A call that was dispatched has paid for its weight,
without what it left unspent, and for everything it consumed. -/
theorem call_gas_accounted (config : GasConfig) (hmonotone : config.Monotone)
    (contract : Contract Call) (gasLimit : ℕ) (hlimit : gasLimit ≤ u64Max) (input : List UInt8) :
    (∀ recorder, Visited config contract gasLimit input recorder →
      recorder.initialGas = gasLimit ∧ recorder.gasLeft ≤ gasLimit) ∧
    let after := (call config contract gasLimit input).1
    let cost := (call config contract gasLimit input).2.1
    cost = after.initialGas - after.gasLeft ∧ cost ≤ gasLimit ∧
    ∀ target charged result reached, Dispatched config contract gasLimit input target charged →
      ((contract.call target).run config).run charged = .ok result reached →
      let info := contract.dispatchInfo target
      cost = config.weightToGas info.weight -
          config.weightToGas ((postInfoOf result).calcUnspent info) +
        (contract.call target).consumed config charged := by
  have hafter := @call_bounded _ _ contract gasLimit input hmonotone hlimit
  have hcost : (call config contract gasLimit input).2.1 =
      gasLimit - (call config contract gasLimit input).1.gasLeft := recordedCost_eq hlimit hafter
  refine ⟨?_, ?_, ?_, ?_⟩
  · intro recorder hvisited
    cases hvisited with
    | start => exact ⟨rfl, Nat.le_refl _⟩
    | running hdispatched hvisits =>
      obtain ⟨_, _, rfl⟩ := consumeGas_ok.mp hdispatched.paid
      exact ⟨hvisits.le.1, Nat.le_trans hvisits.le.2 (Nat.sub_le ..)⟩
    | finished => exact hafter
  · rw [hcost, hafter.1]
  · rw [hcost]
    exact Nat.sub_le ..
  · intro target charged result reached hdispatched hmethod
    obtain ⟨_, hrefund, hused, hleft⟩ :=
      balance_of_dispatched hmonotone hlimit hdispatched hmethod
    rw [hcost, hleft]
    omega

end Call

namespace GasExample

/-- A write is dearer than a read, and a unit of time costs a unit of gas. -/
def dearWrites : GasConfig where
  read := 3
  write := 5
  weightToGas weight := weight.refTime

theorem dearWrites_monotone : dearWrites.Monotone := fun _ _ hle => hle.1

/-- A method that reads twice and reverts, with less weight than predicted. -/
def reverting : Contract Unit where
  parseFull _ := .ok (some ())
  dispatchInfo _ := ⟨⟨100, 7⟩⟩
  call _ := .charge (.storeReads 2) fun _ => .finish (.error ⟨.revert "refused", ⟨some ⟨40, 9⟩⟩⟩)

theorem call_gas_accounted_reverting :
    dearWrites.Monotone ∧ 200 ≤ u64Max ∧ (call dearWrites reverting 200 []).2.1 ≤ 200 ∧
      (call dearWrites reverting 200 []).2.1 = 100 - 60 + 6 := by
  have haccounted := call_gas_accounted dearWrites dearWrites_monotone reverting 200 (by decide) []
  refine ⟨dearWrites_monotone, by decide, haccounted.2.2.1, ?_⟩
  exact haccounted.2.2.2 () ⟨200, 100⟩ _ ⟨200, 94⟩ ⟨rfl, by decide⟩ rfl

end GasExample

/-! ## Reads and writes charged together -/

/-- The gas of some weights is the gas of their sum, as far as weights do not overflow. -/
def GasConfig.Additive (config : GasConfig) : Prop :=
  ∀ a b : Weight, a.refTime + b.refTime ≤ u64Max → a.proofSize + b.proofSize ≤ u64Max →
    config.weightToGas (a + b) = config.weightToGas a + config.weightToGas b

section Together

variable {reads writes : ℕ}

/-- The gas of some time. -/
def GasConfig.gasOfTime (config : GasConfig) (refTime : ℕ) : ℕ := config.weightToGas ⟨refTime, 0⟩

/-- Neither the weights nor the gas of the two ways to charge reads and writes saturate. -/
structure Unsaturated (config : GasConfig) (reads writes : ℕ) : Prop where
  asReads : config.read * reads + config.read * writes ≤ u64Max
  asWrites : config.read * reads + config.write * writes ≤ u64Max
  gasAsReads : config.gasOfTime (config.read * reads + config.read * writes) < u64Max
  gasAsWrites : config.gasOfTime (config.read * reads + config.write * writes) < u64Max

/-- The gas of some reads and some writes, at the costs of both. -/
def GasConfig.gasOfAccesses (config : GasConfig) (reads writes : ℕ) : ℕ :=
  config.gasOfTime (config.read * reads) + config.gasOfTime (config.write * writes)

/-- The same if writes were reads. -/
def GasConfig.gasOfReads (config : GasConfig) (reads writes : ℕ) : ℕ :=
  config.gasOfTime (config.read * reads) + config.gasOfTime (config.read * writes)

theorem gasOfTime_add (hadditive : config.Additive) {a b : ℕ} (hle : a + b ≤ u64Max) :
    config.gasOfTime (a + b) = config.gasOfTime a + config.gasOfTime b :=
  hadditive ⟨a, 0⟩ ⟨b, 0⟩ hle (Nat.zero_le _)

theorem saturatingMul_of_le {a b : ℕ} (hle : a * b ≤ u64Max) : saturatingMul a b = a * b :=
  Nat.min_eq_left hle

theorem together_ok (hadditive : config.Additive) (hfits : Unsaturated config reads writes) :
    (consumeStoreReadsAndWrites config reads writes).run recorder = .ok () recorder' ↔
      config.gasOfReads reads writes ≤ recorder.gasLimit ∧
        recorder.spend (config.gasOfReads reads writes) = recorder' := by
  have hsum := hfits.asReads
  have hgas := hfits.gasAsReads
  rw [consumeStoreReadsAndWrites, saturatingMul_of_le (by omega), saturatingMul_of_le (by omega),
    saturatingAdd, Nat.min_eq_left hsum]
  change (consumeGas (config.gasOfTime _)).run recorder = _ ↔ _
  rw [gasOfTime_add hadditive hsum] at hgas ⊢
  rw [consumeGas_ok]
  exact and_iff_right (Nat.ne_of_lt hgas)

theorem separately_ok (hadditive : config.Additive) (hfits : Unsaturated config reads writes) :
    (do consumeStoreReads config reads; consumeStoreWrites config writes : GasExec Unit).run
        recorder = .ok () recorder' ↔
      config.gasOfAccesses reads writes ≤ recorder.gasLimit ∧
        recorder.spend (config.gasOfAccesses reads writes) = recorder' := by
  have hsum := hfits.asWrites
  have hgas := hfits.gasAsWrites
  rw [gasOfTime_add hadditive hsum] at hgas
  rw [bind_unit_ok, consumeStoreReads, consumeStoreWrites, saturatingMul_of_le (by omega),
    saturatingMul_of_le (by omega)]
  change (∃ middle, (consumeGas (config.gasOfTime _)).run recorder = .ok () middle ∧
    (consumeGas (config.gasOfTime _)).run middle = .ok () recorder') ↔ _
  unfold GasConfig.gasOfAccesses
  constructor
  · rintro ⟨middle, hreads, hwrites⟩
    obtain ⟨_, hread, rfl⟩ := consumeGas_ok.mp hreads
    obtain ⟨_, hwrite, rfl⟩ := consumeGas_ok.mp hwrites
    change _ ≤ recorder.gasLimit - _ at hwrite
    exact ⟨by omega, (spend_spend ..).symm⟩
  · rintro ⟨hle, rfl⟩
    refine ⟨_, consumeGas_ok.mpr ⟨by omega, by omega, rfl⟩, consumeGas_ok.mpr ⟨by omega, ?_, ?_⟩⟩
    · change _ ≤ recorder.gasLimit - _
      omega
    · exact spend_spend ..

/-- Two charges do the same exactly if they ask for the same, or neither is accepted. -/
theorem same_charge_iff {first second : ℕ} :
    (∀ after, (first ≤ recorder.gasLimit ∧ recorder.spend first = after) ↔
      (second ≤ recorder.gasLimit ∧ recorder.spend second = after)) ↔
      first = second ∨ recorder.gasLimit < min first second := by
  constructor
  · intro hsame
    by_contra hdiffer
    obtain ⟨hne, hle⟩ := not_or.mp hdiffer
    by_cases hfirst : first ≤ recorder.gasLimit
    · obtain ⟨hsecond, hspend⟩ := (hsame _).mp ⟨hfirst, rfl⟩
      have hleft : recorder.gasLimit - second = recorder.gasLimit - first :=
        congrArg SubstrateRecorder.gasLimit hspend
      omega
    · exact hfirst ((hsame (recorder.spend second)).mpr ⟨by omega, rfl⟩).1
  · rintro (rfl | hneither) after
    · exact Iff.rfl
    · exact iff_of_false (fun hfirst => by omega) (fun hsecond => by omega)

/-- Charging reads and writes together is charging them one after the other exactly if both
ask for the same gas, or it suffices for neither.  A method of a collection charges its
writes at the write cost exactly if both ask for the same gas, or it runs out of it. -/
theorem reads_and_writes_together_iff (config : GasConfig) (hadditive : config.Additive)
    (recorder : SubstrateRecorder) :
    (∀ reads writes, Unsaturated config reads writes →
      ((∀ after, (consumeStoreReadsAndWrites config reads writes).run recorder = .ok () after ↔
          (do consumeStoreReads config reads; consumeStoreWrites config writes : GasExec Unit).run
            recorder = .ok () after) ↔
        config.gasOfReads reads writes = config.gasOfAccesses reads writes ∨
          recorder.gasLeft <
            min (config.gasOfReads reads writes) (config.gasOfAccesses reads writes))) ∧
    ∀ (method : CollectionMethod) (reads writes : ℕ), method.storeAccesses = (reads, writes) →
      Unsaturated config reads writes →
      ((∀ after, (method.charge config).run recorder = .ok () after →
          recorder.gasLeft - after.gasLeft = config.gasOfAccesses reads writes) ↔
        config.gasOfReads reads writes = config.gasOfAccesses reads writes ∨
          recorder.gasLeft < config.gasOfReads reads writes) := by
  constructor
  · intro reads writes hfits
    simp only [together_ok hadditive hfits, separately_ok hadditive hfits]
    exact same_charge_iff
  · intro method reads writes haccesses hfits
    simp only [CollectionMethod.charge, haccesses, together_ok hadditive hfits]
    constructor
    · intro hpaid
      by_cases hle : config.gasOfReads reads writes ≤ recorder.gasLimit
      · have htaken := hpaid _ ⟨hle, rfl⟩
        change recorder.gasLimit - (recorder.gasLimit - _) = _ at htaken
        exact .inl (by omega)
      · exact .inr (Nat.lt_of_not_le hle)
    · rintro hcost after ⟨hle, rfl⟩
      change recorder.gasLimit - (recorder.gasLimit - _) = _
      rcases hcost with heq | hlt
      · omega
      · exact absurd hle (Nat.not_le.mpr hlt)

end Together

namespace GasExample

theorem dearWrites_additive : dearWrites.Additive := fun _ _ _ _ => rfl

theorem unsaturated_two : Unsaturated dearWrites 2 2 where
  asReads := by decide
  asWrites := by decide
  gasAsReads := by decide
  gasAsWrites := by decide

theorem reads_and_writes_together_iff_poor :
    dearWrites.Additive ∧ Unsaturated dearWrites 2 2 ∧
      ∀ after, (consumeStoreReadsAndWrites dearWrites 2 2).run (.new 11) = .ok () after ↔
        (do consumeStoreReads dearWrites 2; consumeStoreWrites dearWrites 2 : GasExec Unit).run
          (.new 11) = .ok () after :=
  ⟨dearWrites_additive, unsaturated_two,
    ((reads_and_writes_together_iff dearWrites dearWrites_additive (.new 11)).1 2 2
      unsaturated_two).mpr (.inr (by decide))⟩

/-- A charge of two reads and two writes takes twelve units together and sixteen one after the
other, and so does the method that adds an administrator. -/
theorem reads_and_writes_together_differ :
    dearWrites.Additive ∧ dearWrites.Monotone ∧ Unsaturated dearWrites 2 2 ∧
      (consumeStoreReadsAndWrites dearWrites 2 2).run (.new 20) = .ok () ⟨20, 8⟩ ∧
      (CollectionMethod.addCollectionAdmin.charge dearWrites).run (.new 20) = .ok () ⟨20, 8⟩ ∧
      (do consumeStoreReads dearWrites 2; consumeStoreWrites dearWrites 2 : GasExec Unit).run
        (.new 20) = .ok () ⟨20, 4⟩ :=
  ⟨dearWrites_additive, dearWrites_monotone, unsaturated_two, by decide, by decide, by decide⟩

end GasExample

end UniqueChain.EvmCoder
