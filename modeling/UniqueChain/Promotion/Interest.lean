import Mathlib.Algebra.Order.Floor.Div
import Mathlib.Order.Iterate
import Mathlib.Order.Interval.Finset.Nat
import UniqueChain.Promotion.Rounds

/-!
# The interest of a stake

A stake earns interest for full intervals only, and for each of them once, however
late, early or often the rounds of payouts are.  A record that earns again at the end
of the interval with index `m` has recalculation block `(m + 1) * I`.  Staking at block
`b` makes such a record with the index of the first interval that begins at `b` or
later; a round at block `r` pays the intervals from `m` up to `r / I` and goes on with
that index.
-/

namespace UniqueChain.AppPromotion

open Execution

variable {T : Config} {s s' : State T} {config : PalletConfiguration}
  {current relayBlock interval : ℕ} {key : Key T} {stake : Stake} {index now amount : ℕ}

/-! ## Compound interest -/

/-- An amount after one interval. -/
def grow (intervalIncome : Perbill) (amount : ℕ) : ℕ := amount + intervalIncome.mul amount

theorem grow_iterate_mono (intervalIncome : Perbill) (amount : ℕ) {few many : ℕ}
    (hle : few ≤ many) : (grow intervalIncome)^[few] amount ≤ (grow intervalIncome)^[many] amount :=
  Function.monotone_iterate_of_id_le (fun _ => Nat.le_add_right ..) hle amount

/-- Without an overflow, the income is what the amount grows by. -/
theorem add_calculateIncome {intervalIncome : Perbill} {base iters : ℕ}
    (hfits : (grow intervalIncome)^[iters] base ≤ u128Max) :
    base + calculateIncome intervalIncome base iters = (grow intervalIncome)^[iters] base := by
  have hloop : ∀ count ≤ iters,
      (fun income => wrapBalance (income + intervalIncome.mul income))^[count] base =
        (grow intervalIncome)^[count] base := by
    intro count hcount
    induction count with
    | zero => rfl
    | succ count ih =>
      have hsmall := grow_iterate_mono intervalIncome base hcount
      rw [Function.iterate_succ_apply', ih (Nat.le_of_succ_le hcount),
        Function.iterate_succ_apply']
      rw [Function.iterate_succ_apply'] at hsmall
      refine Nat.mod_eq_of_lt ?_
      unfold grow at hsmall hfits ⊢
      unfold u128Max at hfits
      omega
  have hbase : base ≤ (grow intervalIncome)^[iters] base :=
    grow_iterate_mono intervalIncome base (Nat.zero_le iters)
  unfold calculateIncome
  simp only [hloop iters (Nat.le_refl _)]
  generalize (grow intervalIncome)^[iters] base = grown at hbase hfits
  unfold wrapBalance
  unfold u128Max at hfits
  have hsplit : grown + 2 ^ 128 - base = grown - base + 2 ^ 128 := by omega
  rw [hsplit, Nat.add_mod_right, Nat.mod_eq_of_lt (by omega)]
  omega

/-! ## Indices of intervals -/

/-- The number of intervals that begin at block `first` or later and have ended at
block `last`. -/
def fullIntervals (interval first last : ℕ) : ℕ :=
  ((Finset.range last).filter fun index =>
    first ≤ index * interval ∧ (index + 1) * interval ≤ last).card

theorem fullIntervals_eq (hinterval : 0 < interval) (first last : ℕ) :
    fullIntervals interval first last = last / interval - first ⌈/⌉ interval := by
  have hset : ((Finset.range last).filter fun index =>
      first ≤ index * interval ∧ (index + 1) * interval ≤ last) =
        Finset.Ico (first ⌈/⌉ interval) (last / interval) := by
    ext index
    rw [Finset.mem_filter, Finset.mem_range, Finset.mem_Ico, ceilDiv_le_iff_le_mul hinterval,
      Nat.mul_comm interval, ← Nat.succ_le_iff, ← Nat.succ_le_iff, Nat.le_div_iff_mul_le hinterval]
    constructor
    · rintro ⟨_, hfirst, hlast⟩
      exact ⟨hfirst, hlast⟩
    · rintro ⟨hfirst, hlast⟩
      exact ⟨Nat.le_trans (Nat.le_mul_of_pos_right _ hinterval) hlast, hfirst, hlast⟩
  rw [fullIntervals, hset, Nat.card_Ico]

section

variable (hinterval : 0 < config.recalculationInterval)

include hinterval

/-- A stake earns first in the first interval that begins at its block or later. -/
theorem firstRecalcBlock_eq
    (hfits : (relayBlock ⌈/⌉ config.recalculationInterval + 1) * config.recalculationInterval <
      2 ^ 32) :
    firstRecalcBlock config relayBlock =
      (relayBlock ⌈/⌉ config.recalculationInterval + 1) * config.recalculationInterval := by
  have hceil : relayBlock ⌈/⌉ config.recalculationInterval + 1 =
      relayBlock / config.recalculationInterval +
        if relayBlock % config.recalculationInterval = 0 then 1 else 2 := by
    generalize config.recalculationInterval = interval at hinterval
    have hdivided := Nat.div_add_mod relayBlock interval
    have hrest := Nat.mod_lt relayBlock hinterval
    rw [Nat.ceilDiv_eq_add_pred_div]
    split
    · rename_i hzero
      have hsum : relayBlock + interval - 1 =
          interval - 1 + interval * (relayBlock / interval) := by omega
      rw [hsum, Nat.add_mul_div_left _ _ hinterval, Nat.div_eq_of_lt (by omega)]
      omega
    · rename_i hpositive
      have hsum : relayBlock + interval - 1 =
          relayBlock % interval - 1 + interval * (relayBlock / interval + 1) := by
        rw [Nat.mul_add]
        omega
      rw [hsum, Nat.add_mul_div_left _ _ hinterval, Nat.div_eq_of_lt (by omega)]
      omega
  unfold firstRecalcBlock wrapBlock
  rw [← hceil, Nat.mod_eq_of_lt hfits]

/-- A record with index `index` is paid for the intervals up to the current one. -/
theorem add_incomeOf_of_index
    (hdue : (index + 1) * config.recalculationInterval ≤ now * config.recalculationInterval)
    (hfits : (grow config.intervalIncome)^[now - index] amount ≤ u128Max) :
    amount + incomeOf config (now * config.recalculationInterval)
        ⟨amount, (index + 1) * config.recalculationInterval⟩ =
      (grow config.intervalIncome)^[now - index] amount := by
  have hlater : index + 1 ≤ now := Nat.le_of_mul_le_mul_right hdue hinterval
  have hdueIntervals : dueIntervals config (now * config.recalculationInterval)
      ⟨amount, (index + 1) * config.recalculationInterval⟩ = now - index := by
    unfold dueIntervals
    rw [← Nat.sub_mul, Nat.mul_div_cancel _ hinterval]
    omega
  rw [incomeOf, hdueIntervals]
  exact add_calculateIncome hfits

/-- What a round at the interval with index `now` makes of a record with index `index`. -/
theorem paidStake_of_index (hnext : (now + 1) * config.recalculationInterval < 2 ^ 32)
    (hfits : (grow config.intervalIncome)^[now - index] amount ≤ u128Max) :
    paidStake config (now * config.recalculationInterval)
        (followingRecalcBlock config (now * config.recalculationInterval))
        ⟨amount, (index + 1) * config.recalculationInterval⟩ =
      ⟨(grow config.intervalIncome)^[now - index] amount,
        (max index now + 1) * config.recalculationInterval⟩ := by
  by_cases hdue : (index + 1) * config.recalculationInterval ≤ now * config.recalculationInterval
  · have hlater : index + 1 ≤ now := Nat.le_of_mul_le_mul_right hdue hinterval
    have hsum := add_incomeOf_of_index hinterval hdue hfits
    have hpaid : IsPaid config (now * config.recalculationInterval)
        ⟨amount, (index + 1) * config.recalculationInterval⟩ := ⟨hdue, hsum ▸ hfits⟩
    have hfollowing : followingRecalcBlock config (now * config.recalculationInterval) =
        (now + 1) * config.recalculationInterval := by
      rw [Nat.add_mul, Nat.one_mul] at hnext ⊢
      exact followingRecalcBlock_eq hnext
    rw [paidStake, if_pos hpaid, hfollowing, hsum, Nat.max_eq_right (by omega)]
  · have hearlier : ¬ index + 1 ≤ now := fun hle => hdue (Nat.mul_le_mul_right _ hle)
    rw [paidStake_of_not_due (Nat.lt_of_not_le hdue), Nat.max_eq_left (by omega),
      Nat.sub_eq_zero_of_le (by omega)]
    rfl

end

/-! ## Rounds -/

/-- A complete round at a relay block: payouts until no cursor is left.  What else
happens does not touch the record. -/
structure CompleteRound (config : PalletConfiguration) (relayBlock : ℕ) (key : Key T)
    (s s' : State T) : Prop where
  opens : s.previousCalculatedRecord = none
  closes : s'.previousCalculatedRecord = none
  calls : ∃ history : History T, Run step s history s' ∧
    (∃ event ∈ history, IsPayout event.call) ∧
    ∀ event ∈ history,
      (IsPayout event.call → InRound config (getCurrentRecalcBlock config relayBlock)
        event.call.env) ∧
      (¬ IsPayout event.call → ∀ after, step event.state event.call = some after →
        after.staked.get key = event.state.staked.get key)

/-- The record in the middle of a round: it is as it was, or has been paid. -/
structure PaidSoFar (config : PalletConfiguration) (current : ℕ) (key : Key T)
    (stake : Stake) (history : History T) (s : State T) : Prop where
  get : s.staked.get key = some stake ∨ s.staked.get key = some (paidStake config current
    (followingRecalcBlock config current) stake)
  behind : ∀ cursor, s.previousCalculatedRecord = some cursor → DueAt current key s →
    T.hashedKeyFor cursor < T.hashedKeyFor key
  done : (∃ event ∈ history, IsPayout event.call) → s.previousCalculatedRecord = none →
    ¬ DueAt current key s

section PaidSoFar

variable {history : History T} {input : Input T}

/-- Only the record as it was can be due. -/
theorem PaidSoFar.eq_of_due (hinterval : config.recalculationInterval ≠ 0)
    (hnext : current + config.recalculationInterval < 2 ^ 32)
    (hpaid : PaidSoFar config current key stake history s) {old : Stake}
    (hget : s.staked.get key = some old) (hdue : old.recalcBlock ≤ current) :
    old = stake := by
  rcases hpaid.get with hsame | hafter
  · exact Option.some.inj (hget.symm.trans hsame)
  · obtain rfl := Option.some.inj (hget.symm.trans hafter)
    by_cases hcan : IsPaid config current stake
    · exact absurd hdue (Nat.not_le_of_lt (lt_recalcBlock_paidStake hinterval hnext hcan))
    · exact if_neg hcan

theorem PaidSoFar.payout (hinterval : config.recalculationInterval ≠ 0)
    (hnext : current + config.recalculationInterval < 2 ^ 32)
    (hfunded : stake.recalcBlock ≤ current → stake.amount + incomeOf config current stake ≤ u128Max)
    (hpaid : PaidSoFar config current key stake history s)
    (hround : InRound config current input.env) (hpayout : IsPayout input)
    (hstep : step s input = some s') :
    PaidSoFar config current key stake (⟨s, input⟩ :: history) s' := by
  have hleft : DueAt current key s' → ∃ cursor,
      s'.previousCalculatedRecord = some cursor ∧ T.hashedKeyFor cursor < T.hashedKeyFor key :=
    behind_of_payout hinterval hnext hround hpayout hstep hpaid.behind fun old hget hdue => by
      obtain rfl := hpaid.eq_of_due hinterval hnext hget hdue
      exact hfunded hdue
  refine ⟨?_, fun cursor hcursor hdue => ?_, fun _ hnone hdue => ?_⟩
  · rcases credits_or_get_eq hinterval hnext hround hpayout hstep key with ⟨hcredits, _⟩ | hsame
    · obtain ⟨_, old, after, hget, hcan, hagain, hafter⟩ := hcredits
      obtain rfl : s' = after := Option.some.inj (hstep.symm.trans hagain)
      right
      rw [hafter, hpaid.eq_of_due hinterval hnext hget hcan.1]
    · rw [hsame]
      exact hpaid.get
  · obtain ⟨other, hother, hlt⟩ := hleft hdue
    rw [hcursor] at hother
    cases hother
    exact hlt
  · obtain ⟨other, hother, _⟩ := hleft hdue
    rw [hnone] at hother
    cases hother

theorem PaidSoFar.untouched (hpaid : PaidSoFar config current key stake history s)
    (hother : ¬ IsPayout input) (hstep : step s input = some s')
    (hsame : s'.staked.get key = s.staked.get key) :
    PaidSoFar config current key stake (⟨s, input⟩ :: history) s' := by
  have hcursor := cursor_eq_of_step hstep hother
  have hdue : DueAt current key s' ↔ DueAt current key s := by
    unfold DueAt
    rw [hsame]
  refine ⟨hsame ▸ hpaid.get, ?_, fun hpayout hnone => ?_⟩
  · rw [hcursor, hdue]
    exact hpaid.behind
  · rw [hdue]
    refine hpaid.done ?_ (hcursor ▸ hnone)
    obtain ⟨event, hevent, hcall⟩ := hpayout
    rcases List.mem_cons.mp hevent with rfl | hevent
    · exact absurd hcall hother
    · exact ⟨event, hevent, hcall⟩

end PaidSoFar

/-- A complete round pays a record once. -/
theorem CompleteRound.get (hcomplete : CompleteRound config relayBlock key s s')
    (hnext : getCurrentRecalcBlock config relayBlock + config.recalculationInterval < 2 ^ 32)
    (hget : s.staked.get key = some stake)
    (hfunded : stake.recalcBlock ≤ getCurrentRecalcBlock config relayBlock →
      stake.amount + incomeOf config (getCurrentRecalcBlock config relayBlock) stake ≤ u128Max) :
    s'.staked.get key = some (paidStake config (getCurrentRecalcBlock config relayBlock)
      (followingRecalcBlock config (getCurrentRecalcBlock config relayBlock)) stake) := by
  obtain ⟨history, hrun, hpayout, hcalls⟩ := hcomplete.calls
  have hinterval : config.recalculationInterval ≠ 0 := by
    obtain ⟨event, hevent, hcall⟩ := hpayout
    obtain ⟨_, after, _, hstep⟩ := hrun.of_mem hevent
    rw [← ((hcalls event hevent).1 hcall).config_eq]
    exact (paysPage_of_step hcall hstep).1
  have hpaid : PaidSoFar config (getCurrentRecalcBlock config relayBlock) key stake history s' := by
    have hopens := hcomplete.opens
    have hcloses := hcomplete.closes
    clear hcomplete hpayout hcloses
    induction hrun with
    | start => exact ⟨.inl hget, fun cursor hcursor => by simp [hopens] at hcursor, by simp⟩
    | @accepted _ middle _ input hrun hstep ih =>
      have hbefore := ih fun event hevent => hcalls event (List.mem_cons_of_mem _ hevent)
      obtain ⟨hround, hsame⟩ := hcalls ⟨middle, input⟩ (List.mem_cons_self ..)
      by_cases hcall : IsPayout input
      · exact hbefore.payout hinterval hnext hfunded (hround hcall) hcall hstep
      · exact hbefore.untouched hcall hstep (hsame hcall _ hstep)
    | rejected _ _ ih => exact ih hcalls
  -- at the end, the record is not due
  rcases hpaid.get with hsame | hafter
  · have hnot : ¬ stake.recalcBlock ≤ getCurrentRecalcBlock config relayBlock := fun hdue =>
      hpaid.done hpayout hcomplete.closes ⟨stake, hsame, hdue⟩
    rw [paidStake_of_not_due (Nat.lt_of_not_le hnot)]
    exact hsame
  · exact hafter

/-- Complete rounds one after the other, at relay blocks that do not decrease: from a
state at one relay block to a state at another. -/
inductive Rounds (config : PalletConfiguration) (key : Key T) (first : ℕ) (start : State T) :
    ℕ → State T → Prop
  | start : Rounds config key first start first start
  | round {earlier relayBlock : ℕ} {s s' : State T}
      (hrounds : Rounds config key first start earlier s) (hle : earlier ≤ relayBlock)
      (hround : CompleteRound config relayBlock key s s') :
      Rounds config key first start relayBlock s'

/-- A record with index `index` after complete rounds up to a relay block. -/
theorem Rounds.get {index amount first last : ℕ} {start : State T}
    (hrounds : Rounds config key first start last s) (hinterval : 0 < config.recalculationInterval)
    (hget : start.staked.get key = some ⟨amount, (index + 1) * config.recalculationInterval⟩)
    (hindex : first / config.recalculationInterval ≤ index)
    (hnext : (last / config.recalculationInterval + 1) * config.recalculationInterval < 2 ^ 32)
    (hfits : (grow config.intervalIncome)^[last / config.recalculationInterval - index] amount ≤
      u128Max) :
    s.staked.get key =
      some ⟨(grow config.intervalIncome)^[last / config.recalculationInterval - index] amount,
        (max index (last / config.recalculationInterval) + 1) * config.recalculationInterval⟩ := by
  induction hrounds with
  | start =>
    rw [hget, Nat.max_eq_left hindex, Nat.sub_eq_zero_of_le hindex]
    rfl
  | @round earlier relayBlock before _ _ hle hround ih =>
    have hdivided : earlier / config.recalculationInterval ≤
        relayBlock / config.recalculationInterval := Nat.div_le_div_right hle
    have hsmaller : (earlier / config.recalculationInterval + 1) * config.recalculationInterval ≤
        (relayBlock / config.recalculationInterval + 1) * config.recalculationInterval :=
      Nat.mul_le_mul_right _ (Nat.succ_le_succ hdivided)
    have hbefore := ih (Nat.lt_of_le_of_lt hsmaller hnext) (Nat.le_trans
      (grow_iterate_mono config.intervalIncome amount (Nat.sub_le_sub_right hdivided index)) hfits)
    generalize earlier / config.recalculationInterval = past at hbefore hdivided
    have hcurrent : getCurrentRecalcBlock config relayBlock =
        relayBlock / config.recalculationInterval * config.recalculationInterval := rfl
    generalize relayBlock / config.recalculationInterval = now at *
    -- the intervals of the earlier rounds and those of this one
    have hsum : (grow config.intervalIncome)^[now - max index past]
        ((grow config.intervalIncome)^[past - index] amount) =
          (grow config.intervalIncome)^[now - index] amount := by
      rw [← Function.iterate_add_apply]
      congr 2
      omega
    have hgrown : (grow config.intervalIncome)^[now - max index past]
        ((grow config.intervalIncome)^[past - index] amount) ≤ u128Max := hsum ▸ hfits
    have hpaid := paidStake_of_index hinterval hnext hgrown
    have hafter := hround.get ?_ hbefore ?_
    · rw [hafter, hcurrent, hpaid, hsum]
      congr 4
      omega
    · rw [hcurrent, ← Nat.succ_mul]
      exact hnext
    · intro hdue
      rw [hcurrent] at hdue ⊢
      rw [add_incomeOf_of_index hinterval hdue hgrown]
      exact hgrown

/-- The interest of a stake depends on the full intervals only.  A stake is made at a
relay block, and rounds with the same configuration follow, the last one at relay block
`last`.  Without an overflow, the record has grown once for every interval that begins at
the block of the stake or later and has ended at block `last`. -/
theorem interest_of_fullIntervals {env : Environment} {stakerId : T.AccountId}
    {amount last : ℕ} {before start : State T}
    (hstake : step before ⟨env, .call (.signed stakerId) (.stake amount)⟩ = some start)
    (hrounds : Rounds env.config (stakerId, env.relayBlock) env.relayBlock start last s)
    (hfirst : (env.relayBlock ⌈/⌉ env.config.recalculationInterval + 1) *
      env.config.recalculationInterval < 2 ^ 32)
    (hnext : (last / env.config.recalculationInterval + 1) *
      env.config.recalculationInterval < 2 ^ 32)
    (hfits : (grow env.config.intervalIncome)^[
        fullIntervals env.config.recalculationInterval env.relayBlock last]
      (start.staked.getD (stakerId, env.relayBlock) ⟨0, 0⟩).amount ≤ u128Max) :
    (s.staked.getD (stakerId, env.relayBlock) ⟨0, 0⟩).amount = (grow env.config.intervalIncome)^[
          fullIntervals env.config.recalculationInterval env.relayBlock last]
        (start.staked.getD (stakerId, env.relayBlock) ⟨0, 0⟩).amount := by
  obtain hstaked : Staked env stakerId amount before start := by
    cases acts_of_step hstake with
    | stake hstaked => exact hstaked
  have hinterval := Nat.pos_of_ne_zero hstaked.interval_ne_zero
  have hget : start.staked.get (stakerId, env.relayBlock) = some
      ⟨(before.staked.getD (stakerId, env.relayBlock) ⟨0, 0⟩).amount + amount,
        (env.relayBlock ⌈/⌉ env.config.recalculationInterval + 1) *
          env.config.recalculationInterval⟩ := by
    rw [hstaked.staked, FiniteMap.get_insert_self, firstRecalcBlock_eq hinterval hfirst]
  have hindex : env.relayBlock / env.config.recalculationInterval ≤
      env.relayBlock ⌈/⌉ env.config.recalculationInterval := by
    rw [← Nat.floorDiv_eq_div]
    exact floorDiv_le_ceilDiv
  rw [FiniteMap.getD_of_get hget, fullIntervals_eq hinterval] at hfits ⊢
  rw [FiniteMap.getD_of_get (hrounds.get hinterval hget hindex hnext hfits)]

/-! ## Examples -/

/-- One payout that reaches the end is a complete round. -/
theorem completeRound_of_step {input : Input T}
    (hround : InRound config (getCurrentRecalcBlock config relayBlock) input.env)
    (hpayout : IsPayout input) (hstep : step s input = some s')
    (hopens : s.previousCalculatedRecord = none) (hcloses : s'.previousCalculatedRecord = none) :
    CompleteRound config relayBlock key s s' where
  opens := hopens
  closes := hcloses
  calls := by
    refine ⟨[⟨s, input⟩], .accepted .start hstep, ⟨_, List.mem_singleton_self _, hpayout⟩, ?_⟩
    intro event hevent
    obtain rfl := List.mem_singleton.mp hevent
    exact ⟨fun _ => hround, fun hother => absurd hpayout hother⟩

namespace Reference

/-- A stake of 200 at relay block 1. -/
def lateStake : Input Reference.config := signed (blockAt 1 1 1) 2 (.stake 200)

/-- A round at a relay block. -/
def roundAt (relayBlock : ℕ) : Input Reference.config :=
  signed (blockAt relayBlock 2 1) 1 (.payoutStakers none)

def appointed : State Reference.config :=
  (step (genesis (ledger 100000)) (appoint 1)).get (by decide +kernel)

def staked : State Reference.config := (step appointed lateStake).get (by decide +kernel)

def paidAt25 : State Reference.config := (step staked (roundAt 25)).get (by decide +kernel)

def paidAt45 : State Reference.config := (step paidAt25 (roundAt 45)).get (by decide +kernel)

theorem rounds_lateStake : Rounds (blockAt 1 1 1).config ((2 : ℕ), 1) 1 staked 45 paidAt45 := by
  have hfirst : step staked (roundAt 25) = some paidAt25 := (Option.some_get _).symm
  have hsecond : step paidAt25 (roundAt 45) = some paidAt45 := (Option.some_get _).symm
  have hround25 : CompleteRound (blockAt 1 1 1).config 25 ((2 : ℕ), 1) staked paidAt25 := by
    refine completeRound_of_step ⟨rfl, rfl⟩ ⟨_, _, rfl⟩ hfirst ?_ ?_
    · decide +kernel
    · decide +kernel
  have hround45 : CompleteRound (blockAt 1 1 1).config 45 ((2 : ℕ), 1) paidAt25 paidAt45 := by
    refine completeRound_of_step ⟨rfl, rfl⟩ ⟨_, _, rfl⟩ hsecond ?_ ?_
    · decide +kernel
    · decide +kernel
  exact .round (.round .start (by decide) hround25) (by decide) hround45

end Reference

open Reference in
/-- A stake at block 1 with rounds at blocks 25 and 45 earns for the intervals from
block 10, 20 and 30 on. -/
theorem interest_of_lateStake :
    fullIntervals 10 1 45 = 3 ∧
      (paidAt45.staked.getD ((2 : ℕ), 1) ⟨0, 0⟩).amount = (grow (.ofPercent 1))^[3] 200 ∧
      (paidAt45.staked.getD ((2 : ℕ), 1) ⟨0, 0⟩).amount = 206 := by
  have hstake : step appointed lateStake = some staked := (Option.some_get _).symm
  have hcount : fullIntervals 10 1 45 = 3 := by
    decide +kernel
  have hamount : (staked.staked.getD ((2 : ℕ), 1) ⟨0, 0⟩).amount = 200 := by
    decide +kernel
  have hall := interest_of_fullIntervals hstake rounds_lateStake (by decide) (by decide)
    (by decide +kernel)
  refine ⟨hcount, ?_, by decide +kernel⟩
  rw [← hcount, ← hamount]
  exact hall

end UniqueChain.AppPromotion
