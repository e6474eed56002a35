import UniqueChain.Promotion.Effects
import UniqueChain.Promotion.Reference

/-!
# Panics of the staking calls

Governance may override the recalculation interval, by which `stake` and `payout_stakers`
divide, with any number.  The calls panic exactly if it is zero and nothing refuses them
before the division.  The payout also subtracts block numbers, but only after it has
compared them.
-/

namespace UniqueChain.AppPromotion

open Execution

section

variable {T : Config} {s : State T} {env : Environment} {stakerId adminId : T.AccountId}
  {amount : ℕ} {number : Option ℕ} {config : PalletConfiguration}
  {current nextBlock : ℕ} {accrual : Accrual T}

/-- The errors that are no panics. -/
abbrev NoPanic {σ α : Type} (body : Execution Error σ α) : Prop := FailsWithin (· ≠ .panicked) body

/-! ## Staking -/

/-- The checks of a stake before the division. -/
structure MayStake (s : State T) (stakerId : T.AccountId) (amount : ℕ) : Prop where
  counted : s.stakesPerAccount.getD stakerId 0 < 10
  large : 100 * T.nominal ≤ amount
  free : ∃ free, freeBalance s stakerId = some free ∧ amount ≤ free
  frozen : frozenOf s stakerId + amount ≤ u128Max

theorem noPanic_addFreezeBalance : NoPanic (addFreezeBalance stakerId amount) :=
  .bind .read fun _ => .bind (.okOr (by decide)) fun _ => .update

theorem stake_panics_iff : (∃ s', (stake env stakerId amount).run s = .error .panicked s') ↔
      MayStake s stakerId amount ∧ env.config.recalculationInterval = 0 := by
  unfold stake
  simp only [read_bind_error]
  constructor
  · rintro ⟨s', hrun⟩
    obtain ⟨_, ⟨⟩, _⟩ | ⟨hcount, hrun⟩ := ensure_bind_error.mp hrun
    obtain ⟨_, ⟨⟩, _⟩ | ⟨hlarge, hrun⟩ := ensure_bind_error.mp hrun
    obtain ⟨_, ⟨⟩, _⟩ | ⟨free, hfree, hrun⟩ := okOr_bind_error.mp hrun
    obtain ⟨_, ⟨⟩, _⟩ | ⟨hle, hrun⟩ := ensure_bind_error.mp hrun
    obtain hfreeze | ⟨_, _, hfreeze, hrun⟩ := bind_error.mp hrun
    · exact absurd rfl (noPanic_addFreezeBalance _ _ _ hfreeze)
    obtain ⟨hfrozen, rfl⟩ := addFreezeBalance_ok.mp hfreeze
    obtain ⟨hzero, _⟩ | ⟨_, hrun⟩ := ensure_bind_error.mp hrun
    · exact ⟨⟨hcount, hlarge, ⟨free, hfree, hle⟩, hfrozen⟩, not_not.mp hzero⟩
    · -- what comes after the division can overflow, but not panic
      refine absurd rfl (FailsWithin.bind (P := (· ≠ Error.panicked)) (.okOr (by decide))
        (fun _ => ?_) _ _ _ hrun)
      refine .bind .update fun _ => .bind (.okOr (by decide)) fun _ => ?_
      exact .bind .update fun _ => .update
  · rintro ⟨⟨hcount, hlarge, ⟨free, hfree, hle⟩, hfrozen⟩, hzero⟩
    refine ⟨setFreezeWithResult stakerId (frozenOf s stakerId + amount) s, ?_⟩
    refine ensure_bind_error.mpr (.inr ⟨hcount, ensure_bind_error.mpr (.inr ⟨hlarge, ?_⟩)⟩)
    refine okOr_bind_error.mpr (.inr ⟨free, hfree, ensure_bind_error.mpr (.inr ⟨hle, ?_⟩)⟩)
    refine bind_error.mpr (.inr ⟨(), _, addFreezeBalance_ok.mpr ⟨hfrozen, rfl⟩, ?_⟩)
    exact ensure_bind_error.mpr (.inl ⟨not_not.mpr hzero, rfl, rfl⟩)

/-! ## Unstaking -/

theorem noPanic_unstakeAllInternal : NoPanic (unstakeAllInternal env stakerId) := by
  refine .bind .read fun s => .bind (.ensure (by decide)) fun _ => .bind .update fun _ => ?_
  refine .ite .pure (.bind (.okOr (by decide)) fun _ => ?_)
  exact .bind .update fun _ => .update

theorem noPanic_unstakePartialInternal :
    NoPanic (unstakePartialInternal (T := T) env stakerId amount) := by
  refine .ite .pure (.bind .read fun s => .bind (.ensure (by decide)) fun _ => ?_)
  refine .bind (.ensure (by decide)) fun _ => .bind (.okOr (by decide)) fun _ => ?_
  exact .bind (.okOr (by decide)) fun _ => .bind .update fun _ => .update

/-! ## Paying out -/

theorem noPanic_flushStake (accrual : Accrual T) : NoPanic (flushStake accrual) := by
  unfold flushStake
  split
  · exact .pure
  · refine .ite (.bind .read fun s => .bind (.okOr (by decide)) fun _ => ?_) .pure
    refine .bind .update fun _ => .bind noPanic_addFreezeBalance fun _ => .bind .read fun _ => ?_
    exact .bind (.okOr (by decide)) fun _ => .bind .update fun _ => .bind .update fun _ => .pure

theorem noPanic_recalculateAndInsertStake {key : Key T} {base income : ℕ} :
    NoPanic (recalculateAndInsertStake key nextBlock base income accrual) := by
  unfold recalculateAndInsertStake
  split
  · exact .bind .update fun _ => .pure
  · exact .pure

theorem noPanic_payRecord {entry : Key T × Stake} :
    NoPanic (payRecord config current nextBlock entry accrual) := by
  unfold payRecord accrueRecord
  exact .bind (.ite noPanic_recalculateAndInsertStake .pure) fun _ => .pure

theorem noPanic_payoutLoop {stakers : ℕ} {records : List (Key T × Stake)} :
    NoPanic (payoutLoop config current nextBlock stakers accrual records) := by
  induction records generalizing stakers accrual with
  | nil => exact .bind (noPanic_flushStake accrual) fun _ => .pure
  | cons entry rest ih =>
    refine .ite (.bind noPanic_payRecord fun _ => ih) (.ite ?_ ?_)
    · exact .bind (noPanic_flushStake accrual) fun _ => .bind noPanic_payRecord fun _ => ih
    · have hflush : NoPanic (flushStake accrual >>= fun _ => pure ()) :=
        .bind (noPanic_flushStake accrual) fun _ => .pure
      dsimp only
      split
      · exact .bind .update fun _ => hflush
      · exact hflush

/-- The checks of a payout before the division. -/
structure MayPayout (env : Environment) (s : State T) (adminId : T.AccountId)
    (number : Option ℕ) : Prop where
  admin : s.admin = some adminId
  few : number.getD defaultNumberPayouts ≤ env.config.maxStakersPerCalculation
  some : number.getD defaultNumberPayouts ≠ 0

theorem payoutStakers_panics_iff :
    (∃ s', (payoutStakers env adminId number).run s = .error .panicked s') ↔
      MayPayout env s adminId number ∧ env.config.recalculationInterval = 0 := by
  unfold payoutStakers
  simp only [read_bind_error]
  constructor
  · rintro ⟨s', hrun⟩
    obtain ⟨_, ⟨⟩, _⟩ | ⟨admin, hadmin, hrun⟩ := okOr_bind_error.mp hrun
    obtain ⟨_, ⟨⟩, _⟩ | ⟨hsigner, hrun⟩ := ensure_bind_error.mp hrun
    obtain ⟨_, ⟨⟩, _⟩ | ⟨⟨hfew, hsome⟩, hrun⟩ := ensure_bind_error.mp hrun
    obtain ⟨hzero, _⟩ | ⟨_, hrun⟩ := ensure_bind_error.mp hrun
    · exact ⟨⟨hsigner ▸ hadmin, hfew, hsome⟩, not_not.mp hzero⟩
    · rw [read_bind_error, update_bind_error] at hrun
      exact absurd rfl (noPanic_payoutLoop _ _ _ hrun)
  · rintro ⟨⟨hadmin, hfew, hsome⟩, hzero⟩
    refine ⟨s, okOr_bind_error.mpr (.inr ⟨adminId, hadmin, ?_⟩)⟩
    refine ensure_bind_error.mpr (.inr ⟨rfl, ensure_bind_error.mpr (.inr ⟨⟨hfew, hsome⟩, ?_⟩)⟩)
    exact ensure_bind_error.mpr (.inl ⟨not_not.mpr hzero, rfl, rfl⟩)

/-- The step of the payout for one record, with the subtraction of the block numbers and the
division as operations that may panic. -/
def accrueRecordOrPanic (config : PalletConfiguration) (current nextBlock : ℕ)
    (entry : Key T × Stake) (accrual : Accrual T) : Execution Error (State T) (Accrual T) :=
  if entry.2.recalcBlock ≤ current then do
    let elapsed ← okOr (checkedSub current entry.2.recalcBlock) .panicked
    ensure (config.recalculationInterval ≠ 0) .panicked
    recalculateAndInsertStake entry.1 nextBlock entry.2.amount
      (calculateIncome config.intervalIncome entry.2.amount
        (elapsed / config.recalculationInterval + 1))
      { accrual with amountAcc := wrapBalance (accrual.amountAcc + entry.2.amount) }
  else
    pure accrual

theorem accrueRecordOrPanic_eq (hinterval : config.recalculationInterval ≠ 0)
    (entry : Key T × Stake) (accrual : Accrual T) :
    accrueRecordOrPanic config current nextBlock entry accrual =
      accrueRecord config current nextBlock entry accrual := by
  unfold accrueRecordOrPanic accrueRecord
  split
  · rename_i hdue
    simp only [checkedSub, if_pos hdue, okOr, ensure, if_pos hinterval, pure_bind, incomeOf,
      dueIntervals]
  · rfl

/-! ## The calls -/

/-- Whatever governance has set, the unstaking calls do not panic; a stake and a payout do not
exactly if the interval that results is not zero or one of their checks refuses them.  With
such an interval no subtraction or division in the payout panics. -/
theorem staking_calls_panic_iff {recalculationInterval pendingInterval : ℕ}
    {intervalIncome : Perbill} {origin : Origin T}
    {stored after configuration : AppPromotionConfiguration}
    (haccepted : (setAppPromotionConfigurationOverride origin configuration).run stored =
      .ok () after)
    (hconfig : env.config = .get recalculationInterval pendingInterval intervalIncome after)
    (s : State T) (who : T.AccountId) :
    (∀ s', (Call.unstakeAll.execute env (.signed who)).run s ≠ .error .panicked s') ∧
    (∀ amount s', ((Call.unstakePartial amount).execute env (.signed who)).run s ≠
      .error .panicked s') ∧
    (∀ amount, (∀ s', ((Call.stake amount).execute env (.signed who)).run s ≠ .error .panicked s') ↔
      (MayStake s who amount →
        configuration.recalculationInterval.getD recalculationInterval ≠ 0)) ∧
    (∀ number, (∀ s', ((Call.payoutStakers number).execute env (.signed who)).run s ≠
        .error .panicked s') ↔
      (MayPayout env s who number →
        configuration.recalculationInterval.getD recalculationInterval ≠ 0)) ∧
    (configuration.recalculationInterval.getD recalculationInterval ≠ 0 →
      ∀ current nextBlock (entry : Key T × Stake) accrual,
        accrueRecordOrPanic env.config current nextBlock entry accrual =
          accrueRecord env.config current nextBlock entry accrual) := by
  have hinterval : env.config.recalculationInterval =
      configuration.recalculationInterval.getD recalculationInterval := by
    cases origin with
    | root =>
      obtain rfl := update_ok.mp haccepted
      rw [hconfig]
      rfl
    | signed signer => exact absurd haccepted fail_ok
  rw [← hinterval]
  refine ⟨?_, ?_, fun amount => ?_, fun number => ?_, ?_⟩
  · exact fun s' hrun => noPanic_unstakeAllInternal _ _ _ hrun rfl
  · exact fun amount s' hrun => noPanic_unstakePartialInternal _ _ _ hrun rfl
  · rw [← not_exists, imp_iff_not_or, ← not_and_or]
    exact not_congr stake_panics_iff
  · rw [← not_exists]
    exact (not_congr payoutStakers_panics_iff).trans not_and
  · exact fun hne _ _ => accrueRecordOrPanic_eq hne

end

namespace Reference

/-- Only the interval is overridden. -/
def withInterval (interval : Option ℕ) : AppPromotionConfiguration := ⟨interval, none, none, none⟩

/-- A block with the configuration that results. -/
def blockWith (interval : Option ℕ) : Environment where
  relayBlock := 1
  blockNumber := 1
  config := .get 10 5 (.ofPercent 1) (withInterval interval)
  isMaintenanceModeEnabled := false

/-- Account 1 is the admin. -/
def withAdmin : State config := { genesis (ledger 100000) with admin := some (1 : ℕ) }

end Reference

open Reference in
theorem staking_calls_panic_iff_default :
    (blockWith none).config.recalculationInterval ≠ 0 ∧
    ∀ s', ((Call.stake 200).execute (blockWith none) (.signed (2 : ℕ))).run
      withAdmin ≠ .error .panicked s' := by
  have haccepted : (setAppPromotionConfigurationOverride (T := config) .root
    (withInterval none)).run (withInterval none) = .ok () (withInterval none) := rfl
  have hall := @staking_calls_panic_iff config (blockWith none) 10 5 (.ofPercent 1) _ _ _ _
    haccepted
    rfl withAdmin (2 : ℕ)
  exact ⟨by decide, (hall.2.2.1 200).mpr fun _ => by decide⟩

open Reference in
/-- An interval of zero is accepted, and then a stake and a payout divide by it. -/
theorem staking_calls_panic :
    (setAppPromotionConfigurationOverride (T := config) .root (withInterval (some 0))).run
      (withInterval none) = .ok () (withInterval (some 0)) ∧
    (∃ s', ((Call.stake 200).execute (blockWith (some 0)) (.signed (2 : ℕ))).run withAdmin =
      .error .panicked s') ∧
    ∃ s', ((Call.payoutStakers none).execute (blockWith (some 0)) (.signed (1 : ℕ))).run
      withAdmin = .error .panicked s' :=
  ⟨rfl, stake_panics_iff.mpr ⟨⟨by decide, by decide, ⟨1000, rfl, by decide⟩, by decide⟩, rfl⟩,
    payoutStakers_panics_iff.mpr ⟨⟨rfl, by decide, by decide⟩, rfl⟩⟩

end UniqueChain.AppPromotion
