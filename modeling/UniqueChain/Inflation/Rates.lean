import Mathlib.Data.Nat.Cast.Field
import Mathlib.Tactic.FieldSimp
import UniqueChain.Inflation.Schedule

/-!
# The announced inflation

The announced inflation falls from ten to four percent of the total issuance over
nine years and stays there.  The pallet pays it in equal parts, one for every interval
of the year, and computes a part with two roundings: the rate of an interval is rounded
down to billionths, and one percent of the issuance as well as the product are rounded
to the nearest integer.

`exactRate` is the rate of an interval before rounding.  The rounded rate is less than
a billionth below it (`intervalRate_near`), so a part is off by at most one, and on the
lower side by the billionth of a percent of the issuance (`intervalInflation_le`,
`le_intervalInflation`).  A year of parts is off by as many ones as it has intervals.
-/

namespace UniqueChain.Inflation

variable {T : Config}

/-- The percentage announced for a year of the schedule. -/
def announcedPercent (currentYear : ℕ) : ℚ :=
  if currentYear ≤ totalYearsUntilFlat then 10 - 6 * currentYear / 9 else 4

/-- The inflation announced for a year with the given total issuance. -/
def announcedInflation (currentYear totalIssuance : ℕ) : ℚ :=
  totalIssuance * announcedPercent currentYear / 100

/-- The number of percents that an interval gets in the given year, as the ratio the
pallet computes. -/
def intervalRate (T : Config) (currentYear : ℕ) : Perbill :=
  if currentYear ≤ totalYearsUntilFlat then
    Perbill.ofRational
      (wrap (T.inflationBlockInterval * (startInflationPercent * totalYearsUntilFlat -
        currentYear * (startInflationPercent - endInflationPercent))))
      (year * totalYearsUntilFlat)
  else
    Perbill.ofRational (wrap (T.inflationBlockInterval * endInflationPercent)) year

/-- The same number of percents without rounding. -/
def exactRate (T : Config) (currentYear : ℕ) : ℚ :=
  T.inflationBlockInterval * announcedPercent currentYear / year

theorem intervalInflation_eq (currentYear totalIssuance : ℕ) :
    intervalInflation T currentYear totalIssuance =
      (intervalRate T currentYear).mul ((Perbill.ofPercent 1).mul totalIssuance) := by
  unfold intervalInflation intervalRate
  split
  · rfl
  · rfl

/-! ## The rate of an interval -/

theorem announcedPercent_antitone : Antitone announcedPercent := by
  intro earlier later hle
  have hle : (earlier : ℚ) ≤ later := by exact_mod_cast hle
  unfold announcedPercent totalYearsUntilFlat
  split <;> split
  · linarith
  · linarith
  · rename_i hearlier
    have hearlier : (earlier : ℚ) ≤ 9 := by exact_mod_cast hearlier
    linarith
  · exact le_rfl

theorem year_eq : year = 5259600 := by decide

/-- The factor of the interval in the numerator of the rate.  From the ninth year on
it does not change any more. -/
def numeratorPercent (currentYear : ℕ) : ℕ :=
  startInflationPercent * totalYearsUntilFlat -
    min currentYear totalYearsUntilFlat * (startInflationPercent - endInflationPercent)

theorem numeratorPercent_antitone : Antitone numeratorPercent := by
  intro earlier later hle
  unfold numeratorPercent
  exact Nat.sub_le_sub_left (Nat.mul_le_mul_right _ (min_le_min_right _ hle)) _

theorem numeratorPercent_cast (currentYear : ℕ) :
    (numeratorPercent currentYear : ℚ) = 9 * announcedPercent currentYear := by
  unfold numeratorPercent announcedPercent
  by_cases hyear : currentYear ≤ totalYearsUntilFlat
  · have hsub : currentYear * (startInflationPercent - endInflationPercent) ≤
        startInflationPercent * totalYearsUntilFlat := by
      unfold startInflationPercent endInflationPercent totalYearsUntilFlat at *
      omega
    rw [min_eq_left hyear, if_pos hyear, Nat.cast_sub hsub]
    unfold startInflationPercent endInflationPercent totalYearsUntilFlat
    push_cast
    ring
  · rw [min_eq_right (Nat.le_of_not_le hyear), if_neg hyear]
    norm_num [startInflationPercent, endInflationPercent, totalYearsUntilFlat]

section

variable (hlimit : 10 * T.inflationBlockInterval ≤ year)

include hlimit

/-- With at least ten intervals a year the rate is at most one. -/
theorem mul_numeratorPercent_le (currentYear : ℕ) :
    T.inflationBlockInterval * numeratorPercent currentYear ≤ year * totalYearsUntilFlat :=
  calc T.inflationBlockInterval * numeratorPercent currentYear
      ≤ T.inflationBlockInterval * 90 := Nat.mul_le_mul_left _ (Nat.sub_le _ _)
    _ ≤ year * totalYearsUntilFlat := by
        unfold totalYearsUntilFlat
        omega

/-- The two branches of the code are one quotient. -/
theorem intervalRate_eq (currentYear : ℕ) :
    intervalRate T currentYear =
      Perbill.ofRational (T.inflationBlockInterval * numeratorPercent currentYear)
        (year * totalYearsUntilFlat) := by
  have hle := mul_numeratorPercent_le hlimit currentYear
  unfold intervalRate
  by_cases hyear : currentYear ≤ totalYearsUntilFlat
  · rw [numeratorPercent, min_eq_left hyear] at *
    rw [if_pos hyear, wrap_of_lt (hle.trans_lt (by decide))]
  · have hflat : T.inflationBlockInterval * numeratorPercent currentYear =
        T.inflationBlockInterval * endInflationPercent * totalYearsUntilFlat := by
      rw [numeratorPercent, min_eq_right (Nat.le_of_not_le hyear), Nat.mul_assoc]
      rfl
    have hlt : T.inflationBlockInterval * endInflationPercent < 2 ^ 32 := by
      rw [year_eq] at hlimit
      unfold endInflationPercent
      omega
    rw [if_neg hyear, wrap_of_lt hlt, hflat, Perbill.ofRational_mul_right _ _ (by decide)]

omit hlimit in
theorem exactRate_eq (currentYear : ℕ) :
    exactRate T currentYear =
      (T.inflationBlockInterval * numeratorPercent currentYear : ℕ) /
        (year * totalYearsUntilFlat : ℕ) := by
  rw [exactRate, Nat.cast_mul, numeratorPercent_cast, Nat.cast_mul, totalYearsUntilFlat]
  push_cast
  ring

/-- The rounded rate is less than a billionth below the exact one. -/
theorem intervalRate_near (currentYear : ℕ) :
    (intervalRate T currentYear).value ≤ exactRate T currentYear ∧
      exactRate T currentYear < (intervalRate T currentYear).value + 1 / Perbill.accuracy := by
  rw [intervalRate_eq hlimit, exactRate_eq]
  exact ⟨Perbill.value_ofRational_le _ _,
    Perbill.lt_value_ofRational (mul_numeratorPercent_le hlimit currentYear) (by decide)⟩

/-- The rate never rises. -/
theorem intervalRate_antitone {earlier later : ℕ}
    (hle : earlier ≤ later) : (intervalRate T later).parts ≤ (intervalRate T earlier).parts := by
  rw [intervalRate_eq hlimit, intervalRate_eq hlimit]
  exact Perbill.ofRational_mono (Nat.mul_le_mul_left _ (numeratorPercent_antitone hle)) _

/-- There is no jump at the change to the flat rate. -/
theorem intervalRate_of_flat {currentYear : ℕ} (hflat : totalYearsUntilFlat ≤ currentYear) :
    intervalRate T currentYear = intervalRate T totalYearsUntilFlat := by
  rw [intervalRate_eq hlimit, intervalRate_eq hlimit, numeratorPercent, min_eq_right hflat]
  rfl

/-! ## The payment of an interval -/

omit hlimit in
/-- One percent, rounded to the nearest integer. -/
theorem onePercent_near (totalIssuance : ℕ) :
    ((Perbill.ofPercent 1).mul totalIssuance : ℚ) ≤ totalIssuance / 100 + 1 / 2 ∧
      (totalIssuance / 100 : ℚ) ≤ (Perbill.ofPercent 1).mul totalIssuance + 1 / 2 := by
  have hvalue : (Perbill.ofPercent 1).value = 1 / 100 := by
    norm_num [Perbill.value, Perbill.ofPercent, Perbill.accuracy]
  have hupper := (Perbill.ofPercent 1).mul_le_value_mul totalIssuance
  have hlower := (Perbill.ofPercent 1).value_mul_le totalIssuance
  rw [hvalue] at hupper hlower
  constructor
  · linarith
  · linarith

theorem intervalInflation_le (currentYear totalIssuance : ℕ) :
    (intervalInflation T currentYear totalIssuance : ℚ) ≤
      exactRate T currentYear * (totalIssuance / 100) + 1 := by
  rw [intervalInflation_eq]
  set percent := (Perbill.ofPercent 1).mul totalIssuance
  set rate := intervalRate T currentYear
  have hpercent : (percent : ℚ) ≤ totalIssuance / 100 + 1 / 2 := (onePercent_near _).1
  calc (rate.mul percent : ℚ)
      ≤ rate.value * percent + 1 / 2 := rate.mul_le_value_mul percent
    _ ≤ rate.value * (totalIssuance / 100 + 1 / 2) + 1 / 2 := by
        have := mul_le_mul_of_nonneg_left hpercent rate.value_nonneg
        linarith
    _ ≤ exactRate T currentYear * (totalIssuance / 100) + 1 := by
        have hshare := mul_le_mul_of_nonneg_right (intervalRate_near hlimit currentYear).1
          (show (0 : ℚ) ≤ totalIssuance / 100 by positivity)
        have hone := rate.value_le_one
        linarith

theorem le_intervalInflation (currentYear totalIssuance : ℕ) :
    exactRate T currentYear * (totalIssuance / 100) - 1 - totalIssuance / 10 ^ 11 ≤
      intervalInflation T currentYear totalIssuance := by
  rw [intervalInflation_eq]
  set percent := (Perbill.ofPercent 1).mul totalIssuance
  set rate := intervalRate T currentYear
  have hpercent : (totalIssuance / 100 : ℚ) ≤ percent + 1 / 2 := (onePercent_near _).2
  -- the rate lost less than a billionth
  have hshare : exactRate T currentYear * (totalIssuance / 100) ≤
      (rate.value + 1 / Perbill.accuracy) * (totalIssuance / 100) :=
    mul_le_mul_of_nonneg_right (intervalRate_near hlimit currentYear).2.le (by positivity)
  have hrounded : rate.value * (totalIssuance / 100) ≤ rate.value * (percent + 1 / 2) :=
    mul_le_mul_of_nonneg_left hpercent rate.value_nonneg
  have hproduct := rate.value_mul_le percent
  have hone := rate.value_le_one
  have haccuracy : (Perbill.accuracy : ℚ) = 10 ^ 9 := by norm_num [Perbill.accuracy]
  rw [haccuracy] at hshare
  linarith

end

/-! ## A year of payments -/

/-- The exact rate of all intervals of a year is the announced percentage. -/
theorem intervals_mul_exactRate (hpos : 0 < T.inflationBlockInterval)
    (hdivides : T.inflationBlockInterval ∣ year) (currentYear : ℕ) :
    (year / T.inflationBlockInterval : ℕ) * exactRate T currentYear =
      announcedPercent currentYear := by
  have hinterval : (T.inflationBlockInterval : ℚ) ≠ 0 := by exact_mod_cast hpos.ne'
  have hyear : (year : ℚ) ≠ 0 := by exact_mod_cast year_pos.ne'
  rw [Nat.cast_div hdivides hinterval, exactRate]
  field_simp

theorem intervals_mul_announced (hpos : 0 < T.inflationBlockInterval)
    (hdivides : T.inflationBlockInterval ∣ year) (currentYear totalIssuance : ℕ) :
    (year / T.inflationBlockInterval : ℕ) *
        (exactRate T currentYear * (totalIssuance / 100)) =
      announcedInflation currentYear totalIssuance := by
  rw [← mul_assoc, intervals_mul_exactRate hpos hdivides, announcedInflation]
  ring

/-- The products that the code computes for the rate of a year are those of whole
numbers: each of them fits into its type, and the subtraction does not go below zero. -/
structure ProductsFit (T : Config) (currentYear : ℕ) : Prop where
  denominator : year * totalYearsUntilFlat < 2 ^ 32
  flat : T.inflationBlockInterval * endInflationPercent < 2 ^ 32
  decrease : currentYear ≤ totalYearsUntilFlat →
    currentYear * (startInflationPercent - endInflationPercent) ≤
      startInflationPercent * totalYearsUntilFlat
  numerator : T.inflationBlockInterval * (startInflationPercent * totalYearsUntilFlat -
    currentYear * (startInflationPercent - endInflationPercent)) < 2 ^ 32

theorem productsFit (hlimit : 10 * T.inflationBlockInterval ≤ year) (currentYear : ℕ) :
    ProductsFit T currentYear := by
  rw [year_eq] at hlimit
  refine ⟨by decide, ?_, ?_, ?_⟩
  · unfold endInflationPercent
    omega
  · unfold startInflationPercent endInflationPercent totalYearsUntilFlat
    omega
  · calc T.inflationBlockInterval * (startInflationPercent * totalYearsUntilFlat -
          currentYear * (startInflationPercent - endInflationPercent))
        ≤ T.inflationBlockInterval * 90 := Nat.mul_le_mul_left _ (Nat.sub_le _ _)
      _ < 2 ^ 32 := by omega

/-- The payments of all the intervals of a year against what was announced. -/
theorem yearlyInflation_near (hpos : 0 < T.inflationBlockInterval)
    (hdivides : T.inflationBlockInterval ∣ year) (hlimit : 10 * T.inflationBlockInterval ≤ year)
    (currentYear totalIssuance : ℕ) :
    ((year / T.inflationBlockInterval : ℕ) * intervalInflation T currentYear totalIssuance : ℚ) ≤
        announcedInflation currentYear totalIssuance + (year / T.inflationBlockInterval : ℕ) ∧
      announcedInflation currentYear totalIssuance - (year / T.inflationBlockInterval : ℕ) -
          (year / T.inflationBlockInterval : ℕ) * totalIssuance / 10 ^ 11 ≤
        (year / T.inflationBlockInterval : ℕ) * intervalInflation T currentYear totalIssuance := by
  rw [← intervals_mul_announced hpos hdivides currentYear totalIssuance]
  set intervals : ℚ := ((year / T.inflationBlockInterval : ℕ) : ℚ)
  have hintervals : 0 ≤ intervals := Nat.cast_nonneg _
  constructor
  · have hupper := mul_le_mul_of_nonneg_left
      (intervalInflation_le hlimit currentYear totalIssuance) hintervals
    linarith
  · have hlower := mul_le_mul_of_nonneg_left
      (le_intervalInflation hlimit currentYear totalIssuance) hintervals
    linarith

/-- A recalculation sets the payment of an interval so that the payments of all the
intervals of a year add up to the announced inflation: at most by one per interval
above it, and at most by one per interval and the billionth of a percent of the total
issuance per interval below it.  No product overflows, and the rates fall without a
jump to the flat one. -/
theorem yearly_inflation_announced (hpos : 0 < T.inflationBlockInterval)
    (hdivides : T.inflationBlockInterval ∣ year) (hlimit : 10 * T.inflationBlockInterval ≤ year)
    (currentYear : ℕ) :
    (∀ env block s, yearOf s block = currentYear →
      (recalculateInflation T env block s).blockInflation = (intervalRate T currentYear).mul
            ((Perbill.ofPercent 1).mul env.totalIssuance) ∧
        ((year / T.inflationBlockInterval : ℕ) *
            (recalculateInflation T env block s).blockInflation : ℚ) ≤
          announcedInflation currentYear env.totalIssuance + (year / T.inflationBlockInterval : ℕ) ∧
        announcedInflation currentYear env.totalIssuance - (year / T.inflationBlockInterval : ℕ) -
            (year / T.inflationBlockInterval : ℕ) * env.totalIssuance / 10 ^ 11 ≤
          (year / T.inflationBlockInterval : ℕ) *
            (recalculateInflation T env block s).blockInflation) ∧
      ProductsFit T currentYear ∧
      (∀ later, currentYear ≤ later →
        announcedPercent later ≤ announcedPercent currentYear ∧
          (intervalRate T later).parts ≤ (intervalRate T currentYear).parts) ∧
      (totalYearsUntilFlat ≤ currentYear →
        announcedPercent currentYear = announcedPercent totalYearsUntilFlat ∧
          intervalRate T currentYear = intervalRate T totalYearsUntilFlat) := by
  refine ⟨?_, productsFit hlimit currentYear, ?_, ?_⟩
  · rintro env block s rfl
    exact ⟨intervalInflation_eq _ _, yearlyInflation_near hpos hdivides hlimit _ _⟩
  · intro later hlater
    exact ⟨announcedPercent_antitone hlater, intervalRate_antitone hlimit hlater⟩
  · intro hflat
    refine ⟨?_, intervalRate_of_flat hlimit hflat⟩
    -- at the ninth year the falling percentage is the flat one
    have hninth : announcedPercent totalYearsUntilFlat = 4 := by
      norm_num [announcedPercent, totalYearsUntilFlat]
    unfold announcedPercent at *
    split
    · rename_i hyear
      rw [show currentYear = totalYearsUntilFlat from Nat.le_antisymm hyear hflat, ← hninth]
      simp
    · exact hninth.symm

/-- The bounds for the third year of a chain that pays every hundred relay blocks. -/
theorem yearly_inflation_announced_third :
    ProductsFit ScheduleExample.config 2 ∧ ∀ env block s, yearOf s block = 2 →
        (52596 * (recalculateInflation ScheduleExample.config env block s).blockInflation : ℚ) ≤
          announcedInflation 2 env.totalIssuance + 52596 := by
  have hall := yearly_inflation_announced (T := ScheduleExample.config) (by decide) (by decide)
    (by decide) 2
  refine ⟨hall.2.1, fun env block s hyear => ?_⟩
  have hupper := (hall.1 env block s hyear).2.1
  norm_num [ScheduleExample.config, year_eq] at hupper
  exact hupper

end UniqueChain.Inflation
