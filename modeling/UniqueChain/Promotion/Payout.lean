import UniqueChain.Promotion.Effects

/-!
# What a payout does

The payout loop goes through the records that are left, account by account, and
stops before the first account for which there is no page left.  `Pays` is the
course of a loop that succeeds: one constructor for each way an iteration goes on,
with the records that were not reached.  What a payout does to the records, to the
cursor and to the freezes is proved along it.
-/

namespace UniqueChain.AppPromotion

open Execution FiniteMap

variable {T : Config} {s s' : State T} {config : PalletConfiguration}
  {current nextBlock stakers : ℕ} {accrual : Accrual T}
  {entry : Key T × Stake} {records left : List (Key T × Stake)} {rest : List (Key T × Stake)}
  {env : Environment}

/-! ## Paying one record -/

/-- A stake is due, and its income can be added to it. -/
def IsPaid (config : PalletConfiguration) (current : ℕ) (stake : Stake) : Prop :=
  stake.recalcBlock ≤ current ∧ stake.amount + incomeOf config current stake ≤ u128Max

instance (stake : Stake) : Decidable (IsPaid config current stake) :=
  inferInstanceAs (Decidable (_ ∧ _))

/-- What a payout makes of a stake. -/
def paidStake (config : PalletConfiguration) (current nextBlock : ℕ) (stake : Stake) : Stake :=
  if IsPaid config current stake then
    ⟨stake.amount + incomeOf config current stake, nextBlock⟩
  else stake

/-- The income that a payout adds to a stake. -/
def paidIncome (config : PalletConfiguration) (current : ℕ) (stake : Stake) : ℕ :=
  if IsPaid config current stake then incomeOf config current stake else 0

theorem amount_paidStake (stake : Stake) : (paidStake config current nextBlock stake).amount =
      stake.amount + paidIncome config current stake := by
  unfold paidStake paidIncome
  split <;> rfl

/-- The accrual after a record. -/
def Accrual.after (config : PalletConfiguration) (current : ℕ)
    (entry : Key T × Stake) (accrual : Accrual T) : Accrual T where
  lastId := accrual.lastId
  lastBlock := entry.1.2
  incomeAcc :=
    if IsPaid config current entry.2 then
      wrapBalance (accrual.incomeAcc + incomeOf config current entry.2)
    else accrual.incomeAcc
  amountAcc :=
    if entry.2.recalcBlock ≤ current then
      wrapBalance (accrual.amountAcc + entry.2.amount)
    else accrual.amountAcc

/-- The state after a record. -/
def State.payStake (config : PalletConfiguration) (current nextBlock : ℕ)
    (entry : Key T × Stake) (s : State T) : State T :=
  if IsPaid config current entry.2 then
    { s with
      staked := s.staked.insert entry.1 (paidStake config current nextBlock entry.2) }
  else s

theorem recalculateAndInsertStake_of_le {key : Key T} {base income : ℕ}
    (hfits : base + income ≤ u128Max) :
    (recalculateAndInsertStake key nextBlock base income accrual).run s =
      .ok { accrual with incomeAcc := wrapBalance (accrual.incomeAcc + income) }
        { s with staked := s.staked.insert key ⟨base + income, nextBlock⟩ } := by
  unfold recalculateAndInsertStake
  rw [checkedAdd_eq_some.mpr ⟨hfits, rfl⟩]
  simp only [update_bind_ok, pure_ok, and_self]

theorem recalculateAndInsertStake_of_lt {key : Key T} {base income : ℕ}
    (hfits : u128Max < base + income) :
    (recalculateAndInsertStake key nextBlock base income accrual).run s = .ok accrual s := by
  unfold recalculateAndInsertStake
  rw [checkedAdd_eq_none.mpr hfits]
  simp only [pure_ok, and_self]

theorem run_payRecord (entry : Key T × Stake) (accrual : Accrual T) (s : State T) :
    (payRecord config current nextBlock entry accrual).run s =
      .ok (accrual.after config current entry) (s.payStake config current nextBlock entry) := by
  unfold payRecord accrueRecord
  rw [bind_ok]
  simp only [pure_ok]
  by_cases hdue : entry.2.recalcBlock ≤ current
  · rw [if_pos hdue]
    by_cases hfits : entry.2.amount + incomeOf config current entry.2 ≤ u128Max
    · have hpaid : IsPaid config current entry.2 := ⟨hdue, hfits⟩
      refine ⟨_, _, recalculateAndInsertStake_of_le hfits, ?_, ?_⟩
      · simp only [Accrual.after, if_pos hdue, if_pos hpaid]
      · simp only [State.payStake, paidStake, if_pos hpaid]
    · have hpaid : ¬ IsPaid config current entry.2 := fun h => hfits h.2
      refine ⟨_, _, recalculateAndInsertStake_of_lt (Nat.lt_of_not_le hfits), ?_, ?_⟩
      · simp only [Accrual.after, if_pos hdue, if_neg hpaid]
      · simp only [State.payStake, if_neg hpaid]
  · have hpaid : ¬ IsPaid config current entry.2 := fun h => hdue h.1
    rw [if_neg hdue]
    refine ⟨_, _, pure_ok.mpr ⟨rfl, rfl⟩, ?_, ?_⟩
    · simp only [Accrual.after, if_neg hdue, if_neg hpaid]
    · simp only [State.payStake, if_neg hpaid]

/-! ## Flushing -/

/-- The accrual after it was paid. -/
def Accrual.flushed (accrual : Accrual T) : Accrual T :=
  match accrual.lastId with
  | none => accrual
  | some staker => { accrual with lastId := some staker, incomeAcc := 0, amountAcc := 0 }

/-- The state after an income was transferred, which gave the given ledger. -/
def State.payIncome (s : State T) (staker : T.AccountId) (ledger : T.currency.Ledger)
    (base income : ℕ) : State T :=
  { setFreezeWithResult staker (T.currency.frozen ledger staker + income)
      { s with ledger := ledger } with
    totalStaked := s.totalStaked + income
    events := .stakingRecalculation staker base income :: s.events }

/-- A flush that succeeds. -/
inductive Flushes (accrual : Accrual T) (s : State T) : State T → Prop
  | nothing (hnothing : accrual.lastId = none ∨ accrual.incomeAcc = 0) : Flushes accrual s s
  | income {staker : T.AccountId} {ledger : T.currency.Ledger}
      (hlast : accrual.lastId = some staker) (hincome : accrual.incomeAcc ≠ 0)
      (htransfer : T.currency.transfer s.ledger T.treasuryAccountId staker accrual.incomeAcc =
        some ledger)
      (hfrozen : T.currency.frozen ledger staker + accrual.incomeAcc ≤ u128Max)
      (htotal : s.totalStaked + accrual.incomeAcc ≤ u128Max) :
      Flushes accrual s (s.payIncome staker ledger accrual.amountAcc accrual.incomeAcc)

theorem flushes_of_none (hlast : accrual.lastId = none) : Flushes accrual s s' ↔ s' = s := by
  constructor
  · intro hflush
    cases hflush with
    | nothing => rfl
    | income hsome => exact absurd (hlast.symm.trans hsome) (by simp)
  · rintro rfl
    exact .nothing (.inl hlast)

theorem flushStake_ok {flushed : Accrual T} :
    (flushStake accrual).run s = .ok flushed s' ↔ accrual.flushed = flushed ∧
    Flushes accrual s s' := by
  unfold flushStake Accrual.flushed
  cases hlast : accrual.lastId with
  | none =>
    rw [flushes_of_none hlast, pure_ok, eq_comm (a := s)]
  | some staker =>
    by_cases hzero : accrual.incomeAcc = 0
    · simp only [hzero, ne_eq, not_true_eq_false, if_false]
      rw [pure_ok]
      refine and_congr_right fun _ => ⟨?_, fun hflush => ?_⟩
      · rintro rfl
        exact .nothing (.inr hzero)
      · cases hflush with
        | nothing => rfl
        | income _ hincome => exact absurd hzero hincome
    · simp only [ne_eq, hzero, not_false_eq_true, if_true, read_bind_ok, okOr_bind_ok,
        update_bind_ok]
      simp only [bind_unit_ok, addFreezeBalance_ok]
      simp only [read_bind_ok, okOr_bind_ok, update_bind_ok, pure_ok, checkedAdd_eq_some]
      constructor
      · rintro ⟨ledger, htransfer, _, ⟨hfrozen, rfl⟩, _, ⟨htotal, rfl⟩, rfl, rfl⟩
        exact ⟨rfl, .income hlast hzero htransfer hfrozen htotal⟩
      · rintro ⟨rfl, hflush⟩
        cases hflush with
        | nothing hnothing => simp [hlast, hzero] at hnothing
        | @income other ledger hother _ htransfer hfrozen htotal =>
          obtain rfl : staker = other := Option.some.inj (hlast.symm.trans hother)
          exact ⟨ledger, htransfer, _, ⟨hfrozen, rfl⟩, _, ⟨htotal, rfl⟩, rfl, rfl⟩

/-- What the flush of an accrual adds to the freeze of an account. -/
def Accrual.owed (accrual : Accrual T) (account : T.AccountId) : ℕ :=
  if accrual.lastId = some account then accrual.incomeAcc else 0

/-- The state but for the ledger, the total and the stakes. -/
structure SameFrame (s s' : State T) : Prop where
  admin : s'.admin = s.admin
  stakesPerAccount : s'.stakesPerAccount = s.stakesPerAccount
  pendingUnstake : s'.pendingUnstake = s.pendingUnstake

theorem SameFrame.trans {middle : State T} (hfirst : SameFrame s middle)
    (hsecond : SameFrame middle s') : SameFrame s s' :=
  ⟨hsecond.admin.trans hfirst.admin, hsecond.stakesPerAccount.trans hfirst.stakesPerAccount,
    hsecond.pendingUnstake.trans hfirst.pendingUnstake⟩

section

variable (hflush : Flushes accrual s s')

include hflush

theorem Flushes.sameFrame : SameFrame s s' := by
  cases hflush <;> exact ⟨rfl, rfl, rfl⟩

theorem Flushes.staked : s'.staked = s.staked := by
  cases hflush <;> rfl

theorem Flushes.cursor : s'.previousCalculatedRecord = s.previousCalculatedRecord := by
  cases hflush <;> rfl

/-- A flush freezes what has accrued. -/
theorem Flushes.frozen (account : T.AccountId) :
    frozenOf s' account = frozenOf s account + accrual.owed account := by
  cases hflush with
  | nothing hnothing =>
    unfold Accrual.owed
    rcases hnothing with hnone | hzero
    · simp [hnone]
    · simp [hzero]
  | @income staker ledger hlast _ htransfer =>
    have hsame := T.currency.transfer_frozen htransfer
    refine (frozenOf_setFreezeWithResult staker account _ { s with ledger := ledger }).trans ?_
    unfold Accrual.owed frozenOf
    rw [hlast, hsame]
    by_cases haccount : account = staker
    · simp [haccount]
    · simp [haccount, Ne.symm haccount]

/-- A flush does not look at the cursor. -/
theorem Flushes.setCursor (cursor : Option (Key T)) :
    Flushes accrual { s with previousCalculatedRecord := cursor }
      { s' with previousCalculatedRecord := cursor } := by
  cases hflush with
  | nothing hnothing => exact .nothing hnothing
  | income hlast hincome htransfer hfrozen htotal =>
    exact .income (s := { s with previousCalculatedRecord := cursor }) hlast hincome htransfer
      hfrozen htotal

end

/-! ## The loop -/

/-- The course of a payout loop that succeeds: from which records and state it
starts, which records it leaves for later, and where it ends. -/
inductive Pays (config : PalletConfiguration) (current nextBlock : ℕ) :
    ℕ → Accrual T → List (Key T × Stake) → State T → List (Key T × Stake) → State T → Prop
  | done {stakers : ℕ} {accrual : Accrual T} {s s' : State T} (hflush : Flushes accrual s s') :
      Pays config current nextBlock stakers accrual [] s [] s'
  | same {stakers : ℕ} {accrual : Accrual T} {entry : Key T × Stake}
      {rest left : List (Key T × Stake)} {s s' : State T}
      (hid : accrual.lastId = some entry.1.1)
      (hrest : Pays config current nextBlock stakers (accrual.after config current entry) rest
        (s.payStake config current nextBlock entry) left s') :
      Pays config current nextBlock stakers accrual (entry :: rest) s left s'
  | switch {stakers : ℕ} {accrual : Accrual T} {entry : Key T × Stake}
      {rest left : List (Key T × Stake)} {s middle s' : State T}
      (hid : accrual.lastId ≠ some entry.1.1) (hflush : Flushes accrual s middle)
      (hrest : Pays config current nextBlock stakers
        (({ accrual.flushed with lastId := some entry.1.1 } : Accrual T).after config
          current entry) rest
        (middle.payStake config current nextBlock entry) left s') :
      Pays config current nextBlock (stakers + 1) accrual (entry :: rest) s
        left s'
  | stop {accrual : Accrual T} {entry : Key T × Stake} {rest : List (Key T × Stake)}
      {s s' : State T} {staker : T.AccountId} (hid : accrual.lastId ≠ some entry.1.1)
      (hlast : accrual.lastId = some staker)
      (hflush : Flushes accrual
        { s with previousCalculatedRecord := some (staker, accrual.lastBlock) } s') :
      Pays config current nextBlock 0 accrual (entry :: rest) s (entry :: rest) s'

/-- A loop that is at an account, or may go on to one, succeeds along such a course. -/
theorem payoutLoop_ok (hstart : accrual.lastId ≠ none ∨ 0 < stakers) :
    (payoutLoop config current nextBlock stakers accrual records).run s = .ok () s' ↔
      ∃ left, Pays config current nextBlock stakers accrual records s left s' := by
  induction records generalizing stakers accrual s with
  | nil =>
    simp only [payoutLoop, bind_ok, flushStake_ok, pure_ok]
    constructor
    · rintro ⟨_, _, ⟨_, hflush⟩, _, rfl⟩
      exact ⟨[], .done hflush⟩
    · rintro ⟨_, hpays⟩
      cases hpays with
      | done hflush => exact ⟨_, _, ⟨rfl, hflush⟩, trivial, rfl⟩
  | cons entry rest ih =>
    simp only [payoutLoop]
    by_cases hid : accrual.lastId = some entry.1.1
    · rw [if_pos hid, run_bind_of_ok (run_payRecord entry accrual s),
        ih (.inl (by simp [Accrual.after, hid]))]
      constructor
      · rintro ⟨left, hrest⟩
        exact ⟨left, .same hid hrest⟩
      · rintro ⟨left, hpays⟩
        cases hpays with
        | same _ hrest => exact ⟨left, hrest⟩
        | switch hother => exact absurd hid hother
        | stop hother => exact absurd hid hother
    · rw [if_neg hid]
      cases stakers with
      | zero =>
        obtain ⟨staker, hstaker⟩ :=
          Option.ne_none_iff_exists'.mp (hstart.resolve_right (Nat.lt_irrefl 0))
        rw [if_neg (Nat.lt_irrefl 0)]
        simp only [hstaker, update_bind_ok]
        simp only [bind_ok, flushStake_ok, pure_ok]
        constructor
        · rintro ⟨_, _, ⟨_, hflush⟩, _, rfl⟩
          exact ⟨_, .stop hid hstaker hflush⟩
        · rintro ⟨left, hpays⟩
          cases hpays with
          | same hsame => exact absurd hsame hid
          | stop _ hlast hflush =>
            obtain rfl := Option.some.inj (hstaker.symm.trans hlast)
            exact ⟨_, _, ⟨rfl, hflush⟩, trivial, rfl⟩
      | succ stakers =>
        rw [if_pos (Nat.succ_pos stakers), bind_ok]
        simp only [flushStake_ok, Nat.add_sub_cancel]
        constructor
        · rintro ⟨_, middle, ⟨rfl, hflush⟩, hrun⟩
          rw [run_bind_of_ok (run_payRecord entry _ middle),
            ih (.inl (by simp [Accrual.after]))] at hrun
          obtain ⟨left, hrest⟩ := hrun
          exact ⟨left, .switch hid hflush hrest⟩
        · rintro ⟨left, hpays⟩
          cases hpays with
          | same hsame => exact absurd hsame hid
          | switch _ hflush hrest =>
            refine ⟨_, _, ⟨rfl, hflush⟩, ?_⟩
            rw [run_bind_of_ok (run_payRecord entry _ _),
              ih (.inl (by simp [Accrual.after]))]
            exact ⟨left, hrest⟩

/-! ## What the loop keeps -/

theorem payStake_sameFrame : SameFrame s (s.payStake config current nextBlock entry) := by
  unfold State.payStake
  split <;> exact ⟨rfl, rfl, rfl⟩

theorem payStake_cursor : (s.payStake config current nextBlock entry).previousCalculatedRecord =
      s.previousCalculatedRecord := by
  unfold State.payStake
  split <;> rfl

theorem payStake_frozen (account : T.AccountId) :
    frozenOf (s.payStake config current nextBlock entry) account =
      frozenOf s account := by
  unfold State.payStake
  split <;> rfl

/-- A record that is in storage is replaced by what a payout makes of it. -/
theorem payStake_staked (hentry : s.staked.get entry.1 = some entry.2) :
    (s.payStake config current nextBlock entry).staked =
      s.staked.insert entry.1 (paidStake config current nextBlock entry.2) := by
  unfold State.payStake
  split
  · rfl
  · rename_i hpaid
    refine ext_get fun key => ?_
    by_cases hkey : key = entry.1
    · simp [hkey, hentry, paidStake, hpaid]
    · rw [get_insert_of_ne _ _ hkey]

theorem Pays.sameFrame (hpays : Pays config current nextBlock stakers accrual records s left
      s') : SameFrame s s' := by
  induction hpays with
  | done hflush => exact hflush.sameFrame
  | same _ _ ih => exact payStake_sameFrame.trans ih
  | switch _ hflush _ ih => exact hflush.sameFrame.trans (payStake_sameFrame.trans ih)
  | stop _ _ hflush => exact ⟨hflush.sameFrame.admin, hflush.sameFrame.stakesPerAccount,
      hflush.sameFrame.pendingUnstake⟩

/-- The records to come are in storage, each under its own key. -/
structure Stored (records : List (Key T × Stake)) (s : State T) : Prop where
  nodup : (records.map Prod.fst).Nodup
  get : ∀ entry ∈ records, s.staked.get entry.1 = some entry.2

theorem Stored.tail (hstored : Stored (entry :: rest) s) (hstaked : s'.staked = s.staked) :
    Stored rest (s'.payStake config current nextBlock entry) where
  nodup := (List.nodup_cons.mp hstored.nodup).2
  get := by
    intro other hother
    have hentry := hstored.get entry (List.mem_cons_self ..)
    rw [← hstaked] at hentry
    have hne : other.1 ≠ entry.1 := fun heq =>
      (List.nodup_cons.mp hstored.nodup).1 (heq ▸ List.mem_map_of_mem hother)
    rw [payStake_staked hentry, get_insert_of_ne _ _ hne, hstaked]
    exact hstored.get other (List.mem_cons_of_mem _ hother)

/-- What replacing a record by what a payout makes of it keeps of the stakes is kept by
the whole payout. -/
theorem Pays.staked_induction {P : FiniteMap (Key T) Stake → Prop}
    (hpays : Pays config current nextBlock stakers accrual records s left s')
    (hstored : Stored records s) (hstart : P s.staked)
    (hpaid : ∀ staked key stake, P staked → staked.get key = some stake →
      P (staked.insert key (paidStake config current nextBlock stake))) :
    P s'.staked := by
  induction hpays with
  | done hflush =>
    rw [hflush.staked]
    exact hstart
  | @same _ _ entry _ _ _ _ _ _ ih =>
    have hentry := hstored.get entry (List.mem_cons_self ..)
    refine ih (hstored.tail rfl) ?_
    rw [payStake_staked hentry]
    exact hpaid _ _ _ hstart hentry
  | @switch _ _ entry _ _ _ middle _ _ hflush _ ih =>
    have hentry := hstored.get entry (List.mem_cons_self ..)
    rw [← hflush.staked] at hentry hstart
    refine ih (hstored.tail hflush.staked) ?_
    rw [payStake_staked hentry]
    exact hpaid _ _ _ hstart hentry
  | stop _ _ hflush =>
    rw [hflush.staked]
    exact hstart

/-! ## The freezes -/

/-- The income that a payout of the records owes to an account. -/
def incomesOf (config : PalletConfiguration) (current : ℕ)
    (records : List (Key T × Stake)) (account : T.AccountId) : ℕ :=
  (records.map fun entry =>
    if entry.1.1 = account then paidIncome config current entry.2 else 0).sum

theorem incomesOf_cons (entry : Key T × Stake) (rest : List (Key T × Stake))
    (account : T.AccountId) :
    incomesOf config current (entry :: rest) account =
      (if entry.1.1 = account then paidIncome config current entry.2 else 0) +
        incomesOf config current rest account := by
  simp [incomesOf]

section Groups

variable (group : T.AccountId → Prop) [DecidablePred group]

/-- The total of the stakes of some accounts. -/
def stakedIn (staked : FiniteMap (Key T) Stake) : ℕ :=
  staked.sum fun key stake => if group key.1 then stake.amount else 0

/-- What the flush of an accrual pays if it goes to one of the accounts. -/
def Accrual.owedIn (accrual : Accrual T) : ℕ :=
  accrual.lastId.elim 0 fun account => if group account then accrual.incomeAcc else 0

theorem Accrual.owed_eq_owedIn (accrual : Accrual T) (account : T.AccountId) :
    accrual.owed account = accrual.owedIn (· = account) := by
  unfold Accrual.owed Accrual.owedIn
  cases accrual.lastId <;> simp

variable {group} in
theorem stakedIn_payStake (hentry : s.staked.get entry.1 = some entry.2) :
    stakedIn group (s.payStake config current nextBlock entry).staked = stakedIn group s.staked +
        if group entry.1.1 then paidIncome config current entry.2 else 0 := by
  have hsum := s.staked.sum_insert
    (fun key stake => if group key.1 then stake.amount else 0) entry.1
    (paidStake config current nextBlock entry.2)
  rw [term_of_get _ hentry, amount_paidStake] at hsum
  rw [payStake_staked hentry]
  unfold stakedIn
  by_cases haccount : group entry.1.1
  · simp only [if_pos haccount] at hsum ⊢
    omega
  · simp only [if_neg haccount] at hsum ⊢
    omega

/-- What accrues with a record whose account the loop is at. -/
theorem owedIn_after (hid : accrual.lastId = some entry.1.1)
    (hfits : accrual.incomeAcc + paidIncome config current entry.2 ≤ u128Max) :
    (accrual.after config current entry).owedIn group = accrual.owedIn group +
        if group entry.1.1 then paidIncome config current entry.2 else 0 := by
  have hincome : (accrual.after config current entry).incomeAcc =
      accrual.incomeAcc + paidIncome config current entry.2 := by
    unfold Accrual.after paidIncome at *
    by_cases hpaid : IsPaid config current entry.2
    · simp only [if_pos hpaid] at hfits ⊢
      exact Nat.mod_eq_of_lt (by unfold u128Max at hfits; omega)
    · simp only [if_neg hpaid, Nat.add_zero]
  unfold Accrual.owedIn
  rw [hincome]
  simp only [Accrual.after, hid, Option.elim_some]
  by_cases haccount : group entry.1.1
  · simp [haccount]
  · simp [haccount]

end Groups

/-- No account can be owed more than an amount can be. -/
def IncomesFit (config : PalletConfiguration) (current : ℕ) (accrual : Accrual T)
    (records : List (Key T × Stake)) : Prop :=
  ∀ account, accrual.owed account + incomesOf config current records account ≤ u128Max

theorem IncomesFit.same (hfit : IncomesFit config current accrual (entry :: rest))
    (hid : accrual.lastId = some entry.1.1) :
    accrual.incomeAcc + paidIncome config current entry.2 ≤ u128Max ∧
      IncomesFit config current (accrual.after config current entry)
      rest := by
  have hown := hfit entry.1.1
  rw [incomesOf_cons, if_pos rfl] at hown
  have howed : accrual.owed entry.1.1 = accrual.incomeAcc := by simp [Accrual.owed, hid]
  have hfits : accrual.incomeAcc + paidIncome config current entry.2 ≤
    u128Max := by omega
  refine ⟨hfits, fun account => ?_⟩
  have hother := hfit account
  rw [incomesOf_cons] at hother
  rw [Accrual.owed_eq_owedIn] at hother ⊢
  rw [owedIn_after _ hid hfits]
  omega

/-- The accrual with which the loop goes over to the account of a record. -/
def Accrual.switched (accrual : Accrual T) (account : T.AccountId) : Accrual T :=
  { accrual.flushed with lastId := some account }

theorem incomeAcc_flushed (hnone : accrual.lastId = none → accrual.incomeAcc = 0) :
    accrual.flushed.incomeAcc = 0 := by
  unfold Accrual.flushed
  split
  · rename_i hlast
    exact hnone hlast
  · rfl

theorem IncomesFit.switch (hfit : IncomesFit config current accrual (entry :: rest))
    (hnone : accrual.lastId = none → accrual.incomeAcc = 0) :
    IncomesFit config current (accrual.switched entry.1.1) (entry :: rest) := by
  intro account
  have hsmall := hfit account
  have hzero : (accrual.switched entry.1.1).owed account = 0 := by
    unfold Accrual.owed Accrual.switched
    simp [incomeAcc_flushed hnone]
  omega

/-- Along a payout, whatever goes up with each flush to some accounts moves with what they
have staked. -/
theorem Pays.measured (measure : State T → ℕ) (group : T.AccountId → Prop) [DecidablePred group]
    (hflushes : ∀ {accrual : Accrual T} {s s' : State T}, Flushes accrual s s' →
      measure s' = measure s + accrual.owedIn group)
    (hrecords : ∀ {s s' : State T}, s'.ledger = s.ledger → s'.totalStaked = s.totalStaked →
      measure s' = measure s)
    (hpays : Pays config current nextBlock stakers accrual records s left s')
    (hstored : Stored records s) (hfit : IncomesFit config current accrual records)
    (hnone : accrual.lastId = none → accrual.incomeAcc = 0) :
    measure s' + stakedIn group s.staked =
      measure s + accrual.owedIn group + stakedIn group s'.staked := by
  have hpaid : ∀ {entry : Key T × Stake} {s : State T},
      measure (s.payStake config current nextBlock entry) = measure s := by
    intro entry s
    unfold State.payStake
    split <;> exact hrecords rfl rfl
  induction hpays with
  | done hflush =>
    rw [hflushes hflush, hflush.staked]
  | @same _ accrual entry rest _ s _ hid _ ih =>
    obtain ⟨hfits, hrest⟩ := hfit.same hid
    have hstake := @stakedIn_payStake _ _ config current nextBlock _ group _
      (hstored.get entry (List.mem_cons_self ..))
    have hih := ih (hstored.tail rfl) hrest (by simp [Accrual.after, hid])
    rw [hpaid, owedIn_after group hid hfits] at hih
    omega
  | @switch _ accrual entry rest _ s middle _ hid hflush _ ih =>
    have hswitched := hfit.switch hnone
    obtain ⟨hfits, hrest⟩ := hswitched.same rfl
    have hentry : middle.staked.get entry.1 = some entry.2 := by
      rw [hflush.staked]
      exact hstored.get entry (List.mem_cons_self ..)
    have hstake := @stakedIn_payStake _ _ config current nextBlock _ group _ hentry
    have hih := ih (hstored.tail hflush.staked) hrest (by simp [Accrual.after])
    have howed := owedIn_after group rfl hfits
    have hzero : (accrual.switched entry.1.1).owedIn group = 0 := by
      unfold Accrual.owedIn Accrual.switched
      simp [incomeAcc_flushed hnone]
    rw [hpaid, hflushes hflush] at hih
    rw [hflush.staked] at hstake
    unfold Accrual.switched at howed hzero
    omega
  | stop _ _ hflush =>
    rw [hflushes hflush, hflush.staked]
    exact congrArg (· + _ + _) (hrecords rfl rfl)

section

variable (hpays : Pays config current nextBlock stakers accrual records s left s')

include hpays

/-- What is frozen for an account moves with what it has staked. -/
theorem Pays.frozen (hstored : Stored records s) (hfit : IncomesFit config current accrual records)
    (hnone : accrual.lastId = none → accrual.incomeAcc = 0) (account : T.AccountId) :
    frozenOf s' account + stakedBy s.staked account =
      frozenOf s account + accrual.owed account + stakedBy s'.staked account := by
  rw [accrual.owed_eq_owedIn]
  refine hpays.measured (fun s => frozenOf s account) (· = account) (fun hflush => ?_)
    (fun hledger _ => by rw [frozenOf, hledger, frozenOf]) hstored hfit hnone
  rw [hflush.frozen, Accrual.owed_eq_owedIn]

/-- The total moves with all stakes. -/
theorem Pays.totalStaked
    (hstored : Stored records s) (hfit : IncomesFit config current accrual records)
    (hnone : accrual.lastId = none → accrual.incomeAcc = 0) :
    s'.totalStaked + stakedIn (fun _ => True) s.staked =
      s.totalStaked + accrual.owedIn (fun _ => True) + stakedIn (fun _ => True) s'.staked := by
  refine hpays.measured (·.totalStaked) (fun _ => True) (fun {accrual _ _} hflush => ?_)
    (fun _ htotal => htotal) hstored hfit hnone
  unfold Accrual.owedIn
  cases hflush with
  | nothing hnothing => cases hlast : accrual.lastId <;> simp_all
  | income hlast => simp [hlast, State.payIncome]

/-- A payout does not freeze more than an amount can be. -/
theorem Pays.frozen_le (hle : ∀ account, frozenOf s account ≤ u128Max) (account : T.AccountId) :
    frozenOf s' account ≤ u128Max := by
  have hflushes : ∀ {accrual : Accrual T} {s s' : State T}, Flushes accrual s s' →
      (∀ account, frozenOf s account ≤ u128Max) → ∀ account, frozenOf s' account ≤ u128Max := by
    intro accrual s s' hflush hle account
    cases hflush with
    | nothing => exact hle account
    | @income staker ledger _ _ htransfer hfrozen _ =>
      refine Nat.le_trans (Nat.le_of_eq (frozenOf_setFreezeWithResult staker account _
        { s with ledger := ledger })) ?_
      by_cases haccount : account = staker
      · rw [if_pos haccount]
        exact hfrozen
      · rw [if_neg haccount]
        unfold frozenOf at hle ⊢
        rw [T.currency.transfer_frozen htransfer]
        exact hle account
  induction hpays with
  | done hflush => exact hflushes hflush hle account
  | same _ _ ih =>
    refine ih fun account => ?_
    rw [payStake_frozen]
    exact hle account
  | switch _ hflush _ ih =>
    refine ih fun account => ?_
    rw [payStake_frozen]
    exact hflushes hflush hle account
  | stop _ _ hflush => exact hflushes hflush hle account

end

/-! ## The call -/

/-- The records in front of the payout loop are in storage. -/
theorem stored_recordsLeft (s : State T) :
    Stored (recordsLeft s) { s with previousCalculatedRecord := none } := by
  have hall : Stored (s.staked.entries T.hashedKeyFor_injective)
      { s with previousCalculatedRecord := none } :=
    ⟨s.staked.nodup_map_fst_entries _, fun entry hentry => (s.staked.mem_entries _).mp hentry⟩
  unfold recordsLeft
  cases s.previousCalculatedRecord with
  | none => exact hall
  | some record =>
    refine ⟨?_, fun entry hentry => hall.get entry (List.mem_of_mem_filter hentry)⟩
    exact hall.nodup.sublist (List.filter_sublist.map Prod.fst)

/-- The course of a payout for at least one staker. -/
def PaysPage (env : Environment) (stakers : ℕ) (s : State T)
    (left : List (Key T × Stake)) (s' : State T) : Prop :=
  Pays env.config (getCurrentRecalcBlock env.config env.relayBlock)
    (wrapBlock (getCurrentRecalcBlock env.config env.relayBlock + env.config.recalculationInterval))
    stakers {} (recordsLeft s) { s with previousCalculatedRecord := none } left s'

theorem payoutPage_ok (hnumber : stakers ≠ 0) :
    (payoutPage env stakers).run s = .ok () s' ↔ env.config.recalculationInterval ≠ 0 ∧
        ∃ left, PaysPage env stakers s left s' := by
  simp only [payoutPage, ensure_bind_ok, read_bind_ok, update_bind_ok]
  rw [payoutLoop_ok (.inr (Nat.pos_of_ne_zero hnumber))]
  rfl

theorem payoutStakers_ok {adminId : T.AccountId} {number : Option ℕ}
    (hrun : (payoutStakers env adminId number).run s = .ok () s') :
    env.config.recalculationInterval ≠ 0 ∧ ∃ stakers left, stakers ≠ 0 ∧
        PaysPage env stakers s left s' := by
  simp only [payoutStakers, read_bind_ok, okOr_bind_ok, ensure_bind_ok] at hrun
  obtain ⟨_, _, _, ⟨_, hnumber⟩, hrun⟩ := hrun
  obtain ⟨hinterval, left, hpays⟩ := (payoutPage_ok hnumber).mp hrun
  exact ⟨hinterval, _, left, hnumber, hpays⟩

end UniqueChain.AppPromotion
