import UniqueChain.Promotion.Freezes

/-!
# The number of stake records

The pallet counts the stakes of an account and refuses a stake of an account with
ten.  The counter goes up with every stake, but a stake in the relay block of an
earlier one of the same account is added to the record of that one.  As long as this
does not happen, the counter is the number of records.
-/

namespace UniqueChain.AppPromotion

open Execution FiniteMap

variable {T : Config} {s s' : State T} {env : Environment} {stakerId : T.AccountId} {amount : ℕ}

variable {staked : FiniteMap (Key T) Stake}

/-- The number of stake records of an account. -/
def recordsOf (staked : FiniteMap (Key T) Stake) (account : T.AccountId) : ℕ :=
  staked.count fun key _ => key.1 = account

/-- No stake is empty. -/
def NoneEmpty (staked : FiniteMap (Key T) Stake) : Prop :=
  ∀ key stake, staked.get key = some stake → 0 < stake.amount

/-! ## Counting records -/

/-- Overwriting a record does not change how many there are. -/
theorem recordsOf_insert_of_get {key : Key T} {old : Stake}
    (stake : Stake) (hget : staked.get key = some old) (account : T.AccountId) :
    recordsOf (staked.insert key stake) account = recordsOf staked account := by
  have hcount := count_insert (p := fun key _ => key.1 = account) stake hget
  unfold recordsOf
  omega

theorem recordsOf_insert_of_get_none {key : Key T}
    (stake : Stake) (hget : staked.get key = none) (account : T.AccountId) :
    recordsOf (staked.insert key stake) account =
      recordsOf staked account + if key.1 = account then 1 else 0 := by
  have hsum := staked.sum_insert (fun key _ => if key.1 = account then 1 else 0) key stake
  rw [term_of_get_none _ hget] at hsum
  exact hsum

theorem length_stakesOf (s : State T) (account : T.AccountId) :
    (stakesOf s account).length = recordsOf s.staked account := by
  have hsum := s.staked.sum_prefixEntries account fun _ => 1
  rwa [List.map_const', List.sum_replicate_nat, Nat.mul_one] at hsum

/-- Taking an amount out of stakes removes as many records as are used up. -/
theorem recordsOf_of_unstakedPartially
    (hunstaked : UnstakedPartially env stakerId amount s s') (account : T.AccountId) :
    recordsOf s'.staked account +
        (if stakerId = account then (takeFromStakes amount (stakesOf s stakerId)).2 else 0) =
      recordsOf s.staked account := by
  rw [← length_stakesOf s', ← length_stakesOf s, stakesOf_of_unstakedPartially hunstaked]
  by_cases haccount : account = stakerId
  · rw [if_pos haccount, if_pos haccount.symm, haccount]
    exact length_consume
  · rw [if_neg haccount, if_neg (Ne.symm haccount), Nat.add_zero]

theorem recordsOf_of_eraseWhere
    (hstaked : s'.staked = s.staked.eraseWhere fun key => key.1 = stakerId)
    (account : T.AccountId) :
    recordsOf s'.staked account = if account = stakerId then 0 else recordsOf s.staked account := by
  rw [← length_stakesOf s', stakesOf_of_eraseWhere hstaked]
  split
  · rfl
  · exact length_stakesOf s account

/-! ## Empty stakes -/

section

variable (hnone : NoneEmpty staked)

include hnone

theorem NoneEmpty.insert (key : Key T) {stake : Stake} (hstake : 0 < stake.amount) :
    NoneEmpty (staked.insert key stake) := by
  intro other otherStake hget
  rw [get_insert] at hget
  split at hget
  · cases hget
    exact hstake
  · exact hnone other otherStake hget

theorem NoneEmpty.changeStake
    (change : ℕ × ℕ) : NoneEmpty (changeStake stakerId staked change) := by
  unfold AppPromotion.changeStake
  split
  · intro other stake hget
    rw [get_erase] at hget
    split at hget
    · cases hget
    · exact hnone other stake hget
  · rename_i hremains
    exact hnone.insert _ (Nat.pos_of_ne_zero hremains)

theorem NoneEmpty.foldl_changeStake (changes : List (ℕ × ℕ)) :
    NoneEmpty (changes.foldl (AppPromotion.changeStake stakerId) staked) := by
  induction changes generalizing staked with
  | nil => exact hnone
  | cons change rest ih => exact ih (hnone.changeStake change)

theorem NoneEmpty.eraseWhere : NoneEmpty (staked.eraseWhere fun key => key.1 = stakerId) := by
  intro other stake hget
  rw [get_eraseWhere] at hget
  split at hget
  · cases hget
  · exact hnone other stake hget

/-- An account whose stakes add up to nothing has none. -/
theorem NoneEmpty.recordsOf_eq_zero
    (hzero : stakedBy staked stakerId = 0) : recordsOf staked stakerId = 0 := by
  refine count_eq_zero fun key stake hget hkey => ?_
  have hterm := (sum_eq_zero_iff _ _).mp hzero key stake hget
  rw [if_pos hkey] at hterm
  have hpos := hnone key stake hget
  omega

end

/-! ## The invariant -/

/-- The counters count the records. -/
structure Counted (s : State T) : Prop where
  noneEmpty : NoneEmpty s.staked
  count_eq : ∀ account, s.stakesPerAccount.getD account 0 = recordsOf s.staked account
  count_le : ∀ account, s.stakesPerAccount.getD account 0 ≤ 10

section

variable (hcounted : Counted s)

include hcounted

theorem Counted.stake (hstaked : Staked env stakerId amount s s')
    (hapart : s.staked.get (stakerId, env.relayBlock) = none) : Counted s' where
  noneEmpty := by
    rw [hstaked.staked]
    refine hcounted.noneEmpty.insert _ ?_
    have hpos := hstaked.amount_pos
    show 0 < _ + amount
    omega
  count_eq := by
    intro account
    rw [hstaked.staked, hstaked.stakesPerAccount, recordsOf_insert_of_get_none _ hapart,
      getD_insert, ← hcounted.count_eq account]
    by_cases haccount : account = stakerId
    · rw [if_pos haccount, if_pos haccount.symm, haccount]
    · rw [if_neg haccount, if_neg (Ne.symm haccount), Nat.add_zero]
  count_le := by
    intro account
    rw [hstaked.stakesPerAccount, getD_insert]
    split
    · exact hstaked.count_lt
    · exact hcounted.count_le account

theorem Counted.unstakePart
    (hunstaked : UnstakedPartially env stakerId amount s s') : Counted s' := by
  have hrecords := recordsOf_of_unstakedPartially hunstaked
  have hown := hrecords stakerId
  have hle := hcounted.count_le stakerId
  -- an account has at most ten records, so the number of deleted ones fits into a byte
  have hsmall : (takeFromStakes amount (stakesOf s stakerId)).2 % 2 ^ 8 =
      (takeFromStakes amount (stakesOf s stakerId)).2 := by
    refine Nat.mod_eq_of_lt ?_
    rw [hcounted.count_eq] at hle
    rw [if_pos rfl] at hown
    omega
  have hcount : ∀ account, s'.stakesPerAccount.getD account 0 + (if stakerId = account then
      (takeFromStakes amount (stakesOf s stakerId)).2 else 0) =
        s.stakesPerAccount.getD account 0 := by
    intro account
    have hdeleted := hunstaked.deleted_le
    rw [hsmall] at hdeleted
    rw [hunstaked.stakesPerAccount, getD_insert, hsmall]
    by_cases haccount : account = stakerId
    · subst haccount
      rw [if_pos rfl, if_pos rfl]
      omega
    · rw [if_neg haccount, if_neg (Ne.symm haccount), Nat.add_zero]
  refine ⟨?_, fun account => ?_, fun account => ?_⟩
  · rw [hunstaked.staked]
    exact hcounted.noneEmpty.foldl_changeStake _
  · have hbefore := hcounted.count_eq account
    have hafter := hcount account
    have htaken := hrecords account
    omega
  · have hafter := hcount account
    have hbefore := hcounted.count_le account
    omega

theorem Counted.unstakeAll (hunstaked : UnstakedAll env stakerId s s') : Counted s' where
  noneEmpty := by
    rw [hunstaked.staked]
    exact hcounted.noneEmpty.eraseWhere
  count_eq := by
    intro account
    rw [hunstaked.stakesPerAccount, recordsOf_of_eraseWhere hunstaked.staked,
      getD_erase, hcounted.count_eq]
  count_le := by
    intro account
    rw [hunstaked.stakesPerAccount, getD_erase]
    split
    · exact Nat.zero_le _
    · exact hcounted.count_le account

theorem Counted.drain (hdrained : Drained stakerId s s')
    (hfits : stakedBy s.staked stakerId ≤ u128Max) : Counted s' := by
  have hzero : stakedBy s.staked stakerId = 0 := by
    have hwrapped := hdrained.amount_eq_zero
    unfold wrapBalance at hwrapped
    unfold u128Max at hfits
    rwa [Nat.mod_eq_of_lt (by omega)] at hwrapped
  have hnone := hcounted.noneEmpty.recordsOf_eq_zero hzero
  have hrecords := recordsOf_of_eraseWhere hdrained.staked
  obtain rfl := hdrained.after
  refine ⟨hcounted.noneEmpty.eraseWhere, fun account => ?_, hcounted.count_le⟩
  refine (hcounted.count_eq account).trans ?_
  rw [hrecords]
  split
  · rename_i haccount
    rw [haccount, hnone]
  · rfl

theorem Counted.payout {stakers : ℕ} {left : List (Key T × Stake)}
    (hpays : PaysPage env stakers s left s') : Counted s' where
  noneEmpty := by
    refine hpays.staked_induction (stored_recordsLeft s) hcounted.noneEmpty
      fun staked key stake hnone hget => hnone.insert key ?_
    rw [amount_paidStake]
    exact Nat.lt_add_right _ (hnone key stake hget)
  count_eq := by
    intro account
    rw [hpays.sameFrame.stakesPerAccount]
    refine hpays.staked_induction (P := fun staked =>
        s.stakesPerAccount.getD account 0 = recordsOf staked account)
      (stored_recordsLeft s) (hcounted.count_eq account) fun staked key stake hcount hget => ?_
    rw [recordsOf_insert_of_get _ hget]
    exact hcount
  count_le := by
    intro account
    rw [hpays.sameFrame.stakesPerAccount]
    exact hcounted.count_le account

theorem Counted.resolve {blocks : List ℕ} (hresolved : Resolved blocks s s') : Counted s' := by
  refine ⟨?_, ?_, ?_⟩
  · rw [hresolved.staked]
    exact hcounted.noneEmpty
  · rw [hresolved.staked, hresolved.stakesPerAccount]
    exact hcounted.count_eq
  · rw [hresolved.stakesPerAccount]
    exact hcounted.count_le

end

/-! ## Runs -/

/-- A stake does not hit a record of the same account, and the stakes that an account
takes back fit into an amount. -/
def StakesApart (s : State T) (input : Input T) : Prop :=
  match input.action with
  | .call (.signed who) (.stake _) => s.staked.get (who, input.env.relayBlock) = none
  | .call (.signed who) .unstakeAll => stakedBy s.staked who ≤ u128Max
  | _ => True

instance (s : State T) (input : Input T) : Decidable (StakesApart s input) := by
  unfold StakesApart
  split <;> infer_instance

theorem Counted.step {input : Input T} (hcounted : Counted s) (hapart : StakesApart s input)
    (hstep : step s input = some s') : Counted s' := by
  obtain ⟨env, action⟩ := input
  cases acts_of_step hstep with
  | setAdmin => exact ⟨hcounted.noneEmpty, hcounted.count_eq, hcounted.count_le⟩
  | stake hstaked => exact hcounted.stake hstaked hapart
  | unstakePart hunstaked => exact hcounted.unstakePart hunstaked
  | unstakeNothing => exact hcounted
  | unstakeAll hunstaked => exact hcounted.unstakeAll hunstaked
  | drain hdrained => exact hcounted.drain hdrained hapart
  | payout _ _ hpays => exact hcounted.payout hpays
  | resolve _ hresolved => exact hcounted.resolve hresolved
  | begin hresolved => exact hcounted.resolve hresolved
  | maintain => exact hcounted

theorem counted_genesis (ledger : T.currency.Ledger) : Counted (genesis ledger) where
  noneEmpty := by
    intro key stake hget
    cases hget
  count_eq account := by
    have hzero : recordsOf (genesis ledger).staked account = 0 :=
      count_eq_zero fun _ _ hget => by cases hget
    rw [hzero]
    rfl
  count_le account := Nat.zero_le _

/-- An account below the limit is not refused because of it. -/
theorem stake_ne_noPermission (hcount : s.stakesPerAccount.getD stakerId 0 < 10) :
    (stake env stakerId amount).run s ≠ .error .noPermission s' := by
  have hfreeze : ∀ amount, FailsWithin (· ≠ .noPermission)
      (addFreezeBalance stakerId amount : Execution Error (State T) Unit) := fun amount =>
    .bind .read fun _ => .bind (.okOr (by decide)) fun _ => .update
  intro hrun
  unfold stake at hrun
  rw [read_bind_error, ensure_bind_error] at hrun
  rcases hrun with ⟨hlimit, _⟩ | ⟨_, hrun⟩
  · exact hlimit hcount
  · -- the other checks fail with errors of their own
    refine FailsWithin.bind (P := (· ≠ Error.noPermission)) (.ensure (by decide)) (fun _ => ?_) s
      _ s' hrun rfl
    refine .bind (.okOr (by decide)) fun _ => .bind (.ensure (by decide)) fun _ => ?_
    refine .bind (hfreeze amount) fun _ => .bind (.ensure (by decide)) fun _ => ?_
    refine .bind (.okOr (by decide)) fun _ => .bind .update fun _ => ?_
    exact .bind (.okOr (by decide)) fun _ => .bind .update fun _ => .update

/-- In every run in which no stake hits a record of the same account, the counter of
an account is the number of its records, and an account with fewer than ten records
is not refused because of the limit. -/
theorem stakesPerAccount_eq_recordsOf {ledger : T.currency.Ledger} {history : History T}
    (hrun : Run step (genesis ledger) history s)
    (hapart : ∀ event ∈ history, StakesApart event.state event.call) :
    (∀ account, s.stakesPerAccount.getD account 0 = recordsOf s.staked account) ∧
      ∀ env account amount s', recordsOf s.staked account < 10 →
        (stake env account amount).run s ≠ .error .noPermission s' := by
  have hcounted : Counted s := hrun.invariant (fun s input => StakesApart s input)
    (counted_genesis ledger) (fun _ _ _ hcounted hapart hstep => hcounted.step hapart hstep) hapart
  refine ⟨hcounted.count_eq, fun env account amount s' hfew => ?_⟩
  refine stake_ne_noPermission ?_
  rw [hcounted.count_eq]
  exact hfew

open Reference in
/-- The theorem for two stakes of which one is used up by a partial unstake. -/
theorem stakesPerAccount_eq_stakingRun :
    (replayState step (genesis (ledger 100000)) stakingRun
        stakingRun_isSome).stakesPerAccount.getD (2 : ℕ) 0 = 1 ∧
      ∀ account, (replayState step (genesis (ledger 100000)) stakingRun
          stakingRun_isSome).stakesPerAccount.getD account 0 =
        recordsOf (replayState step (genesis (ledger 100000)) stakingRun
          stakingRun_isSome).staked account := by
  have hapart : ∀ event ∈ replayHistory step (genesis (ledger 100000)) stakingRun stakingRun_isSome,
      StakesApart event.state event.call := by
    decide +kernel
  have hall := stakesPerAccount_eq_recordsOf
    (run_replay step (genesis (ledger 100000)) stakingRun stakingRun_isSome) hapart
  exact ⟨by decide +kernel, hall.1⟩

/-- Ten stakes of an account in one relay block. -/
def Reference.repeatedRun : List (Input Reference.config) :=
  List.replicate 10 (Reference.signed (Reference.blockAt 1 1 1) 2 (.stake 100))

theorem Reference.repeatedRun_isSome :
    (replay step [] (genesis (Reference.ledger 0)) Reference.repeatedRun).isSome := by
  decide +kernel

open Reference in
/-- They are one record, but the account cannot stake any more. -/
theorem stake_refused_with_one_record :
    ∃ history, ∃ s : State config, Run step (genesis (ledger 0)) history s ∧
      recordsOf s.staked (2 : ℕ) = 1 ∧ s.stakesPerAccount.getD (2 : ℕ) 0 = 10 ∧
        ∀ env amount, (stake env (2 : ℕ) amount).run s =
        .error .noPermission s := by
  have hcount : (replayState step (genesis (ledger 0)) repeatedRun
      repeatedRun_isSome).stakesPerAccount.getD (2 : ℕ) 0 = 10 := by
    decide +kernel
  refine ⟨_, _, run_replay step (genesis (ledger 0)) repeatedRun repeatedRun_isSome, ?_, hcount,
    fun env amount => ?_⟩
  · decide +kernel
  · unfold stake
    rw [read_bind_error, ensure_bind_error]
    left
    refine ⟨fun hlt => ?_, rfl, rfl⟩
    rw [hcount] at hlt
    omega

end UniqueChain.AppPromotion
