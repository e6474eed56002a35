import UniqueChain.Promotion.Actions
import UniqueChain.Promotion.Reference
import UniqueChain.Promotion.Unstaking

/-!
# The freezes of stakers

What the pallet has frozen for an account is what the account has staked and what
is pending for it.  Staking and paying out add to the freeze and to the stakes,
unstaking moves an amount from the stakes to the pending ones, and a block or a call
that resolves skipped blocks takes pending amounts and the freeze of them away
together.

The payout adds up the incomes of one account with `+`, which wraps around, and
then transfers and freezes the sum.  The equality is kept as long as the incomes of
an account fit into an amount (`IncomesFit`).
-/

namespace UniqueChain.AppPromotion

open Execution

variable {T : Config} {s s' : State T} {env : Environment} {stakerId : T.AccountId} {amount : ℕ}

variable {staked : FiniteMap (Key T) Stake} {input : Input T}

/-! ## Sums of stakes -/

/-- Taking an amount out of stakes takes it out of their sum. -/
theorem stakedBy_of_unstakedPartially
    (hunstaked : UnstakedPartially env stakerId amount s s') (account : T.AccountId) :
    stakedBy s'.staked account +
        (if stakerId = account then min amount (stakedBy s.staked stakerId) else 0) =
      stakedBy s.staked account := by
  have htaken := @sum_consume amount (stakesOf s stakerId)
  rw [sum_stakesOf] at htaken
  rw [← sum_stakesOf s', stakesOf_of_unstakedPartially hunstaked]
  by_cases haccount : account = stakerId
  · rw [if_pos haccount, if_pos haccount.symm, haccount]
    exact htaken
  · rw [if_neg haccount, if_neg (Ne.symm haccount), sum_stakesOf, Nat.add_zero]

theorem stakedBy_of_eraseWhere
    (hstaked : s'.staked = s.staked.eraseWhere fun key => key.1 = stakerId)
    (account : T.AccountId) :
    stakedBy s'.staked account = if account = stakerId then 0 else stakedBy s.staked account := by
  rw [← sum_stakesOf s', stakesOf_of_eraseWhere hstaked]
  split
  · rfl
  · exact sum_stakesOf s account

/-! ## Sums of pending amounts -/

theorem pendingOf_insert (pendingUnstake : FiniteMap ℕ (List (T.AccountId × ℕ))) (block : ℕ)
    (account : T.AccountId) :
    pendingOf (pendingUnstake.insert block
        (pendingUnstake.getD block [] ++ [(stakerId, amount)])) account =
      pendingOf pendingUnstake account + if stakerId = account then amount else 0 := by
  have hsum := pendingUnstake.sum_insert (fun _ pendings => pendingIn pendings account) block
    (pendingUnstake.getD block [] ++ [(stakerId, amount)])
  rw [term_pendingIn, pendingIn_append] at hsum
  have hone : pendingIn [(stakerId, amount)] account = if stakerId = account then amount
    else 0 := by
    simp [pendingIn]
  unfold pendingOf
  omega

/-! ## The invariant -/

/-- What is frozen is what is staked and what is pending. -/
structure FrozenSum (s : State T) : Prop where
  frozen_eq : ∀ account, frozenOf s account =
    stakedBy s.staked account + pendingOf s.pendingUnstake account
  frozen_le : ∀ account, frozenOf s account ≤ u128Max

section

variable (hsum : FrozenSum s)

include hsum

/-- The stakes of an account do not wrap around. -/
theorem FrozenSum.wrapBalance_stakedBy (account : T.AccountId) :
    wrapBalance (stakedBy s.staked account) = stakedBy s.staked account := by
  have heq := hsum.frozen_eq account
  have hle := hsum.frozen_le account
  refine Nat.mod_eq_of_lt ?_
  unfold u128Max at hle
  omega

theorem FrozenSum.stake (hstaked : Staked env stakerId amount s s') : FrozenSum s' where
  frozen_eq := by
    intro account
    have hbefore := hsum.frozen_eq account
    have hinsert := s.staked.sum_insert
      (fun key stake => if key.1 = account then stake.amount else 0)
      (stakerId, env.relayBlock)
      ⟨(s.staked.getD (stakerId, env.relayBlock) ⟨0, 0⟩).amount + amount,
        firstRecalcBlock env.config env.relayBlock⟩
    have hterm : s.staked.term (fun key stake => if key.1 = account then stake.amount else 0)
        (stakerId, env.relayBlock) =
          if stakerId = account then
            (s.staked.getD (stakerId, env.relayBlock) ⟨0, 0⟩).amount else 0 := by
      unfold FiniteMap.term FiniteMap.getD
      cases s.staked.get (stakerId, env.relayBlock) with
      | none => simp
      | some stake => rfl
    rw [hstaked.frozen, hstaked.staked, hstaked.pendingUnstake]
    unfold stakedBy at hbefore ⊢
    rw [hterm] at hinsert
    by_cases haccount : stakerId = account
    · simp only [if_pos haccount, if_pos haccount.symm] at hinsert ⊢
      omega
    · simp only [if_neg haccount, if_neg (Ne.symm haccount)] at hinsert ⊢
      omega
  frozen_le := by
    intro account
    rw [hstaked.frozen]
    by_cases haccount : account = stakerId
    · rw [if_pos haccount, haccount]
      exact hstaked.frozen_le
    · rw [if_neg haccount, Nat.add_zero]
      exact hsum.frozen_le account

/-- An amount that leaves the stakes becomes pending. -/
theorem FrozenSum.unstake (hunstaked : Unstaked env stakerId amount s s')
    (hstakes : ∀ account, stakedBy s'.staked account +
      (if stakerId = account then amount else 0) = stakedBy s.staked account) : FrozenSum s' where
  frozen_eq := by
    intro account
    have hbefore := hsum.frozen_eq account
    have hstake := hstakes account
    have hsame : frozenOf s' account = frozenOf s account := by
      unfold frozenOf
      rw [hunstaked.ledger]
    rw [hsame, hunstaked.pendingUnstake, pendingOf_insert]
    omega
  frozen_le := by
    intro account
    unfold frozenOf
    rw [hunstaked.ledger]
    exact hsum.frozen_le account

theorem FrozenSum.unstakePart
    (hunstaked : UnstakedPartially env stakerId amount s s') : FrozenSum s' := by
  refine hsum.unstake hunstaked.toUnstaked fun account => ?_
  have hle := hunstaked.amount_le
  rw [hsum.wrapBalance_stakedBy] at hle
  have htaken := stakedBy_of_unstakedPartially hunstaked account
  rwa [Nat.min_eq_left hle] at htaken

theorem FrozenSum.unstakeAll (hunstaked : UnstakedAll env stakerId s s') : FrozenSum s' := by
  refine hsum.unstake hunstaked.toUnstaked fun account => ?_
  rw [hsum.wrapBalance_stakedBy, stakedBy_of_eraseWhere hunstaked.staked]
  by_cases haccount : account = stakerId
  · simp [haccount]
  · simp [haccount, Ne.symm haccount]

theorem FrozenSum.drain (hdrained : Drained stakerId s s') : FrozenSum s' := by
  have hzero := hdrained.amount_eq_zero
  rw [hsum.wrapBalance_stakedBy] at hzero
  have hstaked := stakedBy_of_eraseWhere hdrained.staked
  obtain rfl := hdrained.after
  refine ⟨fun account => ?_, hsum.frozen_le⟩
  refine (hsum.frozen_eq account).trans (congrArg (· + _) ?_)
  rw [hstaked]
  split
  · rename_i haccount
    rw [haccount, hzero]
  · rfl

theorem FrozenSum.resolve {blocks : List ℕ} (hresolved : Resolved blocks s s') : FrozenSum s' where
  frozen_eq := by
    intro account
    have hbefore := hsum.frozen_eq account
    have hless := hresolved.pending_le account
    rw [hresolved.frozen, hresolved.staked]
    omega
  frozen_le := by
    intro account
    have hle := hsum.frozen_le account
    rw [hresolved.frozen]
    omega

theorem FrozenSum.payout {stakers : ℕ} {left : List (Key T × Stake)}
    (hpays : PaysPage env stakers s left s') (hfit : IncomesFit env.config
      (getCurrentRecalcBlock env.config env.relayBlock) {} (recordsLeft s)) :
    FrozenSum s' where
  frozen_eq := by
    intro account
    have hbefore := hsum.frozen_eq account
    have hchange : frozenOf s' account + stakedBy s.staked account =
        frozenOf s account + (({} : Accrual T)).owed account + stakedBy s'.staked account :=
      hpays.frozen (stored_recordsLeft s) hfit (fun _ => rfl) account
    have howed : (({} : Accrual T)).owed account = 0 := by simp [Accrual.owed]
    have hpending : s'.pendingUnstake = s.pendingUnstake := hpays.sameFrame.pendingUnstake
    rw [hpending]
    omega
  frozen_le := hpays.frozen_le hsum.frozen_le

end

/-! ## Runs -/

/-- The incomes that a payout can add up for one account fit into an amount. -/
def PayoutFits (s : State T) (input : Input T) : Prop :=
  match input.action with
  | .call _ (.payoutStakers _) =>
    IncomesFit input.env.config (getCurrentRecalcBlock input.env.config input.env.relayBlock) {}
      (recordsLeft s)
  | _ => True

theorem FrozenSum.step (hsum : FrozenSum s) (hfits : PayoutFits s input)
    (hstep : step s input = some s') : FrozenSum s' := by
  obtain ⟨env, action⟩ := input
  cases acts_of_step hstep with
  | setAdmin => exact ⟨hsum.frozen_eq, hsum.frozen_le⟩
  | stake hstaked => exact hsum.stake hstaked
  | unstakePart hunstaked => exact hsum.unstakePart hunstaked
  | unstakeNothing => exact hsum
  | unstakeAll hunstaked => exact hsum.unstakeAll hunstaked
  | drain hdrained => exact hsum.drain hdrained
  | payout _ _ hpays => exact hsum.payout hpays hfits
  | resolve _ hresolved => exact hsum.resolve hresolved
  | begin hresolved => exact hsum.resolve hresolved
  | maintain => exact hsum

/-- Pending amounts of a block stay until the parachain has reached it. -/
def PendingKept (env : Environment) (s s' : State T) : Prop :=
  ∀ block, s.pendingUnstake.getD block [] <+: s'.pendingUnstake.getD block [] ∨
    block ≤ env.blockNumber

theorem Unstaked.pendingKept (hunstaked : Unstaked env stakerId amount s s') :
    PendingKept env s s' := by
  intro block
  left
  rw [hunstaked.pendingUnstake, FiniteMap.getD_insert]
  by_cases hblock : block = wrapBlock (env.blockNumber + env.config.pendingInterval)
  · rw [if_pos hblock, hblock]
    exact List.prefix_append ..
  · rw [if_neg hblock]

theorem Resolved.pendingKept {blocks : List ℕ} (hresolved : Resolved blocks s s')
    (hpast : ∀ block ∈ blocks, block ≤ env.blockNumber) : PendingKept env s s' := by
  intro block
  by_cases hblock : block ∈ blocks
  · exact .inr (hpast block hblock)
  · left
    simp only [FiniteMap.getD, hresolved.pendingUnstake, if_neg hblock]
    exact List.prefix_rfl

theorem pendingKept_of_eq (heq : s'.pendingUnstake = s.pendingUnstake) : PendingKept env s s' := by
  intro block
  rw [heq]
  exact .inl List.prefix_rfl

theorem pendingKept_of_step (hstep : step s input = some s') : PendingKept input.env s s' := by
  obtain ⟨env, action⟩ := input
  cases acts_of_step hstep with
  | stake hstaked => exact pendingKept_of_eq hstaked.pendingUnstake
  | unstakePart hunstaked => exact hunstaked.toUnstaked.pendingKept
  | unstakeAll hunstaked => exact hunstaked.toUnstaked.pendingKept
  | drain hdrained =>
    obtain rfl := hdrained.after
    exact pendingKept_of_eq rfl
  | payout _ _ hpays => exact pendingKept_of_eq hpays.sameFrame.pendingUnstake
  | resolve hpast hresolved =>
    exact hresolved.pendingKept fun block hblock => Nat.le_of_lt (hpast block hblock)
  | begin hresolved =>
    exact hresolved.pendingKept fun block hblock => Nat.le_of_eq (List.mem_singleton.mp hblock)
  | _ => exact pendingKept_of_eq rfl

theorem frozenSum_genesis {ledger : T.currency.Ledger}
    (hledger : ∀ account, T.currency.frozen ledger account = 0) : FrozenSum (genesis ledger) where
  frozen_eq account := by
    have hstaked : stakedBy (genesis ledger).staked account = 0 := FiniteMap.sum_empty _
    have hpending : pendingOf (genesis ledger).pendingUnstake account = 0 := FiniteMap.sum_empty _
    rw [hstaked, hpending]
    exact hledger account
  frozen_le account := (hledger account).trans_le (Nat.zero_le _)

/-- In every run whose payouts do not owe an account more than an amount can be, the
freeze of an account is what it has staked and what is pending for it, and pending
amounts stay until their block. -/
theorem frozen_eq_staked_add_pending {ledger : T.currency.Ledger} {history : History T}
    (hledger : ∀ account, T.currency.frozen ledger account = 0)
    (hrun : Run step (genesis ledger) history s)
    (hfits : ∀ event ∈ history, PayoutFits event.state event.call) :
    (∀ account, frozenOf s account =
        stakedBy s.staked account + pendingOf s.pendingUnstake account) ∧
      ∀ input s', step s input = some s' → PendingKept input.env s s' := by
  have hsum : FrozenSum s := hrun.invariant (fun s input => PayoutFits s input)
    (frozenSum_genesis hledger) (fun _ _ _ hsum hfit hstep => hsum.step hfit hstep) hfits
  exact ⟨hsum.frozen_eq, fun _ _ => pendingKept_of_step⟩

/-! ## Examples -/

/-- All incomes of a payout together fit into an amount. -/
def PayoutSmall (s : State T) (input : Input T) : Prop :=
  ((recordsLeft s).map fun entry => paidIncome input.env.config
    (getCurrentRecalcBlock input.env.config input.env.relayBlock) entry.2).sum ≤ u128Max

instance (s : State T) (input : Input T) : Decidable (PayoutSmall s input) :=
  inferInstanceAs (Decidable (_ ≤ _))

theorem payoutFits_of_small (hsmall : PayoutSmall s input) : PayoutFits s input := by
  unfold PayoutFits
  split
  · intro account
    have hle : incomesOf input.env.config
        (getCurrentRecalcBlock input.env.config input.env.relayBlock)
        (recordsLeft s) account ≤ u128Max := by
      refine Nat.le_trans (List.sum_le_sum fun entry _ => ?_) hsmall
      split
      · exact Nat.le_refl _
      · exact Nat.zero_le _
    simpa [Accrual.owed] using hle
  · trivial

namespace Reference

/-- Two stakes of an account, a part of which is unstaked again, a payout, and the
block at which the pending amount is released. -/
def stakingRun : List (Input config) :=
  [appoint 1, signed (blockAt 1 1 1) 2 (.stake 200),
    signed (blockAt 3 2 1) 2 (.stake 300),
    signed (blockAt 5 3 1) 2 (.unstakePartial 250),
    signed (blockAt 45 4 1) 1 (.payoutStakers none),
    ⟨blockAt 46 8 1, .onInitialize⟩]

theorem stakingRun_isSome : (replay step [] (genesis (ledger 100000)) stakingRun).isSome := by
  decide +kernel

/-- An account doubles two stakes 121 times in one payout. -/
def overflowRun : List (Input config) :=
  [appoint 1, signed (blockAt 1 1 100) 2 (.stake 100),
    signed (blockAt 2 2 100) 2 (.stake 100),
    signed (blockAt 1220 3 100) 1 (.payoutStakers none)]

end Reference

open Reference in
/-- Of 500 that were staked, 250 have been released, and the rest has earned 8. -/
theorem frozen_eq_stakingRun :
    frozenOf (replayState step (genesis (ledger 100000)) stakingRun stakingRun_isSome) (2 : ℕ) =
        258 ∧
      ∀ account,
        frozenOf (replayState step (genesis (ledger 100000)) stakingRun stakingRun_isSome) account =
          stakedBy (replayState step (genesis (ledger 100000)) stakingRun
              stakingRun_isSome).staked account +
            pendingOf (replayState step (genesis (ledger 100000)) stakingRun
              stakingRun_isSome).pendingUnstake account := by
  have hsmall : ∀ event ∈ replayHistory step (genesis (ledger 100000)) stakingRun stakingRun_isSome,
      PayoutSmall event.state event.call := by
    decide +kernel
  have hall := frozen_eq_staked_add_pending (fun _ => rfl)
    (run_replay step (genesis (ledger 100000)) stakingRun stakingRun_isSome)
    fun event hevent => payoutFits_of_small (hsmall event hevent)
  exact ⟨by decide +kernel, hall.1⟩

open Reference in
/-- The incomes of two stakes wrap around, so that less is frozen than is staked. -/
theorem frozen_lt_staked_of_overflow :
    ∃ history, ∃ s : State config, Run step (genesis (ledger (2 ^ 127 + 2 ^ 126))) history s ∧
      frozenOf s (2 : ℕ) < stakedBy s.staked (2 : ℕ) := by
  refine ⟨_, _, run_replay step (genesis (ledger (2 ^ 127 + 2 ^ 126))) overflowRun ?_, ?_⟩
  · decide +kernel
  · decide +kernel

end UniqueChain.AppPromotion
