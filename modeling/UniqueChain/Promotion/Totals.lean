import UniqueChain.Promotion.Freezes

/-!
# The total of all stakes

`TotalStaked` goes up and down with the stakes.  With it, what a partial unstake does can
be said completely: the oldest stakes of the account are consumed, the amount leaves the
total and becomes pending, and nothing else changes.

The payout adds the incomes of one account up with `+`, so the total is right as long as
they fit into an amount.  The block of the pending amount is a sum of 32 bits.
-/

namespace UniqueChain.AppPromotion

open Execution FiniteMap

variable {T : Config} {s s' : State T} {env : Environment} {stakerId : T.AccountId}
  {amount : ℕ} {input : Input T}

/-- The total of the stakes of all accounts. -/
def totalAmount (staked : FiniteMap (Key T) Stake) : ℕ := staked.sum fun _ stake => stake.amount

theorem stakedIn_true (staked : FiniteMap (Key T) Stake) :
    stakedIn (fun _ => True) staked = totalAmount staked := by
  simp only [stakedIn, totalAmount, if_true]

/-- Where only the stakes of one account change, the total changes with them. -/
theorem totalAmount_add
    (hothers : ∀ key : Key T, key.1 ≠ stakerId → s'.staked.get key = s.staked.get key) :
    totalAmount s'.staked + stakedBy s.staked stakerId =
      totalAmount s.staked + stakedBy s'.staked stakerId := by
  rw [← sum_stakesOf, ← sum_stakesOf]
  exact sum_add_prefixEntries Stake.amount hothers

theorem totalAmount_of_eraseWhere
    (hstaked : s'.staked = s.staked.eraseWhere fun key => key.1 = stakerId) :
    totalAmount s'.staked + stakedBy s.staked stakerId = totalAmount s.staked := by
  have hnone := stakedBy_of_eraseWhere hstaked stakerId
  rw [if_pos rfl] at hnone
  rw [totalAmount_add, hnone, Nat.add_zero]
  intro key hkey
  rw [hstaked, get_eraseWhere, if_neg hkey]

theorem UnstakedPartially.get_of_ne (hunstaked : UnstakedPartially env stakerId amount s s')
    (key : Key T) (hkey : key.1 ≠ stakerId) : s'.staked.get key = s.staked.get key := by
  rw [hunstaked.staked, get_foldl_changeStake_of_ne hkey]

theorem totalAmount_of_staked (hstaked : Staked env stakerId amount s s') :
    totalAmount s'.staked = totalAmount s.staked + amount := by
  have hinsert := s.staked.sum_insert (fun _ stake => stake.amount) (stakerId, env.relayBlock)
    ⟨(s.staked.getD (stakerId, env.relayBlock) ⟨0, 0⟩).amount + amount,
      firstRecalcBlock env.config env.relayBlock⟩
  have hterm : s.staked.term (fun _ stake => stake.amount) (stakerId, env.relayBlock) =
      (s.staked.getD (stakerId, env.relayBlock) ⟨0, 0⟩).amount := by
    unfold FiniteMap.term FiniteMap.getD
    cases s.staked.get (stakerId, env.relayBlock) <;> rfl
  rw [hterm] at hinsert
  dsimp only at hinsert
  rw [hstaked.staked]
  unfold totalAmount
  omega

theorem totalStaked_of_step (hsum : FrozenSum s) (hfits : PayoutFits s input)
    (htotal : s.totalStaked = totalAmount s.staked) (hstep : step s input = some s') :
    s'.totalStaked = totalAmount s'.staked := by
  obtain ⟨env, action⟩ := input
  cases acts_of_step hstep with
  | stake hstaked => rw [hstaked.totalStaked, totalAmount_of_staked hstaked, htotal]
  | @unstakePart stakerId _ _ _ hunstaked =>
    have hadd := totalAmount_add hunstaked.get_of_ne
    have hown := stakedBy_of_unstakedPartially hunstaked stakerId
    have hle := hunstaked.amount_le
    have hafter := hunstaked.totalStaked
    rw [hsum.wrapBalance_stakedBy] at hle
    rw [if_pos rfl, Nat.min_eq_left hle] at hown
    omega
  | unstakeAll hunstaked =>
    have hadd := totalAmount_of_eraseWhere hunstaked.staked
    have hafter := hunstaked.totalStaked
    rw [hsum.wrapBalance_stakedBy] at hafter
    omega
  | drain hdrained =>
    have hadd := totalAmount_of_eraseWhere hdrained.staked
    have hzero := hdrained.amount_eq_zero
    rw [hsum.wrapBalance_stakedBy] at hzero
    rw [hdrained.after] at hadd ⊢
    dsimp only at hadd ⊢
    omega
  | payout _ _ hpays =>
    have hpaid := hpays.totalStaked (stored_recordsLeft s) hfits fun _ => rfl
    simp only [stakedIn_true, Accrual.owedIn, Option.elim_none] at hpaid
    omega
  | resolve _ hresolved => rw [hresolved.totalStaked, hresolved.staked, htotal]
  | begin hresolved => rw [hresolved.totalStaked, hresolved.staked, htotal]
  | _ => exact htotal

/-- The total is that of all stakes. -/
theorem totalStaked_of_run {ledger : T.currency.Ledger} {history : History T}
    (hledger : ∀ account, T.currency.frozen ledger account = 0)
    (hrun : Run step (genesis ledger) history s)
    (hfits : ∀ event ∈ history, PayoutFits event.state event.call) :
    s.totalStaked = totalAmount s.staked := by
  have hboth : FrozenSum s ∧ s.totalStaked = totalAmount s.staked := by
    refine hrun.invariant (P := fun s => FrozenSum s ∧ s.totalStaked = totalAmount s.staked)
      (fun s input => PayoutFits s input) ⟨frozenSum_genesis hledger, ?_⟩ ?_ hfits
    · exact (sum_empty _).symm
    · rintro s input s' ⟨hsum, htotal⟩ hfits hstep
      exact ⟨hsum.step hfits hstep, totalStaked_of_step hsum hfits htotal hstep⟩
  exact hboth.2

/-- A call `unstake_partial`. -/
def unstakes (env : Environment) (stakerId : T.AccountId) (amount : ℕ) : Input T :=
  ⟨env, .call (.signed stakerId) (.unstakePartial amount)⟩

theorem unstakedPartially_of_step (hpos : 0 < amount)
    (hstep : step s (unstakes env stakerId amount) = some s') :
    UnstakedPartially env stakerId amount s s' := by
  cases acts_of_step hstep with
  | unstakePart hunstaked => exact hunstaked
  | unstakeNothing => exact absurd hpos (Nat.lt_irrefl 0)

/-- The stakes of all accounts determine what is stored. -/
theorem staked_eq_of_stakesOf (hstakes : ∀ account, stakesOf s' account = stakesOf s account) :
    s'.staked = s.staked := by
  refine ext_get fun key => Option.ext fun stake => ?_
  have hmem : (key.2, stake) ∈ stakesOf s' key.1 ↔ (key.2, stake) ∈ stakesOf s key.1 := by
    rw [hstakes]
  rwa [stakesOf, stakesOf, mem_prefixEntries, mem_prefixEntries] at hmem

/-- The pending amount is entered at the current block and the interval exactly if their sum
does not wrap around. -/
theorem pendingUnstake_eq_iff (hunstaked : UnstakedPartially env stakerId amount s s') :
    s'.pendingUnstake = s.pendingUnstake.insert (env.blockNumber + env.config.pendingInterval)
          (s.pendingUnstake.getD (env.blockNumber + env.config.pendingInterval) [] ++
              [(stakerId, amount)]) ↔
      env.blockNumber + env.config.pendingInterval < 2 ^ 32 := by
  rw [hunstaked.pendingUnstake]
  generalize env.blockNumber + env.config.pendingInterval = block
  constructor
  · intro hsame
    by_contra hwraps
    have hother : block ≠ wrapBlock block := by
      have hlt : wrapBlock block < 2 ^ 32 := Nat.mod_lt _ (by decide)
      omega
    have hget := congrArg (fun pendings => pendings.getD block []) hsame
    simp only [getD_insert, if_neg hother, if_true] at hget
    have hlength := congrArg List.length hget
    simp at hlength
  · intro hfits
    rw [wrapBlock, Nat.mod_eq_of_lt hfits]

/-- A partial unstake in a run whose payouts do not owe an account more than an amount can
be.  The oldest stakes are consumed and no others change; the amount leaves the total,
which is still that of all stakes, and is pending from now on, at the block that is meant
if the number of that block does not wrap around.  Two partial unstakes leave what one
of their sum leaves. -/
theorem unstakePartial_oldest_first {ledger : T.currency.Ledger} {history : History T}
    (hledger : ∀ account, T.currency.frozen ledger account = 0)
    (hrun : Run step (genesis ledger) history s)
    (hfits : ∀ event ∈ history, PayoutFits event.state event.call) (hpos : 0 < amount)
    (hstep : step s (unstakes env stakerId amount) = some s') :
    stakesOf s' stakerId = consume amount (stakesOf s stakerId) ∧
      (∀ account ≠ stakerId, ∀ block,
        s'.staked.get (account, block) = s.staked.get (account, block)) ∧
      s'.totalStaked + amount = s.totalStaked ∧ s'.totalStaked = totalAmount s'.staked ∧
      (s'.pendingUnstake = s.pendingUnstake.insert (env.blockNumber + env.config.pendingInterval)
            (s.pendingUnstake.getD (env.blockNumber + env.config.pendingInterval) [] ++
                [(stakerId, amount)]) ↔
        env.blockNumber + env.config.pendingInterval < 2 ^ 32) ∧
      ∀ env₂ env₃ other s₂ s₃, 0 < other → step s' (unstakes env₂ stakerId other) = some s₂ →
        step s (unstakes env₃ stakerId (amount + other)) = some s₃ →
        s₂.staked = s₃.staked := by
  have hunstaked := unstakedPartially_of_step hpos hstep
  have hown : stakesOf s' stakerId = consume amount (stakesOf s stakerId) := by
    rw [stakesOf_of_unstakedPartially hunstaked, if_pos rfl]
  refine ⟨hown, fun account haccount block => hunstaked.get_of_ne _ haccount,
    hunstaked.totalStaked, ?_, pendingUnstake_eq_iff hunstaked, ?_⟩
  · refine totalStaked_of_run hledger (hrun.accepted hstep) fun event hevent => ?_
    rcases List.mem_cons.mp hevent with rfl | hevent
    · trivial
    · exact hfits event hevent
  · intro env₂ env₃ other s₂ s₃ hother hstep₂ hstep₃
    have hafter := unstakedPartially_of_step hother hstep₂
    have hboth := unstakedPartially_of_step (by omega) hstep₃
    refine staked_eq_of_stakesOf fun account => ?_
    rw [stakesOf_of_unstakedPartially hafter, stakesOf_of_unstakedPartially hboth, hown,
      consume_consume]
    split
    · rfl
    · rename_i haccount
      rw [stakesOf_of_unstakedPartially hunstaked, if_neg haccount]

/-! ## Examples -/

namespace Reference

/-- Two stakes of an account. -/
def twoStakes : List (Input config) :=
  [signed (blockAt 1 1 1) 2 (.stake 200), signed (blockAt 3 2 1) 2 (.stake 300)]

def staking : State config :=
  replayState step (genesis (ledger 100000)) twoStakes (by decide +kernel)

/-- The oldest stake and a part of the other are taken back. -/
def takeBack : Input config := unstakes (blockAt 5 3 1) (2 : ℕ) 250

theorem takeBack_isSome : (step staking takeBack).isSome := by
  decide +kernel

/-- A block whose sum with the interval wraps around. -/
def takeBackLate : Input config := unstakes (blockAt 5 (2 ^ 32 - 1) 1) (2 : ℕ) 1

theorem takeBackLate_isSome : (step staking takeBackLate).isSome := by
  decide +kernel

def overflowed : State config :=
  replayState step (genesis (ledger (2 ^ 127 + 2 ^ 126))) overflowRun (by decide +kernel)

theorem overflowed_isSome : (step overflowed takeBack).isSome := by
  decide +kernel

end Reference

open Reference in
theorem unstakePartial_oldest_first_twoStakes :
    ∃ s', step staking takeBack = some s' ∧
      stakesOf s' (2 : ℕ) = [(3, ⟨250, 20⟩)] ∧ s'.totalStaked = totalAmount s'.staked := by
  obtain ⟨s', hstep⟩ := Option.isSome_iff_exists.mp takeBack_isSome
  have hall := unstakePartial_oldest_first (fun _ => rfl)
    (run_replay step (genesis (ledger 100000)) twoStakes _) (by
      intro event hevent
      have hsmall : ∀ event ∈ replayHistory step (genesis (ledger 100000)) twoStakes
          (by decide +kernel), PayoutSmall event.state event.call := by decide +kernel
      exact payoutFits_of_small (hsmall event hevent)) (by decide) hstep
  refine ⟨s', hstep, hall.1.trans ?_, hall.2.2.2.1⟩
  decide +kernel

open Reference in
/-- After incomes have wrapped around, the total is not that of the stakes; and an amount is
pending at a block that is past when the sum of the block and the interval wraps around. -/
theorem unstakePartial_total_differs :
    (∃ history s', Run step (genesis (ledger (2 ^ 127 + 2 ^ 126))) history overflowed ∧
      step overflowed takeBack = some s' ∧ s'.totalStaked ≠ totalAmount s'.staked) ∧
    ∃ s', step staking takeBackLate = some s' ∧ (s'.pendingUnstake.getD 4 []).length = 1 := by
  refine ⟨⟨_, _, run_replay step _ overflowRun _,
    (Option.some_get overflowed_isSome).symm, ?_⟩, _,
    (Option.some_get takeBackLate_isSome).symm, ?_⟩
  · decide +kernel
  · decide +kernel

end UniqueChain.AppPromotion
