import UniqueChain.Promotion.Effects

/-!
# Unstaking the oldest first

A partial unstake takes an amount out of the oldest stakes of an account.  The code
computes what remains of the stakes that are touched and writes that back, with a zero for
a stake that is used up.  `consume` says what should be left of the list of stakes, and
`stakesOf_of_unstakedPartially` that it is what is left.
-/

namespace UniqueChain.AppPromotion

open FiniteMap

variable {T : Config} {s s' : State T} {env : Environment} {stakerId : T.AccountId}
  {amount : ℕ} {staked : FiniteMap (Key T) Stake} {stakes : List (ℕ × Stake)} {stake : ℕ × Stake}

/-- What is left of stakes after an amount is taken out of them, the first ones first. -/
def consume : ℕ → List (ℕ × Stake) → List (ℕ × Stake)
  | _, [] => []
  | amount, (block, stake) :: rest =>
    if amount = 0 then
      (block, stake) :: rest
    else if amount < stake.amount then
      (block, { stake with amount := stake.amount - amount }) :: rest
    else
      consume (amount - stake.amount) rest

theorem consume_zero : consume 0 stakes = stakes := by
  cases stakes <;> rfl

/-- Taking two amounts one after the other is taking their sum. -/
theorem consume_consume (first second : ℕ) :
    consume second (consume first stakes) = consume (first + second) stakes := by
  induction stakes generalizing first with
  | nil => rfl
  | cons oldest rest ih =>
    obtain ⟨block, stake⟩ := oldest
    by_cases hfirst : first = 0
    · rw [hfirst, consume_zero, Nat.zero_add]
    by_cases hsecond : second = 0
    · rw [hsecond, consume_zero, Nat.add_zero]
    have hboth : first + second ≠ 0 := by omega
    by_cases hpart : first < stake.amount
    · -- the second amount goes on with what the first has left of the oldest stake
      simp only [consume, if_neg hfirst, if_neg hsecond, if_neg hboth, if_pos hpart]
      by_cases hrest : first + second < stake.amount
      · rw [if_pos hrest, if_pos (by omega), Nat.sub_sub]
      · rw [if_neg hrest, if_neg (by omega)]
        congr 1
        omega
    · have hmore : ¬ first + second < stake.amount := by omega
      simp only [consume, if_neg hfirst, if_neg hboth, if_neg hpart, if_neg hmore, ih]
      congr 1
      omega

theorem map_fst_consume_sublist :
    ((consume amount stakes).map Prod.fst).Sublist (stakes.map Prod.fst) := by
  induction stakes generalizing amount with
  | nil => exact .refl _
  | cons oldest rest ih =>
    simp only [consume]
    split
    · exact .refl _
    split
    · exact .refl _
    · exact ih.cons _

theorem sum_consume :
    ((consume amount stakes).map fun stake => stake.2.amount).sum +
        min amount (stakes.map fun stake => stake.2.amount).sum =
      (stakes.map fun stake => stake.2.amount).sum := by
  induction stakes generalizing amount with
  | nil => rw [List.map_nil, List.sum_nil, Nat.min_zero]; rfl
  | cons oldest rest ih =>
    have hrest := @ih (amount - oldest.2.amount)
    simp only [consume, List.map_cons, List.sum_cons]
    split
    · simp only [List.map_cons, List.sum_cons]
      omega
    split
    · simp only [List.map_cons, List.sum_cons]
      omega
    · omega

theorem length_consume :
    (consume amount stakes).length + (takeFromStakes amount stakes).2 = stakes.length := by
  induction stakes generalizing amount with
  | nil => rfl
  | cons oldest rest ih =>
    have hrest := @ih (amount - oldest.2.amount)
    simp only [consume, takeFromStakes]
    split
    · rfl
    split
    · rfl
    · simp only [List.length_cons]
      omega

/-- The stakes that are left keep their recalculation blocks. -/
theorem recalcBlock_of_mem_consume (hstake : stake ∈ consume amount stakes) :
    ∃ old, (stake.1, old) ∈ stakes ∧ old.recalcBlock = stake.2.recalcBlock := by
  induction stakes generalizing amount with
  | nil => cases hstake
  | cons oldest rest ih =>
    simp only [consume] at hstake
    split at hstake
    · exact ⟨stake.2, hstake, rfl⟩
    split at hstake
    · rcases List.mem_cons.mp hstake with rfl | hrest
      · exact ⟨oldest.2, List.mem_cons_self, rfl⟩
      · exact ⟨stake.2, List.mem_cons_of_mem _ hrest, rfl⟩
    · obtain ⟨old, hold, hblock⟩ := ih hstake
      exact ⟨old, List.mem_cons_of_mem _ hold, hblock⟩

/-! ## What is written back -/

theorem get_changeStake_of_ne {change : ℕ × ℕ} {key : Key T} (hkey : key ≠ (stakerId, change.1)) :
    (changeStake stakerId staked change).get key = staked.get key := by
  unfold changeStake
  split
  · exact get_erase_of_ne _ hkey
  · exact get_insert_of_ne _ _ hkey

theorem get_foldl_changeStake_of_ne {changes : List (ℕ × ℕ)} {key : Key T}
    (hkey : key.1 ≠ stakerId) :
    (changes.foldl (changeStake stakerId) staked).get key = staked.get key := by
  induction changes generalizing staked with
  | nil => rfl
  | cons change rest ih =>
    rw [List.foldl_cons, ih, get_changeStake_of_ne fun heq => hkey (congrArg Prod.fst heq)]

/-- The stakes of a list are in storage, each under its own block. -/
structure StoredStakes (stakerId : T.AccountId) (stakes : List (ℕ × Stake))
    (staked : FiniteMap (Key T) Stake) : Prop where
  nodup : (stakes.map Prod.fst).Nodup
  get : ∀ stake ∈ stakes, staked.get (stakerId, stake.1) = some stake.2

theorem storedStakes_stakesOf (s : State T) (stakerId : T.AccountId) :
    StoredStakes stakerId (stakesOf s stakerId) s.staked :=
  ⟨s.staked.nodup_map_fst_prefixEntries stakerId,
    fun _ hstake => (s.staked.mem_prefixEntries stakerId).mp hstake⟩

theorem StoredStakes.tail {first : ℕ × Stake}
    {rest : List (ℕ × Stake)} (hstored : StoredStakes stakerId (first :: rest) staked)
    (remaining : ℕ) :
    StoredStakes stakerId rest (changeStake stakerId staked (first.1, remaining)) where
  nodup := (List.nodup_cons.mp hstored.nodup).2
  get := by
    intro other hother
    have hblock : other.1 ≠ first.1 := fun heq =>
      (List.nodup_cons.mp hstored.nodup).1 (heq ▸ List.mem_map_of_mem hother)
    rw [get_changeStake_of_ne fun heq => hblock (Prod.mk.inj heq).2]
    exact hstored.get other (List.mem_cons_of_mem _ hother)

theorem StoredStakes.get_iff (hstored : StoredStakes stakerId stakes staked) :
    staked.get (stakerId, stake.1) = some stake.2 ↔
      stake ∈ stakes ∨
        stake.1 ∉ stakes.map Prod.fst ∧ staked.get (stakerId, stake.1) = some stake.2 := by
  constructor
  · intro hget
    by_cases hblock : stake.1 ∈ stakes.map Prod.fst
    · obtain ⟨old, hold, heq⟩ := List.mem_map.mp hblock
      have hsame := hstored.get old hold
      rw [heq, hget] at hsame
      exact .inl (Prod.ext heq (Option.some.inj hsame).symm ▸ hold)
    · exact .inr ⟨hblock, hget⟩
  · rintro (hmem | ⟨_, hget⟩)
    · exact hstored.get stake hmem
    · exact hget

/-- What is in storage after the remains of stakes are written back. -/
theorem get_takeFromStakes (hstored : StoredStakes stakerId stakes staked) :
    ((takeFromStakes amount stakes).1.foldl (changeStake stakerId) staked).get (stakerId, stake.1) =
        some stake.2 ↔
      stake ∈ consume amount stakes ∨
        stake.1 ∉ stakes.map Prod.fst ∧ staked.get (stakerId, stake.1) = some stake.2 := by
  induction stakes generalizing amount staked with
  | nil => simp [takeFromStakes, consume]
  | cons oldest rest ih =>
    obtain ⟨hnew, _⟩ := List.nodup_cons.mp hstored.nodup
    have hfirst : staked.get (stakerId, oldest.1) = some oldest.2 :=
      hstored.get oldest List.mem_cons_self
    simp only [takeFromStakes, consume]
    split
    · exact hstored.get_iff
    split
    · -- the oldest stake is reduced
      rename_i hpart
      have hremains : oldest.2.amount - amount ≠ 0 := by omega
      simp only [List.foldl_cons, List.foldl_nil, List.map_cons, List.mem_cons, not_or]
      by_cases hblock : stake.1 = oldest.1
      · have hother : stake ∉ rest := fun hmem => hnew (hblock ▸ List.mem_map_of_mem hmem)
        simp only [changeStake, if_neg hremains, hblock, get_insert_self,
          getD_of_get hfirst, hother, not_true_eq_false, false_and, or_false,
          Option.some.injEq, Prod.ext_iff, true_and]
        exact eq_comm
      · have hother : stake ≠ (oldest.1, { oldest.2 with amount := oldest.2.amount - amount }) :=
          by
            rintro rfl
            exact hblock rfl
        have hold : stake ≠ oldest := by
          rintro rfl
          exact hblock rfl
        rw [get_changeStake_of_ne fun heq => hblock (congrArg Prod.snd heq)]
        refine hstored.get_iff.trans ?_
        simp only [List.mem_cons, List.map_cons, not_or, hother, hold, false_or]
    · -- the oldest stake is used up
      rw [List.foldl_cons, ih (hstored.tail 0), List.map_cons, List.mem_cons, not_or]
      by_cases hblock : stake.1 = oldest.1
      · simp only [changeStake, if_true, hblock, get_erase_self, reduceCtorEq, and_false,
          not_true_eq_false, false_and]
      · rw [get_changeStake_of_ne fun heq => hblock (congrArg Prod.snd heq)]
        simp only [hblock, not_false_eq_true, true_and]

/-- What is left of the stakes of each account after a partial unstake. -/
theorem stakesOf_of_unstakedPartially
    (hunstaked : UnstakedPartially env stakerId amount s s') (account : T.AccountId) :
    stakesOf s' account =
      if account = stakerId then consume amount (stakesOf s stakerId) else stakesOf s account := by
  unfold stakesOf
  rw [hunstaked.staked]
  split
  · rename_i haccount
    subst haccount
    refine prefixEntries_eq _ _ ?_ fun stake => ?_
    · have hblocks := s.staked.pairwise_prefixEntries account
      rw [← List.pairwise_map] at hblocks
      exact List.pairwise_map.mp (hblocks.sublist map_fst_consume_sublist)
    · rw [get_takeFromStakes (storedStakes_stakesOf s account)]
      refine (or_iff_left ?_).symm
      rintro ⟨hnew, hget⟩
      exact hnew (List.mem_map_of_mem ((s.staked.mem_prefixEntries account).mpr hget))
  · rename_i haccount
    refine prefixEntries_eq _ _ (s.staked.pairwise_prefixEntries account) fun stake => ?_
    rw [s.staked.mem_prefixEntries, get_foldl_changeStake_of_ne haccount]

/-- No stakes of an account are left after all of them are removed. -/
theorem stakesOf_of_eraseWhere
    (hstaked : s'.staked = s.staked.eraseWhere fun key => key.1 = stakerId)
    (account : T.AccountId) :
    stakesOf s' account = if account = stakerId then [] else stakesOf s account := by
  unfold stakesOf
  rw [hstaked]
  split
  · rename_i haccount
    refine prefixEntries_eq _ _ .nil fun stake => ?_
    simp [get_eraseWhere, haccount]
  · rename_i haccount
    refine prefixEntries_eq _ _ (s.staked.pairwise_prefixEntries account) fun stake => ?_
    rw [s.staked.mem_prefixEntries, get_eraseWhere, if_neg haccount]

end UniqueChain.AppPromotion
