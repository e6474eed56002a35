import UniqueChain.Promotion.Freezes
import UniqueChain.Promotion.Pages

/-!
# Rounds of payouts

A round is what happens at one recalculation block: payouts in pages, and stakes and
unstakes in between.  A record is due as long as its recalculation block is not later
than the one of the round.  Every due record lies behind the cursor, if there is one:
a page pays the records up to the new cursor, a stake writes a record that is not due,
and unstaking does not touch recalculation blocks.  So no due record is skipped, and a
record that was credited is not due again.
-/

namespace UniqueChain.AppPromotion

open Execution

variable {T : Config} {s s' : State T} {env : Environment} {config : PalletConfiguration}
  {current stakers : ℕ} {stakerId : T.AccountId} {left : List (Key T × Stake)}

variable {history : History T} {input : Input T} {key : Key T} {start : State T} {stake : Stake}

/-! ## Recalculation blocks -/

/-- The block numbers that a stake or a payout computes fit into 32 bits. -/
def Unwrapped (env : Environment) : Prop :=
  getCurrentRecalcBlock env.config env.relayBlock + 2 * env.config.recalculationInterval < 2 ^ 32

theorem getCurrentRecalcBlock_le (config : PalletConfiguration) (relayBlock : ℕ) :
    getCurrentRecalcBlock config relayBlock ≤ relayBlock :=
  Nat.div_mul_le_self ..

theorem followingRecalcBlock_eq (hfits : current + config.recalculationInterval < 2 ^ 32) :
    followingRecalcBlock config current = current + config.recalculationInterval :=
  Nat.mod_eq_of_lt hfits

/-- A stake does not earn in the interval in which it is made. -/
theorem lt_firstRecalcBlock (hinterval : env.config.recalculationInterval ≠ 0)
    (hunwrapped : Unwrapped env) :
    env.relayBlock < firstRecalcBlock env.config env.relayBlock := by
  have hdivided := Nat.lt_div_mul_add (a := env.relayBlock) (Nat.pos_of_ne_zero hinterval)
  unfold Unwrapped getCurrentRecalcBlock at hunwrapped
  unfold firstRecalcBlock wrapBlock
  split
  · rw [Nat.add_mul, Nat.mod_eq_of_lt (by omega)]
    omega
  · rw [Nat.add_mul, Nat.mod_eq_of_lt (by omega)]
    omega

/-- Unstaking does not touch the recalculation blocks of the records it leaves. -/
theorem get_of_unstakedPartially {amount : ℕ}
    (hunstaked : UnstakedPartially env stakerId amount s s')
    (hget : s'.staked.get key = some stake) :
    ∃ old, s.staked.get key = some old ∧ old.recalcBlock = stake.recalcBlock := by
  have hmem : (key.2, stake) ∈ stakesOf s' key.1 := (s'.staked.mem_prefixEntries key.1).mpr hget
  rw [stakesOf_of_unstakedPartially hunstaked] at hmem
  split at hmem
  · rename_i haccount
    obtain ⟨old, hold, hblock⟩ := recalcBlock_of_mem_consume hmem
    rw [← haccount] at hold
    exact ⟨old, (s.staked.mem_prefixEntries key.1).mp hold, hblock⟩
  · exact ⟨stake, (s.staked.mem_prefixEntries key.1).mp hmem, rfl⟩

/-- What happens to the records besides payouts: each one has kept its recalculation
block, or was just staked. -/
def KeepsRecalc (env : Environment) (s s' : State T) : Prop :=
  ∀ key stake, s'.staked.get key = some stake →
    (∃ old, s.staked.get key = some old ∧ old.recalcBlock = stake.recalcBlock) ∨
      (key.2 = env.relayBlock ∧ env.relayBlock < stake.recalcBlock)

theorem keepsRecalc_of_eq (hstaked : s'.staked = s.staked) : KeepsRecalc env s s' := by
  intro key stake hget
  rw [hstaked] at hget
  exact .inl ⟨stake, hget, rfl⟩

theorem get_of_eraseWhere {staked : FiniteMap (Key T) Stake}
    (hget : (staked.eraseWhere fun key => key.1 = stakerId).get key = some stake) :
    staked.get key = some stake := by
  rw [FiniteMap.get_eraseWhere] at hget
  split at hget
  · cases hget
  · exact hget

/-- Only payouts move the cursor. -/
theorem cursor_eq_of_step (hstep : step s input = some s')
    (hother : ¬ IsPayout input) : s'.previousCalculatedRecord = s.previousCalculatedRecord := by
  obtain ⟨env, action⟩ := input
  cases acts_of_step hstep with
  | stake hstaked => exact hstaked.previousCalculatedRecord
  | unstakePart hunstaked => exact hunstaked.previousCalculatedRecord
  | unstakeAll hunstaked => exact hunstaked.previousCalculatedRecord
  | drain hdrained => rw [hdrained.after]
  | payout => exact absurd ⟨_, _, rfl⟩ hother
  | resolve _ hresolved => exact hresolved.previousCalculatedRecord
  | begin hresolved => exact hresolved.previousCalculatedRecord
  | _ => rfl

theorem keepsRecalc_of_step (hstep : step s input = some s')
    (hother : ¬ IsPayout input) (hunwrapped : Unwrapped input.env) :
    KeepsRecalc input.env s s' := by
  obtain ⟨env, action⟩ := input
  cases acts_of_step hstep with
  | stake hstaked =>
    intro key stake hget
    rw [hstaked.staked, FiniteMap.get_insert] at hget
    split at hget
    · rename_i hkey
      cases hget
      exact .inr ⟨congrArg Prod.snd hkey, lt_firstRecalcBlock hstaked.interval_ne_zero hunwrapped⟩
    · exact .inl ⟨stake, hget, rfl⟩
  | unstakePart hunstaked =>
    exact fun key stake hget => .inl (get_of_unstakedPartially hunstaked hget)
  | unstakeAll hunstaked =>
    intro key stake hget
    rw [hunstaked.staked] at hget
    exact .inl ⟨stake, get_of_eraseWhere hget, rfl⟩
  | drain hdrained =>
    obtain rfl := hdrained.after
    exact fun key stake hget => .inl ⟨stake, get_of_eraseWhere hget, rfl⟩
  | payout => exact absurd ⟨_, _, rfl⟩ hother
  | resolve _ hresolved => exact keepsRecalc_of_eq hresolved.staked
  | begin hresolved => exact keepsRecalc_of_eq hresolved.staked
  | _ => exact keepsRecalc_of_eq rfl

/-- The page that a payout of a round has visited. -/
theorem InRound.visits_of_step
    (hround : InRound config current input.env) (hpayout : IsPayout input)
    (hstep : step s input = some s') :
    ∃ visited left, Visits config current
    (followingRecalcBlock config current) ({} : Accrual T) (recordsLeft s) visited left
      { s with previousCalculatedRecord := none } s' := by
  obtain ⟨_, _, left, hpage⟩ := paysPage_of_step hpayout hstep
  obtain ⟨visited, hvisits⟩ := (hround.pays hpage).visits (stored_recordsLeft s)
  exact ⟨visited, left, hvisits⟩

/-- Every record earns again only after the relay block in which it was staked. -/
def RecalcAhead (s : State T) : Prop :=
  ∀ key stake, s.staked.get key = some stake → key.2 < stake.recalcBlock

theorem RecalcAhead.step (hahead : RecalcAhead s)
    (hunwrapped : Unwrapped input.env) (hstep : step s input = some s') :
    RecalcAhead s' := by
  intro key stake hget
  by_cases hpayout : IsPayout input
  · have hround : InRound input.env.config (getCurrentRecalcBlock input.env.config
        input.env.relayBlock) input.env := ⟨rfl, rfl⟩
    obtain ⟨visited, left, hvisits⟩ := hround.visits_of_step hpayout hstep
    rw [hvisits.staked] at hget
    split at hget
    · obtain ⟨old, hold, rfl⟩ := Option.map_eq_some_iff.mp hget
      have hbefore := hahead key old hold
      unfold paidStake
      split
      · -- a record that is paid was due
        rename_i hpaid
        have hdue := hpaid.1
        show key.2 < followingRecalcBlock _ _
        unfold Unwrapped at hunwrapped
        rw [followingRecalcBlock_eq (by omega)]
        omega
      · exact hbefore
    · exact hahead key stake hget
  · rcases keepsRecalc_of_step hstep hpayout hunwrapped key stake hget with
      ⟨old, hold, hblock⟩ | ⟨hkey, hlater⟩
    · rw [← hblock]
      exact hahead key old hold
    · rw [hkey]
      exact hlater

theorem recalcAhead_of_run {ledger : T.currency.Ledger} (hrun : Run step (genesis ledger) history s)
    (hunwrapped : ∀ event ∈ history, Unwrapped event.call.env) : RecalcAhead s :=
  hrun.invariant (fun _ input => Unwrapped input.env) (fun _ _ hget => by cases hget)
    (fun _ _ _ hahead hfits hstep => hahead.step hfits hstep) hunwrapped

/-! ## Records in a round -/

/-- The income of every due record can be added to it.  It can if the treasury is able
to pay it: the stake and the income are amounts of one currency then. -/
def Funded (config : PalletConfiguration) (current : ℕ) (s : State T) : Prop :=
  ∀ key stake, s.staked.get key = some stake → stake.recalcBlock ≤ current →
    stake.amount + incomeOf config current stake ≤ u128Max

/-- A record is in storage and due. -/
def DueAt (current : ℕ) (key : Key T) (s : State T) : Prop :=
  ∃ stake, s.staked.get key = some stake ∧ stake.recalcBlock ≤ current

/-- Every due record lies behind the cursor. -/
def DueBehind (current : ℕ) (s : State T) : Prop :=
  ∀ cursor, s.previousCalculatedRecord = some cursor → ∀ key, DueAt current key s →
    T.hashedKeyFor cursor < T.hashedKeyFor key

/-- The payout credits the record. -/
def Credits (config : PalletConfiguration) (current : ℕ) (key : Key T)
    (event : CallRecord (State T) (Input T)) : Prop :=
  IsPayout event.call ∧ ∃ stake after, event.state.staked.get key = some stake ∧
    IsPaid config current stake ∧ step event.state event.call = some after ∧
      after.staked.get key = some (paidStake config current
        (followingRecalcBlock config current) stake)

theorem Credits.dueAt {event : CallRecord (State T) (Input T)}
    (hcredits : Credits config current key event) :
    DueAt current key event.state := by
  obtain ⟨_, stake, _, hget, hpaid, _⟩ := hcredits
  exact ⟨stake, hget, hpaid.1⟩

section Payout

variable (hinterval : config.recalculationInterval ≠ 0)
  (hnext : current + config.recalculationInterval < 2 ^ 32)

include hinterval hnext in
/-- A record is not due any more after it was paid. -/
theorem lt_recalcBlock_paidStake (hpaid : IsPaid config current stake) :
    current < (paidStake config current
      (followingRecalcBlock config current) stake).recalcBlock := by
  rw [paidStake, if_pos hpaid, followingRecalcBlock_eq hnext]
  show current < current + config.recalculationInterval
  omega

include hinterval hnext in
/-- What a payout does to a record: it credits it, or leaves it. -/
theorem credits_or_get_eq (hround : InRound config current input.env) (hpayout : IsPayout input)
    (hstep : step s input = some s') (key : Key T) :
    (Credits config current key ⟨s, input⟩ ∧ ¬ DueAt current key s') ∨
      s'.staked.get key = s.staked.get key := by
  obtain ⟨visited, left, hvisits⟩ := hround.visits_of_step hpayout hstep
  have hget := hvisits.staked key
  split at hget
  · cases hold : s.staked.get key with
    | none =>
      right
      rw [hget]
      simp [hold]
    | some stake =>
      simp only [hold, Option.map_some] at hget
      by_cases hpaid : IsPaid config current stake
      · left
        refine ⟨⟨hpayout, stake, s', hold, hpaid, hstep, hget⟩, ?_⟩
        rintro ⟨after, hafter, hdue⟩
        rw [hget] at hafter
        cases hafter
        exact absurd hdue (Nat.not_le_of_lt (lt_recalcBlock_paidStake hinterval hnext hpaid))
      · right
        rw [hget, paidStake, if_neg hpaid]
  · exact .inr hget

include hinterval hnext in
/-- A record is due after a page only if the page has left it behind the cursor. -/
theorem behind_of_payout (hround : InRound config current input.env) (hpayout : IsPayout input)
    (hstep : step s input = some s') (hbehind : ∀ cursor, s.previousCalculatedRecord = some cursor →
      DueAt current key s → T.hashedKeyFor cursor < T.hashedKeyFor key)
    (hfunded : ∀ stake, s.staked.get key = some stake → stake.recalcBlock ≤ current →
      stake.amount + incomeOf config current stake ≤ u128Max)
    (hdue : DueAt current key s') :
    ∃ cursor, s'.previousCalculatedRecord = some cursor ∧
      T.hashedKeyFor cursor < T.hashedKeyFor key := by
  obtain ⟨visited, left, hvisits⟩ := hround.visits_of_step hpayout hstep
  obtain ⟨stake, hget, hblock⟩ := hdue
  -- the record was not visited
  have hmem : (key, stake) ∈ left := by
    rw [hvisits.staked] at hget
    split at hget
    · obtain ⟨old, hold, rfl⟩ := Option.map_eq_some_iff.mp hget
      by_cases hpaid : IsPaid config current old
      · exact absurd hblock (Nat.not_le_of_lt (lt_recalcBlock_paidStake hinterval hnext hpaid))
      · rw [paidStake, if_neg hpaid] at hblock
        exact absurd ⟨hblock, hfunded old hold hblock⟩ hpaid
    · rename_i hvisited
      have hmem : (key, stake) ∈ recordsLeft s :=
        mem_recordsLeft.mpr ⟨hget, fun cursor hcursor =>
          hbehind cursor hcursor ⟨stake, hget, hblock⟩⟩
      rw [hvisits.records_eq] at hmem
      rcases List.mem_append.mp hmem with hmem | hmem
      · exact absurd (List.mem_map.mpr ⟨_, hmem, rfl⟩) hvisited
      · exact hmem
  have hleft : left ≠ [] := List.ne_nil_of_mem hmem
  obtain ⟨cursor, hcursor⟩ := Option.ne_none_iff_exists'.mp fun hnone =>
    hleft (hvisits.cursor_eq_none_iff.mp hnone)
  rw [← hvisits.recordsLeft_eq hleft] at hmem
  exact ⟨cursor, hcursor, (mem_recordsLeft.mp hmem).2 cursor hcursor⟩

end Payout

section Round

variable (hinterval : config.recalculationInterval ≠ 0)
  (hfits : current + 2 * config.recalculationInterval < 2 ^ 32)

include hfits in
theorem InRound.unwrapped (hround : InRound config current env) :
    Unwrapped env := by
  obtain ⟨rfl, rfl⟩ := hround
  exact hfits

include hinterval hfits in
/-- A record that is not due does not become due. -/
theorem not_dueAt_of_step (hround : InRound config current input.env)
    (hstep : step s input = some s') (hdue : ¬ DueAt current key s) :
    ¬ DueAt current key s' := by
  by_cases hpayout : IsPayout input
  · rcases credits_or_get_eq hinterval (by omega) hround hpayout hstep key with ⟨_, hlater⟩ | hsame
    · exact hlater
    · rintro ⟨stake, hget, hblock⟩
      rw [hsame] at hget
      exact hdue ⟨stake, hget, hblock⟩
  · rintro ⟨stake, hget, hblock⟩
    have hkeeps := keepsRecalc_of_step hstep hpayout (hround.unwrapped hfits)
    rcases hkeeps key stake hget with ⟨old, hold, heq⟩ | ⟨_, hlater⟩
    · exact hdue ⟨old, hold, heq ▸ hblock⟩
    · have hle := getCurrentRecalcBlock_le config input.env.relayBlock
      rw [hround.recalcBlock_eq] at hle
      omega

include hinterval hfits in
/-- A due record that stays is credited or still due. -/
theorem credits_or_dueAt (hahead : RecalcAhead s) (hround : InRound config current input.env)
    (hstep : step s input = some s') (hdue : DueAt current key s)
    (hstays : s'.staked.get key ≠ none) :
    Credits config current key ⟨s, input⟩ ∨ DueAt current key s' := by
  obtain ⟨stake, hget, hblock⟩ := hdue
  by_cases hpayout : IsPayout input
  · rcases credits_or_get_eq hinterval (by omega) hround hpayout hstep key
      with ⟨hcredits, _⟩ | hsame
    · exact .inl hcredits
    · exact .inr ⟨stake, hsame.trans hget, hblock⟩
  · right
    obtain ⟨after, hafter⟩ := Option.ne_none_iff_exists'.mp hstays
    have hkeeps := keepsRecalc_of_step hstep hpayout (hround.unwrapped hfits)
    rcases hkeeps key after hafter with ⟨old, hold, heq⟩ | ⟨hkey, _⟩
    · rw [hget] at hold
      cases hold
      exact ⟨after, hafter, heq ▸ hblock⟩
    · -- a record of the current relay block cannot be due
      have hlater := hahead key stake hget
      have hle := getCurrentRecalcBlock_le config input.env.relayBlock
      rw [hround.recalcBlock_eq] at hle
      omega

include hinterval hfits in
/-- After a page, due records are left only behind the cursor. -/
theorem dueBehind_of_payout (hround : InRound config current input.env) (hpayout : IsPayout input)
    (hstep : step s input = some s') (hbehind : DueBehind current s)
    (hfunded : Funded config current s) :
    DueBehind current s' ∧ (s'.previousCalculatedRecord = none → NothingDue current s') := by
  have hleft : ∀ key, DueAt current key s' → ∃ cursor, s'.previousCalculatedRecord = some cursor ∧
        T.hashedKeyFor cursor < T.hashedKeyFor key := fun key =>
    behind_of_payout hinterval (by omega) hround hpayout hstep
      (fun cursor hcursor => hbehind cursor hcursor key) (hfunded key)
  constructor
  · intro cursor hcursor key hdue
    obtain ⟨other, hother, hlt⟩ := hleft key hdue
    rw [hcursor] at hother
    cases hother
    exact hlt
  · intro hnone key stake hget
    by_contra hlater
    obtain ⟨cursor, hcursor, _⟩ := hleft key ⟨stake, hget, Nat.le_of_not_lt hlater⟩
    rw [hnone] at hcursor
    cases hcursor

include hinterval hfits in
theorem DueBehind.of_keeps (hround : InRound config current input.env) (hother : ¬ IsPayout input)
    (hstep : step s input = some s') (hbehind : DueBehind current s) :
    DueBehind current s' := by
  intro cursor hcursor key hdue
  rw [cursor_eq_of_step hstep hother] at hcursor
  refine hbehind cursor hcursor key ?_
  by_contra hbefore
  exact not_dueAt_of_step hinterval hfits hround hstep hbefore hdue

end Round

/-! ## Runs of a round -/

/-- What is known in the middle of a round that began in the given state. -/
structure RoundSoFar (config : PalletConfiguration) (current : ℕ) (start : State T)
    (history : History T) (s : State T) : Prop where
  behind : DueBehind current s
  ahead : RecalcAhead s
  nothingDue : (∃ event ∈ history, IsPayout event.call) → s.previousCalculatedRecord = none →
    NothingDue current s
  once : history.Pairwise fun later earlier => ∀ key,
    Credits config current key earlier → ¬ Credits config current key later
  settled : ∀ event ∈ history, ∀ key, Credits config current key event → ¬ DueAt current key s
  credited : ∀ key, DueAt current key start →
    (∀ event ∈ history, event.state.staked.get key ≠ none) → s.staked.get key ≠ none →
      (∃ event ∈ history, Credits config current key event) ∨ DueAt current key s

theorem roundSoFar_start (hahead : RecalcAhead start)
    (hcursor : start.previousCalculatedRecord = none) :
    RoundSoFar config current start [] start where
  behind cursor hsome := by simp [hcursor] at hsome
  ahead := hahead
  nothingDue := by simp
  once := .nil
  settled := by simp
  credited _ hdue _ _ := .inr hdue

theorem RoundSoFar.step (hinterval : config.recalculationInterval ≠ 0)
    (hfits : current + 2 * config.recalculationInterval < 2 ^ 32)
    (hsoFar : RoundSoFar config current start history s)
    (hround : InRound config current input.env)
    (hfunded : Funded config current s) (hstep : step s input = some s') :
    RoundSoFar config current start (⟨s, input⟩ :: history) s' where
  behind := by
    by_cases hpayout : IsPayout input
    · exact (dueBehind_of_payout hinterval hfits hround hpayout hstep hsoFar.behind hfunded).1
    · exact hsoFar.behind.of_keeps hinterval hfits hround hpayout hstep
  ahead := hsoFar.ahead.step (hround.unwrapped hfits) hstep
  nothingDue := by
    intro hpaid hnone
    by_cases hpayout : IsPayout input
    · exact (dueBehind_of_payout hinterval hfits hround hpayout hstep hsoFar.behind hfunded).2
        hnone
    · have hcursor := cursor_eq_of_step hstep hpayout
      have hearlier : ∃ event ∈ history, IsPayout event.call := by
        obtain ⟨event, hevent, hcall⟩ := hpaid
        rcases List.mem_cons.mp hevent with rfl | hevent
        · exact absurd hcall hpayout
        · exact ⟨event, hevent, hcall⟩
      have hbefore := hsoFar.nothingDue hearlier (hcursor ▸ hnone)
      intro key stake hget
      by_contra hlater
      refine not_dueAt_of_step hinterval hfits hround hstep ?_
        ⟨stake, hget, Nat.le_of_not_lt hlater⟩
      rintro ⟨old, hold, hdue⟩
      exact absurd hdue (Nat.not_le_of_lt (hbefore key old hold))
  once := by
    refine List.pairwise_cons.mpr ⟨fun event hevent key hcredits hagain => ?_, hsoFar.once⟩
    exact hsoFar.settled event hevent key hcredits hagain.dueAt
  settled := by
    intro event hevent key hcredits
    rcases List.mem_cons.mp hevent with rfl | hevent
    · rcases credits_or_get_eq hinterval (by omega) hround hcredits.1 hstep key
        with ⟨_, hlater⟩ | hsame
      · exact hlater
      · -- the payout has changed the record
        obtain ⟨_, stake, after, hget, hpaid, hagain, hafter⟩ := hcredits
        obtain rfl : s' = after := Option.some.inj (hstep.symm.trans hagain)
        rintro ⟨other, hother, hdue⟩
        rw [hafter] at hother
        cases hother
        exact absurd hdue (Nat.not_le_of_lt (lt_recalcBlock_paidStake hinterval (by omega) hpaid))
    · exact not_dueAt_of_step hinterval hfits hround hstep
        (hsoFar.settled event hevent key hcredits)
  credited := by
    intro key hstart hstays hafter
    have hthere := hstays ⟨s, input⟩ (List.mem_cons_self ..)
    have hearlier := hsoFar.credited key hstart
      (fun event hevent => hstays event (List.mem_cons_of_mem _ hevent)) hthere
    rcases hearlier with ⟨event, hevent, hcredits⟩ | hdue
    · exact .inl ⟨event, List.mem_cons_of_mem _ hevent, hcredits⟩
    · rcases credits_or_dueAt hinterval hfits hsoFar.ahead hround hstep hdue hafter with
        hcredits | hstill
      · exact .inl ⟨_, List.mem_cons_self .., hcredits⟩
      · exact .inr hstill

theorem roundSoFar_of_run (hinterval : config.recalculationInterval ≠ 0)
    (hfits : current + 2 * config.recalculationInterval < 2 ^ 32)
    (hahead : RecalcAhead start) (hcursor : start.previousCalculatedRecord = none)
    (hrun : Run step start history s)
    (hround : ∀ event ∈ history, InRound config current event.call.env ∧
      Funded config current event.state) :
    RoundSoFar config current start history s := by
  induction hrun with
  | start => exact roundSoFar_start hahead hcursor
  | accepted hrun hstep ih =>
    have hsoFar := ih fun event hevent => hround event (List.mem_cons_of_mem _ hevent)
    obtain ⟨hinRound, hfunded⟩ := hround _ (List.mem_cons_self ..)
    exact hsoFar.step hinterval hfits hinRound hfunded hstep
  | rejected _ _ ih => exact ih hround

/-- Payouts do nothing but move the cursor while nothing is due. -/
theorem eq_of_run_of_nothingDue (hdue : NothingDue current start) (hrun : Run step start history s)
    (hpayouts : ∀ event ∈ history, InRound config current event.call.env ∧ IsPayout event.call) :
    s = { start with previousCalculatedRecord := s.previousCalculatedRecord } := by
  induction hrun with
  | start => rfl
  | @accepted _ middle after _ hrun hstep ih =>
    have hsame := ih fun event hevent => hpayouts event (List.mem_cons_of_mem _ hevent)
    obtain ⟨hinRound, hpayout⟩ := hpayouts _ (List.mem_cons_self ..)
    obtain ⟨_, _, _, hpage⟩ := paysPage_of_step hpayout hstep
    have hstaked : middle.staked = start.staked := by rw [hsame]
    have hnothing : NothingDue current middle := by
      unfold NothingDue
      rw [hstaked]
      exact hdue
    rw [hpage.eq_of_nothingDue hinRound hnothing, hsame]
  | rejected _ _ ih => exact ih hpayouts

theorem Pages.nothingDue (hfits : current + 2 * config.recalculationInterval < 2 ^ 32)
    (hpages : Pages config current s s')
    (hcursor : s.previousCalculatedRecord = none) (hfunded : Funded config current s) :
    NothingDue current s' := by
  intro key stake hget
  rw [hpages.staked hcursor] at hget
  obtain ⟨old, hold, rfl⟩ := Option.map_eq_some_iff.mp hget
  by_cases hdue : old.recalcBlock ≤ current
  · exact lt_recalcBlock_paidStake hpages.interval_ne_zero (by omega)
      ⟨hdue, hfunded key old hold hdue⟩
  · rw [paidStake_of_not_due (Nat.lt_of_not_le hdue)]
    exact Nat.lt_of_not_le hdue

/-- What a complete round makes of a stake. -/
def creditedStake (config : PalletConfiguration) (current : ℕ) (stake : Stake) : Stake :=
  if stake.recalcBlock ≤ current then
    ⟨stake.amount + incomeOf config current stake, current + config.recalculationInterval⟩
  else stake

theorem Pages.staked_eq_credited (hfits : current + 2 * config.recalculationInterval < 2 ^ 32)
    (hpages : Pages config current s s')
    (hcursor : s.previousCalculatedRecord = none) (hfunded : Funded config current s)
    (key : Key T) :
    s'.staked.get key = (s.staked.get key).map (creditedStake config current) := by
  rw [hpages.staked hcursor]
  cases hget : s.staked.get key with
  | none => rfl
  | some stake =>
    simp only [Option.map_some, creditedStake, Option.some.injEq]
    by_cases hdue : stake.recalcBlock ≤ current
    · rw [paidStake, if_pos ⟨hdue, hfunded key stake hget hdue⟩, if_pos hdue,
        followingRecalcBlock_eq (by omega)]
    · rw [paidStake_of_not_due (Nat.lt_of_not_le hdue), if_neg hdue]

/-- Payouts in pages at one recalculation block, as long as block numbers do not wrap
around.  Successive pages end in the state in which one payout without a limit ends;
every due record is credited once; further payouts change the cursor only.  With other
calls in between, a due record that stays in storage is credited by one of the payouts,
and no record by two. -/
theorem payout_in_pages (hfits : current + 2 * config.recalculationInterval < 2 ^ 32) :
    (∀ s s' : State T, s.previousCalculatedRecord = none → Pages config current s s' →
      (∀ env, InRound config current env → ∀ limit, limit ≠ 0 →
        (recordsLeft s).length ≤ limit → (payoutPage env limit).run s = .ok () s') ∧
      (Funded config current s → (∀ key, s'.staked.get key =
          (s.staked.get key).map (creditedStake config current)) ∧
        ∀ history s'', Run step s' history s'' →
          (∀ event ∈ history, InRound config current event.call.env ∧ IsPayout event.call) →
          s'' = { s' with previousCalculatedRecord := s''.previousCalculatedRecord })) ∧
    ∀ (ledger : T.currency.Ledger) (past history : History T) (s s' : State T),
      Run step (genesis ledger) past s → (∀ event ∈ past, Unwrapped event.call.env) →
      s.previousCalculatedRecord = none → Run step s history s' →
      (∀ event ∈ history, InRound config current event.call.env ∧
        Funded config current event.state) →
      (∃ event ∈ history, IsPayout event.call) → s'.previousCalculatedRecord = none →
      (∀ key, DueAt current key s →
        (∀ event ∈ history, event.state.staked.get key ≠ none) → s'.staked.get key ≠ none →
          ∃ event ∈ history, Credits config current key event) ∧
      history.Pairwise fun later earlier => ∀ key, Credits config current key earlier →
          ¬ Credits config current key later := by
  refine ⟨fun s s' hcursor hpages => ⟨fun env hround limit hlimit hlength =>
    hpages.payoutPage hround hlimit hlength, fun hfunded => ⟨fun key =>
      hpages.staked_eq_credited hfits hcursor hfunded key, fun history s'' hrun hpayouts =>
        eq_of_run_of_nothingDue (hpages.nothingDue hfits hcursor hfunded) hrun hpayouts⟩⟩, ?_⟩
  intro ledger past history s s' hpast hunwrapped hcursor hrun hround hpaid hdone
  have hinterval : config.recalculationInterval ≠ 0 := by
    obtain ⟨event, hevent, hpayout⟩ := hpaid
    obtain ⟨_, after, _, hstep⟩ := hrun.of_mem hevent
    rw [← (hround event hevent).1.config_eq]
    exact (paysPage_of_step hpayout hstep).1
  have hsoFar := roundSoFar_of_run hinterval hfits (recalcAhead_of_run hpast hunwrapped)
    hcursor hrun
    hround
  refine ⟨fun key hdue hstays hafter => ?_, hsoFar.once⟩
  refine (hsoFar.credited key hdue hstays hafter).resolve_right ?_
  rintro ⟨stake, hget, hblock⟩
  exact absurd hblock (Nat.not_le_of_lt (hsoFar.nothingDue hpaid hdone key stake hget))

/-! ## Examples -/

namespace Reference

/-- Two accounts stake. -/
def twoStakers : List (Input Reference.config) :=
  [appoint 1, signed (blockAt 1 1 1) 2 (.stake 200), signed (blockAt 3 2 1) 3 (.stake 300)]

/-- The state in which the round begins. -/
def beforeRound : State Reference.config :=
  replayState step (genesis (ledger 100000)) twoStakers (by decide +kernel)

/-- A payout to one staker. -/
def pageOfOne : Input Reference.config := signed (blockAt 45 3 1) 1 (.payoutStakers (some 1))

theorem inRound_pageOfOne : InRound (blockAt 45 3 1).config 40 pageOfOne.env :=
  ⟨rfl, rfl⟩

def afterFirstPage : State Reference.config :=
  (step beforeRound pageOfOne).get (by decide +kernel)

def afterSecondPage : State Reference.config :=
  (step afterFirstPage pageOfOne).get (by decide +kernel)

theorem pages_twoStakers : Pages (blockAt 45 3 1).config 40 beforeRound afterSecondPage := by
  have hfirst : step beforeRound pageOfOne = some afterFirstPage := (Option.some_get _).symm
  have hsecond : step afterFirstPage pageOfOne = some afterSecondPage := (Option.some_get _).symm
  refine .page inRound_pageOfOne ⟨_, _, rfl⟩ hfirst ?_
    (.last inRound_pageOfOne ⟨_, _, rfl⟩ hsecond ?_)
  · decide +kernel
  · decide +kernel

/-- An environment whose interval is half of all block numbers. -/
def hugeInterval (relayBlock : ℕ) : Environment :=
  { blockAt relayBlock 1 100 with config := ⟨2 ^ 31, 5, .ofPercent 100, 100⟩ }

/-- A stake at relay block 0. -/
def hugeStake : List (Input Reference.config) :=
  [appoint 1, signed (hugeInterval 0) 2 (.stake 100)]

def beforeHugeRound : State Reference.config :=
  replayState step (genesis (ledger 100000)) hugeStake (by decide +kernel)

/-- A payout one interval later. -/
def hugePayout : Input Reference.config :=
  signed (hugeInterval (2 ^ 31)) 1 (.payoutStakers none)

def afterHugeRound : State Reference.config :=
  (step beforeHugeRound hugePayout).get (by decide +kernel)

def afterSecondHugeRound : State Reference.config :=
  (step afterHugeRound hugePayout).get (by decide +kernel)

theorem inRound_hugePayout : InRound (hugeInterval 0).config (2 ^ 31) hugePayout.env :=
  ⟨rfl, rfl⟩

end Reference

open Reference in
/-- Two pages of one staker each are one payout. -/
theorem payout_in_pages_twoStakers :
    (payoutPage (blockAt 45 3 1) 2).run beforeRound = .ok () afterSecondPage ∧
      stakedBy afterSecondPage.staked (2 : ℕ) = 206 ∧
        stakedBy afterSecondPage.staked (3 : ℕ) = 309 := by
  have hall := @payout_in_pages Reference.config (blockAt 45 3 1).config 40 (by decide)
  have hpages := hall.1 beforeRound afterSecondPage (by decide +kernel) pages_twoStakers
  refine ⟨hpages.1 _ ⟨rfl, rfl⟩ 2 (by decide) ?_, ?_, ?_⟩
  · decide +kernel
  · decide +kernel
  · decide +kernel

open Reference in
/-- The next recalculation block wraps around to 0, and a payout at the same
recalculation block credits the stake again. -/
theorem payout_again_of_wrapped :
    ∃ history, Run step (genesis (ledger 100000)) history beforeHugeRound ∧
      beforeHugeRound.previousCalculatedRecord = none ∧
      Pages (hugeInterval 0).config (2 ^ 31) beforeHugeRound afterHugeRound ∧
      IsPayout hugePayout ∧
      InRound (hugeInterval 0).config (2 ^ 31) hugePayout.env ∧
      step afterHugeRound hugePayout = some afterSecondHugeRound ∧
      stakedBy afterHugeRound.staked (2 : ℕ) = 200 ∧
        stakedBy afterSecondHugeRound.staked (2 : ℕ) = 800 := by
  have hround : step beforeHugeRound hugePayout = some afterHugeRound := (Option.some_get _).symm
  have hagain : step afterHugeRound hugePayout = some afterSecondHugeRound :=
    (Option.some_get _).symm
  refine ⟨_, run_replay step (genesis (ledger 100000)) hugeStake _, ?_,
    .last inRound_hugePayout ⟨_, _, rfl⟩ hround ?_, ⟨_, _, rfl⟩, inRound_hugePayout, hagain, ?_, ?_⟩
  · decide +kernel
  · decide +kernel
  · decide +kernel
  · decide +kernel

end UniqueChain.AppPromotion
