import UniqueChain.Promotion.Actions

/-!
# Payouts in pages

A payout with a page limit stops at the border between two accounts and leaves the
last record it has visited as a cursor; the next payout goes on behind that record.
Successive pages are one payout without a limit: a page ends with the flush with
which the unlimited loop goes over to the next account, and what the loop carries
along from there is the same.
-/

namespace UniqueChain.AppPromotion

open Execution FiniteMap

variable {T : Config} {s s' : State T} {config : PalletConfiguration}
  {current nextBlock stakers : ℕ} {accrual : Accrual T}
  {records left : List (Key T × Stake)}

variable {env : Environment} {limit : ℕ} {visited : List (Key T × Stake)} {entry : Key T × Stake}

/-! ## The records that are left -/

theorem mem_recordsLeft :
    entry ∈ recordsLeft s ↔
      s.staked.get entry.1 = some entry.2 ∧
        ∀ cursor, s.previousCalculatedRecord = some cursor →
          T.hashedKeyFor cursor < T.hashedKeyFor entry.1 := by
  unfold recordsLeft
  cases s.previousCalculatedRecord with
  | none => simp [mem_entries]
  | some record => simp [mem_entriesAfter]

theorem pairwise_recordsLeft (s : State T) :
    (recordsLeft s).Pairwise fun first second =>
      T.hashedKeyFor first.1 < T.hashedKeyFor second.1 := by
  have hall := s.staked.pairwise_entries T.hashedKeyFor_injective
  unfold recordsLeft
  cases s.previousCalculatedRecord with
  | none => exact hall
  | some record => exact hall.sublist List.filter_sublist

/-! ## The records that are visited -/

/-- The key of the last record the loop has visited. -/
def lastKey (accrual : Accrual T) (visited : List (Key T × Stake)) : Option (Key T) :=
  match visited.getLast? with
  | some entry => some entry.1
  | none => accrual.lastId.map fun staker => (staker, accrual.lastBlock)

/-- What a payout loop does to the records: it visits the first of them, and leaves
the key of the last one as the cursor if there are more. -/
structure Visits (config : PalletConfiguration) (current nextBlock : ℕ)
    (accrual : Accrual T) (records visited left : List (Key T × Stake)) (s s' : State T) :
    Prop where
  records_eq : records = visited ++ left
  staked : ∀ key, s'.staked.get key =
    if key ∈ visited.map Prod.fst then
      (s.staked.get key).map (paidStake config current nextBlock)
    else s.staked.get key
  cursor_of_done : left = [] → s'.previousCalculatedRecord = s.previousCalculatedRecord
  cursor_of_left : left ≠ [] → s'.previousCalculatedRecord = lastKey accrual visited
  visited_ne_nil : left ≠ [] → accrual.lastId = none → visited ≠ []

theorem lastKey_cons
    {next : Accrual T} (hid : next.lastId = some entry.1.1) (hblock : next.lastBlock = entry.1.2) :
    lastKey next visited = lastKey accrual (entry :: visited) := by
  unfold lastKey
  cases hlast : visited.getLast? with
  | none =>
    obtain rfl : visited = [] := List.getLast?_eq_none_iff.mp hlast
    simp [hid, hblock]
  | some last =>
    rw [List.getLast?_cons, hlast]
    rfl

/-- Visiting one record more in front. -/
theorem Visits.cons {rest visited : List (Key T × Stake)} {next : Accrual T} {middle : State T}
    (hvisits : Visits config current nextBlock next rest visited left
      (middle.payStake config current nextBlock entry) s')
    (hstored : Stored (entry :: rest) s) (hstaked : middle.staked = s.staked)
    (hcursor : middle.previousCalculatedRecord = s.previousCalculatedRecord)
    (hid : next.lastId = some entry.1.1) (hblock : next.lastBlock = entry.1.2) :
    Visits config current nextBlock accrual (entry :: rest) (entry :: visited) left s s' where
  records_eq := by rw [hvisits.records_eq, List.cons_append]
  staked := by
    intro key
    have hentry : middle.staked.get entry.1 = some entry.2 := by
      rw [hstaked]
      exact hstored.get entry (List.mem_cons_self ..)
    have hfirst : entry.1 ∉ visited.map Prod.fst := by
      intro hmem
      refine (List.nodup_cons.mp hstored.nodup).1 ?_
      rw [hvisits.records_eq, List.map_append]
      exact List.mem_append_left _ hmem
    rw [hvisits.staked, payStake_staked hentry, hstaked]
    by_cases hkey : key = entry.1
    · have hmem : key ∈ (entry :: visited).map Prod.fst := by simp [hkey]
      rw [if_pos hmem, hkey, if_neg hfirst, get_insert_self,
        hstored.get entry (List.mem_cons_self ..)]
      rfl
    · rw [get_insert_of_ne _ _ hkey]
      simp only [List.map_cons, List.mem_cons, hkey, false_or]
  cursor_of_done hdone := by
    rw [hvisits.cursor_of_done hdone, payStake_cursor, hcursor]
  cursor_of_left hleft := by
    rw [hvisits.cursor_of_left hleft, lastKey_cons hid hblock]
  visited_ne_nil _ _ := List.cons_ne_nil _ _

section

variable (hpays : Pays config current nextBlock stakers accrual records s left s')

include hpays

theorem Pays.visits (hstored : Stored records s) :
    ∃ visited, Visits config current nextBlock accrual records visited left
    s s' := by
  induction hpays with
  | done hflush =>
    refine ⟨[], rfl, fun key => ?_, fun _ => hflush.cursor, fun hleft => absurd rfl hleft,
      fun hleft => absurd rfl hleft⟩
    rw [hflush.staked]
    rfl
  | same hid _ ih =>
    obtain ⟨visited, hvisits⟩ := ih (hstored.tail rfl)
    exact ⟨_, hvisits.cons hstored rfl rfl hid rfl⟩
  | switch _ hflush _ ih =>
    obtain ⟨visited, hvisits⟩ := ih (hstored.tail hflush.staked)
    exact ⟨_, hvisits.cons hstored hflush.staked hflush.cursor rfl rfl⟩
  | @stop accrual _ _ s _ staker _ hlast hflush =>
    refine ⟨[], rfl, fun key => ?_, fun hdone => absurd hdone (List.cons_ne_nil _ _), fun _ => ?_,
      fun _ hnone => absurd (hnone.symm.trans hlast) (by simp)⟩
    · rw [hflush.staked]
      rfl
    · rw [hflush.cursor]
      simp [lastKey, hlast]

omit hpays in
/-- The next page begins where this one stopped. -/
theorem Visits.recordsLeft_eq
    (hvisits : Visits config current nextBlock ({} : Accrual T) (recordsLeft s)
      visited left { s with previousCalculatedRecord := none } s')
    (hleft : left ≠ []) : recordsLeft s' = left := by
  have hordered := pairwise_recordsLeft s
  have hstored := stored_recordsLeft s
  obtain ⟨init, last, rfl⟩ :=
    (visited.eq_nil_or_concat').resolve_left (hvisits.visited_ne_nil hleft rfl)
  have hcursor : s'.previousCalculatedRecord = some last.1 := by
    rw [hvisits.cursor_of_left hleft]
    simp [lastKey]
  have hlast : last ∈ recordsLeft s := by
    rw [hvisits.records_eq]
    simp
  rw [hvisits.records_eq] at hordered
  obtain ⟨hvisited, hleftOrdered, hbefore⟩ := List.pairwise_append.mp hordered
  -- no visited record comes after the last one
  have hle : ∀ entry ∈ init ++ [last], T.hashedKeyFor entry.1 ≤ T.hashedKeyFor last.1 := by
    intro entry hentry
    rcases List.mem_append.mp hentry with hinit | hsingle
    · exact Nat.le_of_lt ((List.pairwise_append.mp hvisited).2.2 entry hinit last
        (List.mem_singleton_self _))
    · rw [List.mem_singleton.mp hsingle]
  -- a record behind the last one keeps its stake
  have hsame : ∀ key, T.hashedKeyFor last.1 < T.hashedKeyFor key →
      s'.staked.get key = s.staked.get key := by
    intro key hkey
    rw [hvisits.staked, if_neg]
    intro hmem
    obtain ⟨entry, hentry, rfl⟩ := List.mem_map.mp hmem
    exact absurd (hle entry hentry) (Nat.not_le_of_lt hkey)
  refine eq_of_pairwise_rank (pairwise_recordsLeft s') hleftOrdered fun entry => ?_
  rw [mem_recordsLeft]
  constructor
  · rintro ⟨hget, hafter⟩
    have hbehind := hafter last.1 hcursor
    rw [hsame entry.1 hbehind] at hget
    have hmem : entry ∈ recordsLeft s := mem_recordsLeft.mpr ⟨hget, fun cursor hold =>
      Nat.lt_trans ((mem_recordsLeft.mp hlast).2 cursor hold) hbehind⟩
    rw [hvisits.records_eq] at hmem
    rcases List.mem_append.mp hmem with hvisitedEntry | hleftEntry
    · exact absurd (hle entry hvisitedEntry) (Nat.not_le_of_lt hbehind)
    · exact hleftEntry
  · intro hentry
    have hbehind : T.hashedKeyFor last.1 < T.hashedKeyFor entry.1 :=
      hbefore last (List.mem_append_right _ (List.mem_singleton_self _)) entry hentry
    refine ⟨?_, fun cursor hsome => ?_⟩
    · rw [hsame entry.1 hbehind]
      refine hstored.get entry ?_
      rw [hvisits.records_eq]
      exact List.mem_append_right _ hentry
    · rw [hcursor] at hsome
      cases hsome
      exact hbehind

/-! ## Pages and one payout -/

/-- A loop that reaches the end does so with any limit that is large enough. -/
theorem Pays.of_length_le (hleft : left = []) (hlimit : records.length ≤ limit) :
    Pays config current nextBlock limit accrual records s [] s' := by
  induction hpays generalizing limit with
  | done hflush => exact .done hflush
  | same hid _ ih => exact .same hid (ih hleft (Nat.le_of_succ_le hlimit))
  | switch hid hflush _ ih =>
    obtain ⟨limit, rfl⟩ := Nat.exists_eq_add_one_of_ne_zero (Nat.ne_zero_of_lt hlimit)
    exact .switch hid hflush (ih hleft (Nat.le_of_succ_le_succ hlimit))
  | stop => exact absurd hleft (List.cons_ne_nil _ _)

end

/-- A page and a loop over the records it leaves are one loop. -/
theorem Pays.resume {middle : State T}
    (hpays : Pays config current nextBlock stakers accrual records s left middle)
    (hleft : left ≠ []) (hcursor : s.previousCalculatedRecord = none)
    (hrest : Pays config current nextBlock limit {} left
      { middle with previousCalculatedRecord := none } [] s') :
    Pays config current nextBlock (stakers + limit) accrual records s [] s' := by
  induction hpays with
  | done => exact absurd rfl hleft
  | same hid _ ih => exact .same hid (ih hleft (payStake_cursor.trans hcursor) hrest)
  | switch hid hflush _ ih =>
    rw [Nat.add_right_comm]
    exact .switch hid hflush
      (ih hleft (payStake_cursor.trans (hflush.cursor.trans hcursor)) hrest)
  | @stop accrual entry rest s middle staker hid hlast hflush =>
    -- the flush at the end of the page is the one before the next account
    have hunset := hflush.setCursor none
    have hsame : ({ s with previousCalculatedRecord := none } : State T) = s := by
      rw [← hcursor]
    rw [show ({ ({ s with previousCalculatedRecord := some (staker, accrual.lastBlock) } : State T)
      with previousCalculatedRecord := none } : State T) = s from hsame] at hunset
    rw [Nat.zero_add]
    cases hrest with
    | same hnone => cases hnone
    | switch _ hnothing hrest =>
      obtain rfl := (flushes_of_none rfl).mp hnothing
      refine .switch hid hunset ?_
      have hcarried : (({ accrual.flushed with lastId := some entry.1.1 } : Accrual T).after
            config current entry) =
          ({ ({} : Accrual T).flushed with lastId := some entry.1.1 } : Accrual T).after config
            current entry := by
        simp [Accrual.after, Accrual.flushed, hlast]
      rw [hcarried]
      exact hrest

/-- The next recalculation block. -/
def followingRecalcBlock (config : PalletConfiguration) (current : ℕ) : ℕ :=
  wrapBlock (current + config.recalculationInterval)

/-- The configuration and the recalculation block of a round. -/
structure InRound (config : PalletConfiguration) (current : ℕ) (env : Environment) : Prop where
  config_eq : env.config = config
  recalcBlock_eq : getCurrentRecalcBlock config env.relayBlock = current

theorem InRound.pays (hround : InRound config current env)
    (hpays : PaysPage env stakers s left s') :
    Pays config current (followingRecalcBlock config current) stakers {}
      (recordsLeft s) { s with previousCalculatedRecord := none } left s' := by
  obtain ⟨rfl, rfl⟩ := hround
  exact hpays

/-- The input is a call of `payout_stakers`. -/
def IsPayout (input : Input T) : Prop :=
  ∃ origin number, input.action = .call origin (.payoutStakers number)

theorem paysPage_of_step {input : Input T} (hpayout : IsPayout input)
    (hstep : step s input = some s') :
    input.env.config.recalculationInterval ≠ 0 ∧
      ∃ stakers left, PaysPage input.env stakers s left s' := by
  obtain ⟨origin, number, haction⟩ := hpayout
  have hacts := acts_of_step hstep
  rw [haction] at hacts
  cases hacts with
  | payout hinterval _ hpays => exact ⟨hinterval, _, _, hpays⟩

/-- Successive payouts of a round, until no cursor is left. -/
inductive Pages (config : PalletConfiguration) (current : ℕ) : State T → State T → Prop
  | last {input : Input T} {s s' : State T}
      (hround : InRound config current input.env) (hpayout : IsPayout input)
      (hstep : step s input = some s') (hdone : s'.previousCalculatedRecord = none) :
      Pages config current s s'
  | page {input : Input T} {s middle s' : State T}
      (hround : InRound config current input.env) (hpayout : IsPayout input)
      (hstep : step s input = some middle) (hmore : middle.previousCalculatedRecord ≠ none)
      (hrest : Pages config current middle s') : Pages config current s s'

/-- A page leaves a cursor exactly if it leaves records. -/
theorem Visits.cursor_eq_none_iff
    (hvisits : Visits config current nextBlock ({} : Accrual T) records visited left
      { s with previousCalculatedRecord := none } s') :
    s'.previousCalculatedRecord = none ↔ left = [] := by
  refine ⟨fun hnone => ?_, fun hdone => hvisits.cursor_of_done hdone⟩
  by_contra hleft
  obtain ⟨init, last, rfl⟩ :=
    (visited.eq_nil_or_concat').resolve_left (hvisits.visited_ne_nil hleft rfl)
  rw [hvisits.cursor_of_left hleft] at hnone
  simp [lastKey] at hnone

section

variable (hpages : Pages config current s s')

include hpages

/-- Successive pages are one payout that reaches the end. -/
theorem Pages.pays : ∃ limit, Pays config current (followingRecalcBlock config current) limit {}
      (recordsLeft s) { s with previousCalculatedRecord := none } [] s' := by
  induction hpages with
  | last hround hpayout hstep hdone =>
    obtain ⟨_, stakers, left, hpage⟩ := paysPage_of_step hpayout hstep
    have hpays := hround.pays hpage
    obtain ⟨visited, hvisits⟩ := hpays.visits (stored_recordsLeft _)
    obtain rfl := hvisits.cursor_eq_none_iff.mp hdone
    exact ⟨stakers, hpays⟩
  | page hround hpayout hstep hmore _ ih =>
    obtain ⟨_, stakers, left, hpage⟩ := paysPage_of_step hpayout hstep
    have hpays := hround.pays hpage
    obtain ⟨visited, hvisits⟩ := hpays.visits (stored_recordsLeft _)
    have hleft : left ≠ [] := fun hdone => hmore (hvisits.cursor_eq_none_iff.mpr hdone)
    obtain ⟨limit, hrest⟩ := ih
    rw [hvisits.recordsLeft_eq hleft] at hrest
    exact ⟨_, hpays.resume hleft rfl hrest⟩

theorem Pages.interval_ne_zero : config.recalculationInterval ≠ 0 := by
  cases hpages with
  | last hround hpayout hstep =>
    rw [← hround.config_eq]
    exact (paysPage_of_step hpayout hstep).1
  | page hround hpayout hstep =>
    rw [← hround.config_eq]
    exact (paysPage_of_step hpayout hstep).1

/-- Successive pages end like one payout without a limit. -/
theorem Pages.payoutPage (hround : InRound config current env) (hlimit : limit ≠ 0)
    (hlength : (recordsLeft s).length ≤ limit) :
    (payoutPage env limit).run s = .ok () s' := by
  have hinterval := hpages.interval_ne_zero
  obtain ⟨_, hpays⟩ := hpages.pays
  have hlimited := hpays.of_length_le rfl hlength
  obtain ⟨rfl, rfl⟩ := hround
  exact (payoutPage_ok hlimit).mpr ⟨hinterval, [], hlimited⟩

/-- Every record is visited once. -/
theorem Pages.staked (hcursor : s.previousCalculatedRecord = none) (key : Key T) :
    s'.staked.get key = (s.staked.get key).map (paidStake config current
      (followingRecalcBlock config current)) := by
  obtain ⟨_, hpays⟩ := hpages.pays
  obtain ⟨visited, hvisits⟩ := hpays.visits (stored_recordsLeft s)
  have hall : recordsLeft s = visited := by rw [hvisits.records_eq, List.append_nil]
  rw [hvisits.staked]
  cases hget : s.staked.get key with
  | none => simp
  | some stake =>
    have hmem : (key, stake) ∈ recordsLeft s :=
      mem_recordsLeft.mpr ⟨hget, fun cursor hsome => by simp [hcursor] at hsome⟩
    have hkey : key ∈ visited.map Prod.fst := List.mem_map.mpr ⟨_, hall ▸ hmem, rfl⟩
    rw [if_pos hkey]

end

/-! ## Nothing is due -/

/-- No stake is due at a recalculation block. -/
def NothingDue (current : ℕ) (s : State T) : Prop :=
  ∀ key stake, s.staked.get key = some stake → current < stake.recalcBlock

theorem paidStake_of_not_due {stake : Stake} (hlater : current < stake.recalcBlock) :
    paidStake config current nextBlock stake = stake :=
  if_neg fun hpaid => Nat.not_le_of_lt hlater hpaid.1

theorem payStake_of_not_due (hlater : current < entry.2.recalcBlock) :
    s.payStake config current nextBlock entry = s :=
  if_neg fun hpaid => Nat.not_le_of_lt hlater hpaid.1

theorem Flushes.eq_of_zero (hflush : Flushes accrual s s') (hzero : accrual.incomeAcc = 0) :
    s' = s := by
  cases hflush with
  | nothing => rfl
  | income _ hincome => exact absurd hzero hincome

/-- A payout of records that are not due writes the cursor only. -/
theorem Pays.eq_of_not_due (hpays : Pays config current nextBlock stakers accrual records s left s')
    (hlater : ∀ entry ∈ records, current < entry.2.recalcBlock)
    (hzero : accrual.incomeAcc = 0) :
    s' = { s with previousCalculatedRecord := s'.previousCalculatedRecord } := by
  induction hpays with
  | done hflush => rw [hflush.eq_of_zero hzero]
  | @same _ accrual entry _ _ _ _ _ _ ih =>
    have hentry := hlater entry (List.mem_cons_self ..)
    have hrest := ih (fun other hother => hlater other (List.mem_cons_of_mem _ hother))
      ((if_neg fun hpaid => Nat.not_le_of_lt hentry hpaid.1).trans hzero)
    rwa [payStake_of_not_due hentry] at hrest
  | @switch _ accrual entry _ _ _ _ _ _ hflush _ ih =>
    have hentry := hlater entry (List.mem_cons_self ..)
    have hrest := ih (fun other hother => hlater other (List.mem_cons_of_mem _ hother))
      ((if_neg fun hpaid => Nat.not_le_of_lt hentry hpaid.1).trans
        (incomeAcc_flushed fun _ => hzero))
    rwa [payStake_of_not_due hentry, hflush.eq_of_zero hzero] at hrest
  | stop _ _ hflush => rw [hflush.eq_of_zero hzero]

theorem PaysPage.eq_of_nothingDue (hround : InRound config current env)
    (hdue : NothingDue current s)
    (hpays : PaysPage env stakers s left s') :
    s' = { s with previousCalculatedRecord := s'.previousCalculatedRecord } :=
  (hround.pays hpays).eq_of_not_due
    (fun entry hentry => hdue entry.1 entry.2 (mem_recordsLeft.mp hentry).1) rfl

end UniqueChain.AppPromotion
