import Mathlib.Logic.Relation
import UniqueChain.Collators.Moves
import UniqueChain.Collators.Reference

/-!
# Sessions of the collator selection

A new session goes through a snapshot of the candidates, kicks the stale ones and
returns the others after the invulnerables.  `run_kickStaleCandidates` follows the
loop: what has been passed and kept stands before what is still to be looked at,
and together they are the stored candidates.  So what is returned is what is left
in storage.

From the runs of the single operations follows that every action in a sound state
is a chain of moves, and from the moves that the sets of collators are well formed
in every run.
-/

namespace UniqueChain.CollatorSelection

open Execution

variable {T : Config} {s s' : State T} {env : Environment T} {who candidate : T.AccountId}

variable {origin : Origin T} {deposit : ℕ}

/-! ## Removals -/

theorem run_tryRemoveCandidate (s : State T) (who : T.AccountId) :
    (tryRemoveCandidate who).run s =
      if who ∈ s.candidates then .ok (s.candidates.erase who).length (s.removeCandidate who)
      else .error .notCandidate s := by
  by_cases hmem : who ∈ s.candidates
  · rw [if_pos hmem]
    simp [tryRemoveCandidate, hmem, State.removeCandidate, State.depositEvent]
  · rw [if_neg hmem]
    simp [tryRemoveCandidate, hmem, read_bind_error, ensure_bind_error]

theorem tryRemoveCandidate_ok {count : ℕ} :
    (tryRemoveCandidate who).run s = .ok count s' ↔
      who ∈ s.candidates ∧ (s.candidates.erase who).length = count ∧
        s.removeCandidate who = s' := by
  rw [run_tryRemoveCandidate]
  by_cases hmem : who ∈ s.candidates <;> simp [hmem]

/-- Whether or not the account was a candidate, it is none afterwards. -/
theorem attempt_tryRemoveCandidate_ok {outcome : Except Error ℕ} :
    (attempt (tryRemoveCandidate who)).run s = .ok outcome s' ↔
      s' = s.withoutCandidate who ∧
        outcome = if who ∈ s.candidates then .ok (s.candidates.erase who).length
          else .error .notCandidate := by
  unfold attempt State.withoutCandidate
  simp only [run_tryRemoveCandidate]
  by_cases hmem : who ∈ s.candidates
  · simp [hmem, eq_comm, and_comm]
  · simp [hmem, eq_comm, and_comm]

theorem tryReleaseLicense_ok : (tryReleaseLicense env who false).run s = .ok () s' ↔
      ∃ deposit, Released who s s' deposit := by
  simp only [tryReleaseLicense, State.depositEvent, read_bind_ok, okOr_bind_ok, Bool.false_eq_true,
    if_false, pure_bind_ok, update_bind_ok, update_ok]
  constructor
  · rintro ⟨deposit, hget, ledger, hrelease, rfl⟩
    exact ⟨deposit, hget, ledger, hrelease, rfl⟩
  · rintro ⟨deposit, hget, ledger, hrelease, rfl⟩
    exact ⟨deposit, hget, ledger, hrelease, rfl⟩

/-- A voluntary or a forced release. -/
theorem tryRemoveCandidateAndReleaseLicense_ok {count : ℕ}
    (hrun : (tryRemoveCandidateAndReleaseLicense env who false true).run s =
      .ok count s') : ∃ deposit, Released who (s.withoutCandidate who) s' deposit := by
  simp only [tryRemoveCandidateAndReleaseLicense, bind_ok, attempt_tryRemoveCandidate_ok,
    read_ok] at hrun
  obtain ⟨outcome, _, ⟨rfl, houtcome⟩, _, _, ⟨rfl, rfl⟩, hrun⟩ := hrun
  by_cases hmem : who ∈ s.candidates
  · rw [if_pos hmem] at houtcome
    subst houtcome
    simp only [pure_bind_ok, bind_unit_ok, pure_ok] at hrun
    obtain ⟨_, hrelease, _, rfl⟩ := hrun
    exact tryReleaseLicense_ok.mp hrelease
  · rw [if_neg hmem] at houtcome
    subst houtcome
    simp only [and_self, if_true, pure_bind_ok, bind_unit_ok, pure_ok] at hrun
    obtain ⟨_, hrelease, _, rfl⟩ := hrun
    exact tryReleaseLicense_ok.mp hrelease

/-! ## Kicks -/

/-- In a sound state the kick of a candidate does not fail. -/
theorem run_kick (env : Environment T) (hwell : WellFormed s) (hbonded : Bonded s)
    (hmem : candidate ∈ s.candidates) :
    ∃ count s' deposit, (tryRemoveCandidateAndReleaseLicense env candidate true false).run s =
          .ok count s' ∧
        Kicked env candidate s s' deposit := by
  obtain ⟨deposit, hget⟩ := Option.ne_none_iff_exists'.mp (hwell.licensed candidate hmem)
  have hheld := hbonded.held_of_get hget
  have hpart := env.slashRatio.mul_le deposit
  have hle : env.slashRatio.mul deposit ≤ T.currency.held s.ledger candidate := by omega
  obtain ⟨resolved, hresolve⟩ := Option.isSome_iff_exists.mp (T.currency.resolve_succeeds
    (T.currency.slash s.ledger candidate (env.slashRatio.mul deposit)).2
    T.treasuryAccountId
    (T.currency.slash s.ledger candidate (env.slashRatio.mul deposit)).1)
  -- what the slash left is enough for the release
  have hrest : deposit - env.slashRatio.mul deposit ≤ T.currency.held resolved candidate := by
    have hchange := (T.currency.slash_held hle).self
    rw [← T.currency.resolve_held hresolve] at hchange
    omega
  obtain ⟨ledger, hrelease⟩ := Option.isSome_iff_exists.mp (T.currency.release_succeeds hrest)
  refine ⟨(s.candidates.erase candidate).length, (s.removeCandidate candidate).endLicense candidate
    ledger (deposit - env.slashRatio.mul deposit), deposit, ?_,
    hmem, hget, resolved, ledger, hresolve, hrelease, rfl⟩
  simp only [tryRemoveCandidateAndReleaseLicense, bind_ok, attempt_tryRemoveCandidate_ok, read_ok]
  refine ⟨_, _, ⟨rfl, rfl⟩, _, _, ⟨rfl, rfl⟩, ?_⟩
  rw [if_pos hmem, ← removeCandidate_eq hmem]
  simp only [tryReleaseLicense, slashDeposit, State.removeCandidate, State.depositEvent,
    State.endLicense, if_true]
  simp
  exact ⟨deposit, hget, resolved, hresolve, hrelease, rfl⟩

/-- What the kick of a candidate with the given deposit adds to the balance of an
account. -/
def kickPayout (env : Environment T) (account kicked : T.AccountId) (deposit : ℕ) : ℕ :=
  (if account = kicked then deposit - env.slashRatio.mul deposit else 0) +
    if account = T.treasuryAccountId then env.slashRatio.mul deposit else 0

theorem Kicked.balance (hkicked : Kicked env who s s' deposit)
    (hbonded : Bonded s) (account : T.AccountId) :
    T.currency.balance s'.ledger account =
      T.currency.balance s.ledger account + kickPayout env account who deposit := by
  have hle := hkicked.slashed_le_held hbonded
  obtain ⟨resolved, ledger, hresolve, hrelease, rfl⟩ := hkicked.after
  have hreleased := T.currency.release_balance hrelease account
  have hresolved := T.currency.resolve_balance hresolve account
  rw [T.currency.slash_balance hle, T.currency.slash_taken hle] at hresolved
  show T.currency.balance ledger account = _
  rw [hreleased, hresolved]
  unfold kickPayout
  omega

/-- What a number of kicks does. -/
structure KickedAll (env : Environment T) (stale : List T.AccountId) (s s' : State T) : Prop where
  moves : Relation.ReflTransGen (Move env) s s'
  invulnerables : s'.invulnerables = s.invulnerables
  licenses : ∀ account, s'.licenseDepositOf.get account =
    if account ∈ stale then none else s.licenseDepositOf.get account
  balances : ∀ account, T.currency.balance s'.ledger account =
    T.currency.balance s.ledger account + (stale.map fun kicked =>
      kickPayout env account kicked (s.licenseDepositOf.getD kicked 0)).sum

theorem KickedAll.nil : KickedAll env [] s s where
  moves := .refl
  invulnerables := rfl
  licenses := by simp
  balances := by simp

theorem KickedAll.cons {middle : State T} {stale : List T.AccountId}
    (hkicked : Kicked env who s middle deposit) (hbonded : Bonded s)
    (hrest : KickedAll env stale middle s') (hnew : who ∉ stale) :
    KickedAll env (who :: stale) s s' := by
  have hbalance := hkicked.balance hbonded
  have hget : ∀ account, middle.licenseDepositOf.get account =
      if account = who then none else s.licenseDepositOf.get account := by
    obtain ⟨_, _, _, _, rfl⟩ := hkicked.after
    intro account
    rfl
  refine ⟨.head (.kick hkicked) hrest.moves, ?_, ?_, ?_⟩
  · rw [hrest.invulnerables]
    obtain ⟨_, _, _, _, rfl⟩ := hkicked.after
    rfl
  · intro account
    rw [hrest.licenses, hget]
    by_cases hself : account = who
    · simp [hself]
    · simp [hself]
  · intro account
    -- the deposits of the others have not changed
    have hsame : (stale.map fun kicked =>
          kickPayout env account kicked (middle.licenseDepositOf.getD kicked 0)) =
        stale.map fun kicked =>
          kickPayout env account kicked (s.licenseDepositOf.getD kicked 0) := by
      refine List.map_congr_left fun kicked hmem => ?_
      have hother : kicked ≠ who := fun heq => hnew (heq ▸ hmem)
      simp only [FiniteMap.getD, hget, if_neg hother]
    rw [hrest.balances, hsame, hbalance, List.map_cons, List.sum_cons,
      FiniteMap.getD_of_get hkicked.deposited]
    omega

/-- Kicking a candidate does not make another one stale. -/
theorem Kicked.isStale_iff (hkicked : Kicked env who s s' deposit) (hother : candidate ≠ who) :
    IsStale env s' candidate ↔ IsStale env s candidate := by
  obtain ⟨_, _, _, _, rfl⟩ := hkicked.after
  show _ ≤ _ - (s.lastAuthoredBlock.erase who).getD candidate 0 ↔ _
  rw [FiniteMap.getD_erase, if_neg hother]
  rfl

theorem Kicked.candidates_eq (hkicked : Kicked env who s s' deposit) :
    s'.candidates = s.candidates.erase who := by
  obtain ⟨_, _, _, _, rfl⟩ := hkicked.after
  rfl

theorem run_kickStaleCandidates (env : Environment T) (kept snapshot : List T.AccountId)
    (hwell : WellFormed s) (hbonded : Bonded s) (hcandidates : s.candidates = kept ++ snapshot) :
    ∃ s', (kickStaleCandidates env snapshot).run s =
        .ok (snapshot.filter fun candidate => ¬ IsStale env s candidate) s' ∧
      s'.candidates = kept ++ snapshot.filter (fun candidate => ¬ IsStale env s candidate) ∧
      KickedAll env (snapshot.filter fun candidate => IsStale env s candidate) s s' := by
  -- along the snapshot: `kept` is what was passed and is still a candidate
  induction snapshot generalizing s kept with
  | nil => exact ⟨s, by simp [kickStaleCandidates], by simpa using hcandidates, .nil⟩
  | cons candidate rest ih =>
    have hnodup := hwell.candidates_nodup
    rw [hcandidates] at hnodup
    have hrest : candidate ∉ rest := (List.nodup_cons.mp (List.nodup_append.mp hnodup).2.1).1
    by_cases hstale : IsStale env s candidate
    · have hmem : candidate ∈ s.candidates := by simp [hcandidates]
      obtain ⟨count, middle, deposit, hrun, hkicked⟩ :=
        run_kick env hwell hbonded hmem
      have hmiddle : middle.candidates = kept ++ rest := by
        have hkept : candidate ∉ kept := fun hin =>
          (List.nodup_append.mp hnodup).2.2 candidate hin candidate (by simp) rfl
        rw [hkicked.candidates_eq, hcandidates, List.erase_append_right _ hkept,
          List.erase_cons_head]
      obtain ⟨s', hloop, hleft, hall⟩ := ih kept ((Move.kick hkicked).wellFormed hwell)
        ((Move.kick hkicked).bonded hbonded) hmiddle
      -- the others are as stale as before
      have hsame : ∀ other ∈ rest, (IsStale env middle other ↔ IsStale env s other) :=
        fun other hother => hkicked.isStale_iff fun heq => hrest (heq ▸ hother)
      have hactive : (rest.filter fun other => ¬ IsStale env middle other) =
          rest.filter fun other => ¬ IsStale env s other :=
        List.filter_congr fun other hother => by simp [hsame other hother]
      have hkickedRest : (rest.filter fun other => IsStale env middle other) =
          rest.filter fun other => IsStale env s other :=
        List.filter_congr fun other hother => by simp [hsame other hother]
      rw [hactive] at hloop hleft
      rw [hkickedRest] at hall
      refine ⟨s', ?_, ?_, ?_⟩
      · rw [List.filter_cons_of_neg (by simpa using hstale)]
        simp only [kickStaleCandidates, read_bind_ok, if_pos hstale]
        rw [bind_ok]
        exact ⟨.ok count, middle, by simp [attempt, hrun], hloop⟩
      · rw [List.filter_cons_of_neg (by simpa using hstale)]
        exact hleft
      · rw [List.filter_cons_of_pos (by simpa using hstale)]
        exact hall.cons hkicked hbonded (by simp [hrest])
    · have happend : s.candidates = (kept ++ [candidate]) ++ rest := by simp [hcandidates]
      obtain ⟨s', hloop, hleft, hall⟩ := ih _ hwell hbonded happend
      refine ⟨s', ?_, ?_, ?_⟩
      · rw [List.filter_cons_of_pos (by simpa using hstale)]
        simp only [kickStaleCandidates, read_bind_ok, if_neg hstale]
        rw [bind_ok]
        exact ⟨_, s', hloop, pure_ok.mpr ⟨rfl, rfl⟩⟩
      · rw [List.filter_cons_of_pos (by simpa using hstale), hleft]
        simp
      · rw [List.filter_cons_of_neg (by simpa using hstale)]
        exact hall

/-- A new session returns the invulnerables and the candidates that are left. -/
theorem run_newSession (env : Environment T) (hwell : WellFormed s) (hbonded : Bonded s) :
    ∃ s', (newSession env).run s = .ok (s'.invulnerables ++ s'.candidates) s' ∧
      s'.candidates = s.candidates.filter (fun candidate => ¬ IsStale env s candidate) ∧
      KickedAll env (s.candidates.filter fun candidate => IsStale env s candidate) s s' := by
  obtain ⟨s', hloop, hleft, hall⟩ :=
    run_kickStaleCandidates env [] s.candidates hwell hbonded rfl
  rw [List.nil_append] at hleft
  refine ⟨s', ?_, hleft, hall⟩
  simp only [newSession, assembleCollators, read_bind_ok]
  rw [bind_ok]
  refine ⟨_, s', hloop, ?_⟩
  rw [read_bind_ok, pure_ok, hleft]
  exact ⟨rfl, rfl⟩

/-! ## Actions as moves -/

theorem ensureSigned_ok :
    (ensureSigned origin).run s = .ok who s' ↔ origin = .signed who ∧ s = s' := by
  cases origin <;> simp [ensureSigned]

theorem ensureUpdateOrigin_ok :
    (ensureUpdateOrigin origin).run s = .ok () s' ↔ origin = .update ∧ s = s' := by
  cases origin <;> simp [ensureUpdateOrigin]

theorem ensureRegistered_ok (hrun : (ensureRegistered env who).run s = .ok () s') : s = s' := by
  simp only [ensureRegistered, okOr_bind_ok, ensure_ok] at hrun
  obtain ⟨_, _, _, rfl⟩ := hrun
  rfl

theorem moves_of_addInvulnerable {new : T.AccountId}
    (hrun : (addInvulnerable env origin new).run s = .ok () s') :
    Relation.ReflTransGen (Move env) s s' := by
  simp only [addInvulnerable, bind_unit_ok, ensureUpdateOrigin_ok] at hrun
  obtain ⟨_, ⟨_, rfl⟩, _, hregistered, hrun⟩ := hrun
  obtain rfl := ensureRegistered_ok hregistered
  rw [read_bind_ok, ite_ok] at hrun
  rcases hrun with ⟨_, hrun⟩ | ⟨hnew, hrun⟩
  · rw [pure_ok] at hrun
    rw [hrun.2]
  · rw [ensure_bind_ok, update_bind_ok, bind_ok] at hrun
    obtain ⟨_, _, middle, hremove, hrun⟩ := hrun
    obtain ⟨rfl, _⟩ := attempt_tryRemoveCandidate_ok.mp hremove
    rw [update_ok] at hrun
    obtain rfl := hrun
    exact .single (.appoint hnew)

theorem moves_of_removeInvulnerable (hrun : (removeInvulnerable origin who).run s = .ok () s') :
    Relation.ReflTransGen (Move env) s s' := by
  simp only [removeInvulnerable, bind_unit_ok, ensureUpdateOrigin_ok] at hrun
  obtain ⟨_, ⟨_, rfl⟩, hrun⟩ := hrun
  rw [read_bind_ok, ensure_bind_ok, ensure_bind_ok, update_bind_ok, update_ok] at hrun
  obtain ⟨hmany, hmem, rfl⟩ := hrun
  exact .single (.dismiss hmany hmem)

theorem moves_of_getLicense (hrun : (getLicense env origin).run s = .ok () s') :
    Relation.ReflTransGen (Move env) s s' := by
  unfold getLicense at hrun
  obtain ⟨who, _, horigin, hrun⟩ := bind_ok.mp hrun
  obtain ⟨_, rfl⟩ := ensureSigned_ok.mp horigin
  rw [read_bind_ok, ensure_bind_ok, bind_unit_ok] at hrun
  obtain ⟨hnone, _, hregistered, hrun⟩ := hrun
  obtain rfl := ensureRegistered_ok hregistered
  rw [okOr_bind_ok] at hrun
  obtain ⟨ledger, hhold, hrun⟩ := hrun
  rw [update_bind_ok, update_ok] at hrun
  obtain rfl := hrun
  exact .single (.license hnone hhold)

theorem moves_of_onboard (hrun : (onboard env origin).run s = .ok () s') :
    Relation.ReflTransGen (Move env) s s' := by
  unfold onboard at hrun
  obtain ⟨who, _, horigin, hrun⟩ := bind_ok.mp hrun
  obtain ⟨_, rfl⟩ := ensureSigned_ok.mp horigin
  rw [read_bind_ok, ensure_bind_ok, ensure_bind_ok, ensure_bind_ok, ensure_bind_ok, ensure_bind_ok,
    update_bind_ok, update_ok] at hrun
  obtain ⟨hlicensed, _, hinvulnerable, hcandidate, _, rfl⟩ := hrun
  exact .single (.onboard hlicensed hinvulnerable hcandidate)

theorem moves_of_offboard (hrun : (offboard origin).run s = .ok () s') :
    Relation.ReflTransGen (Move env) s s' := by
  simp only [offboard, bind_ok, ensureSigned_ok, tryRemoveCandidate_ok, pure_ok] at hrun
  obtain ⟨who, _, ⟨_, rfl⟩, _, _, ⟨hmem, _, rfl⟩, _, rfl⟩ := hrun
  exact .single (.offboard hmem)

/-- What a release by the account itself or by the authority does. -/
theorem releaseLicense_ok (hrun : (releaseLicense env origin).run s = .ok () s') :
    ∃ who deposit, origin = .signed who ∧ Released who (s.withoutCandidate who) s' deposit := by
  simp only [releaseLicense, bind_ok, ensureSigned_ok, pure_ok] at hrun
  obtain ⟨who, _, ⟨horigin, rfl⟩, _, _, hrelease, _, rfl⟩ := hrun
  obtain ⟨deposit, hreleased⟩ := tryRemoveCandidateAndReleaseLicense_ok hrelease
  exact ⟨who, deposit, horigin, hreleased⟩

theorem forceReleaseLicense_ok (hrun : (forceReleaseLicense env origin who).run s = .ok () s') :
    ∃ deposit, Released who (s.withoutCandidate who) s' deposit := by
  simp only [forceReleaseLicense, bind_unit_ok, ensureUpdateOrigin_ok] at hrun
  obtain ⟨_, ⟨_, rfl⟩, hrun⟩ := hrun
  simp only [bind_ok, pure_ok] at hrun
  obtain ⟨_, _, hrelease, _, rfl⟩ := hrun
  exact tryRemoveCandidateAndReleaseLicense_ok hrelease

theorem moves_of_call {call : Call T} (hrun : (call.execute env origin).run s = .ok () s') :
    Relation.ReflTransGen (Move env) s s' := by
  cases call with
  | addInvulnerable new => exact moves_of_addInvulnerable hrun
  | removeInvulnerable who => exact moves_of_removeInvulnerable hrun
  | getLicense => exact moves_of_getLicense hrun
  | onboard => exact moves_of_onboard hrun
  | offboard => exact moves_of_offboard hrun
  | releaseLicense =>
    obtain ⟨who, deposit, _, hreleased⟩ := releaseLicense_ok hrun
    exact .single (.release hreleased)
  | forceReleaseLicense who =>
    obtain ⟨deposit, hreleased⟩ := forceReleaseLicense_ok hrun
    exact .single (.release hreleased)

theorem moves_of_noteAuthor (s : State T) (author : T.AccountId) :
    Move env s ((noteAuthor env author).run s).state := by
  obtain ⟨ledger, hrun, hheld, hjournal⟩ : ∃ ledger, (noteAuthor env author).run s = .ok () { s with
            ledger := ledger
            lastAuthoredBlock := s.lastAuthoredBlock.insert author env.blockNumber } ∧
        T.currency.held ledger = T.currency.held s.ledger ∧
        T.currency.journal ledger = T.currency.journal s.ledger := by
    unfold noteAuthor
    simp only [read_bind_ok]
    split
    · split
      · rename_i ledger htransfer
        exact ⟨ledger, by simp, T.currency.transfer_held htransfer,
          T.currency.transfer_journal htransfer⟩
      · exact ⟨s.ledger, by simp, rfl, rfl⟩
    · exact ⟨s.ledger, by simp, rfl, rfl⟩
  rw [hrun]
  exact .author hheld hjournal

theorem moves_of_step {input : Input T} (hwell : WellFormed s) (hbonded : Bonded s)
    (hstep : step s input = some s') : Relation.ReflTransGen (Move input.env) s s' := by
  obtain ⟨env, action⟩ := input
  cases action with
  | call origin call =>
    simp only [step] at hstep
    split at hstep
    · rename_i hrun
      cases hstep
      exact moves_of_call hrun
    · cases hstep
  | noteAuthor author =>
    cases hstep
    exact .single (moves_of_noteAuthor s author)
  | newSession =>
    obtain ⟨after, hrun, _, hall⟩ := run_newSession env hwell hbonded
    simp only [step, hrun, Outcome.state, Option.some.injEq] at hstep
    subst hstep
    exact hall.moves

/-! ## Runs -/

/-- The invariants of every run. -/
structure Sound (s : State T) : Prop where
  wellFormed : WellFormed s
  bonded : Bonded s

theorem Sound.of_moves (hmoves : Relation.ReflTransGen (Move env) s s')
    (hsound : Sound s) : Sound s' := by
  induction hmoves with
  | refl => exact hsound
  | tail _ hmove ih => exact ⟨hmove.wellFormed ih.wellFormed, hmove.bonded ih.bonded⟩

theorem Genesis.sound (genesis : Genesis T) : Sound genesis.build where
  wellFormed := ⟨genesis.nodup, List.nodup_nil, List.disjoint_nil_right _, by simp [Genesis.build],
    by simp [Genesis.build]⟩
  bonded := ⟨genesis.held_eq_zero, fun account => by
    show Lives (T.currency.journal genesis.ledger account) none
    rw [genesis.journal_eq_nil]
    exact .start⟩

/-- The calls and hooks of a run, the latest first. -/
abbrev History (T : Config) := List (CallRecord (State T) (Input T))

theorem sound_of_run {genesis : Genesis T} {history : History T}
    (hrun : Run step genesis.build history s) : Sound s :=
  Run.invariant (fun _ _ => True) genesis.sound
    (fun _ _ _ hsound _ hstep =>
      hsound.of_moves (moves_of_step hsound.wellFormed hsound.bonded hstep)) hrun
    fun _ _ => trivial

/-- Somebody stays invulnerable. -/
theorem Move.invulnerables_ne_nil (hmove : Move env s s') (hsome : s.invulnerables ≠ []) :
    s'.invulnerables ≠ [] := by
  cases hmove with
  | appoint hnew =>
    show (State.withoutCandidate _ _).invulnerables ≠ []
    simp
  | @dismiss who hmany hmem =>
    intro hempty
    have hlength := List.length_erase_of_mem hmem
    have hnone : (s.invulnerables.erase who).length = 0 := List.length_eq_zero_iff.mpr hempty
    omega
  | release hreleased =>
    obtain ⟨_, _, rfl⟩ := hreleased.after
    show (s.withoutCandidate _).invulnerables ≠ []
    rwa [withoutCandidate_invulnerables]
  | kick hkicked =>
    obtain ⟨_, _, _, _, rfl⟩ := hkicked.after
    exact hsome
  | _ => exact hsome

theorem invulnerables_ne_nil_of_moves (hmoves : Relation.ReflTransGen (Move env) s s')
    (hsome : s.invulnerables ≠ []) : s'.invulnerables ≠ [] := by
  induction hmoves with
  | refl => exact hsome
  | tail _ hmove ih => exact hmove.invulnerables_ne_nil ih

theorem invulnerables_ne_nil_of_run {genesis : Genesis T} {history : History T}
    (hrun : Run step genesis.build history s) (hsome : genesis.invulnerables ≠ []) :
    s.invulnerables ≠ [] := by
  have hboth : Sound s ∧ s.invulnerables ≠ [] := by
    refine Run.invariant (P := fun s => Sound s ∧ s.invulnerables ≠ []) (fun _ _ => True)
      ⟨genesis.sound, hsome⟩ ?_ hrun fun _ _ => trivial
    rintro s input s' ⟨hsound, hsome⟩ _ hstep
    have hmoves := moves_of_step hsound.wellFormed hsound.bonded hstep
    exact ⟨hsound.of_moves hmoves, invulnerables_ne_nil_of_moves hmoves hsome⟩
  exact hboth.2

/-- In every run from a genesis with an invulnerable collator the sets of
collators are well formed, and a new session returns a set of collators: the
invulnerables and then the candidates that are left in storage. -/
theorem collators_wellFormed {genesis : Genesis T} {history : History T}
    (hsome : genesis.invulnerables ≠ []) (hrun : Run step genesis.build history s) :
    (s.invulnerables ≠ [] ∧ WellFormed s) ∧ ∀ env, ∃ collators s',
        (newSession env).run s = .ok collators s' ∧
          collators ≠ [] ∧ collators.Nodup ∧ collators = s'.invulnerables ++ s'.candidates := by
  have hsound := sound_of_run hrun
  have hleader := invulnerables_ne_nil_of_run hrun hsome
  refine ⟨⟨hleader, hsound.wellFormed⟩, fun env => ?_⟩
  obtain ⟨s', hsession, _, hall⟩ := run_newSession env hsound.wellFormed hsound.bonded
  have hafter := (hsound.of_moves hall.moves).wellFormed
  refine ⟨_, s', hsession, ?_, ?_, rfl⟩
  · intro hempty
    have hnone := (List.append_eq_nil_iff.mp hempty).1
    exact hleader (hall.invulnerables ▸ hnone)
  · exact List.nodup_append.mpr ⟨hafter.invulnerables_nodup, hafter.candidates_nodup,
      fun account hinvulnerable other hcandidate heq =>
        hafter.disjoint hinvulnerable (heq ▸ hcandidate)⟩

/-- The theorem for a session in which one of two candidates is kicked. -/
theorem collators_wellFormed_session :
    ((replayState step Reference.genesis.build Reference.sessionRun rfl).invulnerables ≠ [] ∧
        WellFormed (replayState step Reference.genesis.build Reference.sessionRun rfl)) ∧
      (replayState step Reference.genesis.build Reference.sessionRun rfl).candidates =
        ([3] : List ℕ) :=
  ⟨(collators_wellFormed (List.cons_ne_nil _ _)
    (run_replay step Reference.genesis.build Reference.sessionRun rfl)).1, rfl⟩

end UniqueChain.CollatorSelection
