import UniqueChain.Model.CollatorSelection

/-!
# What the actions of the collator selection do

Every action is made of a few moves: an account joins or leaves the
invulnerables or the candidates, obtains a license, gives it back or is kicked,
or authors a block.  `Move` lists them with what each writes, and every action
that happens in a sound state is a chain of moves (`moves_of_step`).  An
invariant of the pallet is proved move by move.

A hook is not rolled back when something in it fails.  In a state in which every
candidate is licensed and every bond is held no kick fails
(`run_kick`), so that the chain of a new session is one of kicks.
-/

namespace UniqueChain.CollatorSelection

open Execution FiniteMap

variable {T : Config} {s s' : State T} {env : Environment T} {who candidate : T.AccountId}

variable {deposit : ℕ} {ledger : T.currency.Ledger}

/-! ## Invariants -/

/-- The candidates and the invulnerables are sets without common members, and
every candidate is licensed and has a last block. -/
structure WellFormed (s : State T) : Prop where
  invulnerables_nodup : s.invulnerables.Nodup
  candidates_nodup : s.candidates.Nodup
  disjoint : List.Disjoint s.invulnerables s.candidates
  licensed : ∀ candidate ∈ s.candidates, s.licenseDepositOf.get candidate ≠ none
  authored : ∀ candidate ∈ s.candidates, s.lastAuthoredBlock.get candidate ≠ none

/-- What is held for an account is its deposit, and each deposit it ever made was
ended once or is the one it has now. -/
structure Bonded (s : State T) : Prop where
  held_eq : ∀ account, T.currency.held s.ledger account = s.licenseDepositOf.getD account 0
  lives : ∀ account,
    Lives (T.currency.journal s.ledger account) (s.licenseDepositOf.get account)

theorem Bonded.held_of_get (hbonded : Bonded s) (hget : s.licenseDepositOf.get who = some deposit) :
    T.currency.held s.ledger who = deposit := by
  rw [hbonded.held_eq, getD_of_get hget]

/-! ## Moves -/

def State.removeCandidate (s : State T) (who : T.AccountId) : State T :=
  { s with
    candidates := s.candidates.erase who
    lastAuthoredBlock := s.lastAuthoredBlock.erase who
    events := .candidateRemoved who :: s.events }

/-- The state without an account that may be a candidate. -/
def State.withoutCandidate (s : State T) (who : T.AccountId) : State T :=
  if who ∈ s.candidates then s.removeCandidate who else s

/-- The state after the license of an account has ended. -/
def State.endLicense (s : State T) (who : T.AccountId) (ledger : T.currency.Ledger)
    (returned : ℕ) : State T :=
  { s with
    ledger := ledger
    licenseDepositOf := s.licenseDepositOf.erase who
    events := .licenseReleased who returned :: s.events }

/-- A license ends without a slash. -/
structure Released (who : T.AccountId) (s s' : State T) (deposit : ℕ) : Prop where
  deposited : s.licenseDepositOf.get who = some deposit
  after : ∃ ledger, T.currency.release s.ledger who deposit = some ledger ∧
    s' = s.endLicense who ledger deposit

/-- A candidate is kicked: a part of its deposit goes to the treasury. -/
structure Kicked (env : Environment T) (who : T.AccountId) (s s' : State T)
    (deposit : ℕ) : Prop where
  candidate : who ∈ s.candidates
  deposited : s.licenseDepositOf.get who = some deposit
  after : ∃ resolved ledger,
    T.currency.resolve (T.currency.slash s.ledger who (env.slashRatio.mul deposit)).2
        T.treasuryAccountId
        (T.currency.slash s.ledger who (env.slashRatio.mul deposit)).1 = some resolved ∧
      T.currency.release resolved who (deposit - env.slashRatio.mul deposit) = some ledger ∧
      s' = (s.removeCandidate who).endLicense who ledger (deposit - env.slashRatio.mul deposit)

/-- The moves of the pallet. -/
inductive Move (env : Environment T) : State T → State T → Prop
  | appoint {s : State T} {new : T.AccountId} (hnew : new ∉ s.invulnerables) : Move env s
        (({ s with invulnerables := s.invulnerables ++ [new] } : State T).withoutCandidate new
          |>.depositEvent (.invulnerableAdded new))
  | dismiss {s : State T} {who : T.AccountId} (hmany : 1 < s.invulnerables.length)
      (hmem : who ∈ s.invulnerables) :
      Move env s (({ s with invulnerables := s.invulnerables.erase who } : State T).depositEvent
          (.invulnerableRemoved who))
  | license {s : State T} {who : T.AccountId} {ledger : T.currency.Ledger}
      (hnone : s.licenseDepositOf.get who = none)
      (hhold : T.currency.hold s.ledger who env.licenseBond = some ledger) :
      Move env s (({ s with
            ledger := ledger
            licenseDepositOf := s.licenseDepositOf.insert who env.licenseBond }
          : State T).depositEvent (.licenseObtained who env.licenseBond))
  | onboard {s : State T} {who : T.AccountId} {block : ℕ}
      (hlicensed : s.licenseDepositOf.get who ≠ none) (hinvulnerable : who ∉ s.invulnerables)
      (hcandidate : who ∉ s.candidates) :
      Move env s (({ s with
            candidates := s.candidates ++ [who]
            lastAuthoredBlock := s.lastAuthoredBlock.insert who block } : State T).depositEvent
          (.candidateAdded who))
  | offboard {s : State T} {who : T.AccountId} (hmem : who ∈ s.candidates) :
      Move env s (s.removeCandidate who)
  | release {s s' : State T} {who : T.AccountId} {deposit : ℕ}
      (hreleased : Released who (s.withoutCandidate who) s' deposit) : Move env s s'
  | kick {s s' : State T} {who : T.AccountId} {deposit : ℕ}
      (hkicked : Kicked env who s s' deposit) : Move env s s'
  | author {s : State T} {author : T.AccountId} {ledger : T.currency.Ledger}
      (hheld : T.currency.held ledger = T.currency.held s.ledger)
      (hjournal : T.currency.journal ledger = T.currency.journal s.ledger) :
      Move env s { s with
          ledger := ledger
          lastAuthoredBlock := s.lastAuthoredBlock.insert author env.blockNumber }

/-! ## Moves keep the invariants -/

theorem mem_candidates_withoutCandidate {account : T.AccountId} (hnodup : s.candidates.Nodup) :
    account ∈ (s.withoutCandidate who).candidates ↔ account ≠ who ∧ account ∈ s.candidates := by
  unfold State.withoutCandidate
  by_cases hmem : who ∈ s.candidates
  · rw [if_pos hmem]
    exact hnodup.mem_erase_iff
  · rw [if_neg hmem]
    exact ⟨fun haccount => ⟨fun heq => hmem (heq ▸ haccount), haccount⟩, And.right⟩

theorem nodup_candidates_withoutCandidate (hnodup : s.candidates.Nodup) :
    (s.withoutCandidate who).candidates.Nodup := by
  unfold State.withoutCandidate
  split
  · exact hnodup.erase who
  · exact hnodup

@[simp] theorem withoutCandidate_invulnerables :
    (s.withoutCandidate who).invulnerables = s.invulnerables := by
  unfold State.withoutCandidate
  split <;> rfl

@[simp] theorem withoutCandidate_licenseDepositOf :
    (s.withoutCandidate who).licenseDepositOf = s.licenseDepositOf := by
  unfold State.withoutCandidate
  split <;> rfl

@[simp] theorem withoutCandidate_ledger : (s.withoutCandidate who).ledger = s.ledger := by
  unfold State.withoutCandidate
  split <;> rfl

theorem withoutCandidate_lastAuthoredBlock {account : T.AccountId} (hother : account ≠ who) :
    (s.withoutCandidate who).lastAuthoredBlock.get account = s.lastAuthoredBlock.get account := by
  unfold State.withoutCandidate
  split
  · exact get_erase_of_ne _ hother
  · rfl

/-- An account that leaves the candidates leaves them well formed. -/
theorem WellFormed.withoutCandidate (hwell : WellFormed s) (who : T.AccountId) :
    WellFormed (s.withoutCandidate who) where
  invulnerables_nodup := by
    rw [withoutCandidate_invulnerables]
    exact hwell.invulnerables_nodup
  candidates_nodup := nodup_candidates_withoutCandidate hwell.candidates_nodup
  disjoint := by
    intro account hinvulnerable hcandidate
    rw [withoutCandidate_invulnerables] at hinvulnerable
    exact hwell.disjoint hinvulnerable
      ((mem_candidates_withoutCandidate hwell.candidates_nodup).mp hcandidate).2
  licensed := by
    intro account haccount
    rw [withoutCandidate_licenseDepositOf]
    exact hwell.licensed account
      ((mem_candidates_withoutCandidate hwell.candidates_nodup).mp haccount).2
  authored := by
    intro account haccount
    obtain ⟨hother, hmem⟩ := (mem_candidates_withoutCandidate hwell.candidates_nodup).mp haccount
    rw [withoutCandidate_lastAuthoredBlock hother]
    exact hwell.authored account hmem

theorem removeCandidate_eq (hmem : who ∈ s.candidates) :
    s.removeCandidate who = s.withoutCandidate who := (if_pos hmem).symm

/-- Ending the license of an account that is no candidate. -/
theorem WellFormed.endLicense {returned : ℕ} (hwell : WellFormed s)
    (hcandidate : who ∉ s.candidates) : WellFormed (s.endLicense who ledger returned) where
  invulnerables_nodup := hwell.invulnerables_nodup
  candidates_nodup := hwell.candidates_nodup
  disjoint := hwell.disjoint
  licensed := by
    intro account haccount
    have hother : account ≠ who := fun heq => hcandidate (heq ▸ haccount)
    show (s.licenseDepositOf.erase who).get account ≠ none
    rw [get_erase_of_ne _ hother]
    exact hwell.licensed account haccount
  authored := hwell.authored

theorem not_mem_candidates_withoutCandidate (hwell : WellFormed s) :
    who ∉ (s.withoutCandidate who).candidates := fun hmem =>
  ((mem_candidates_withoutCandidate hwell.candidates_nodup).mp hmem).1 rfl

theorem Move.wellFormed (hmove : Move env s s') (hwell : WellFormed s) : WellFormed s' := by
  cases hmove with
  | @appoint new hnew =>
    -- the account joins the invulnerables and leaves the candidates
    have hwithout := hwell.withoutCandidate new
    have hstate : ({ s with invulnerables := s.invulnerables ++ [new] } : State T).withoutCandidate
        new = { s.withoutCandidate new with invulnerables := s.invulnerables ++ [new] } := by
      unfold State.withoutCandidate
      split <;> rfl
    rw [hstate]
    refine ⟨?_, hwithout.candidates_nodup, ?_, hwithout.licensed, hwithout.authored⟩
    · exact List.nodup_append.mpr ⟨hwell.invulnerables_nodup, List.nodup_singleton new,
        fun account haccount other hother heq => hnew (by simp_all)⟩
    · intro account hinvulnerable hcandidate
      obtain ⟨hother, hmem⟩ :=
        (mem_candidates_withoutCandidate hwell.candidates_nodup).mp hcandidate
      rcases List.mem_append.mp hinvulnerable with hold | hadded
      · exact hwell.disjoint hold hmem
      · exact hother (List.mem_singleton.mp hadded)
  | dismiss hmany hmem =>
    exact ⟨hwell.invulnerables_nodup.erase _, hwell.candidates_nodup,
      fun account hinvulnerable => hwell.disjoint (List.mem_of_mem_erase hinvulnerable),
      hwell.licensed, hwell.authored⟩
  | @license who ledger hnone hhold =>
    refine ⟨hwell.invulnerables_nodup, hwell.candidates_nodup, hwell.disjoint, ?_,
      hwell.authored⟩
    intro account haccount
    have hother : account ≠ who := fun heq => hwell.licensed account haccount (heq ▸ hnone)
    show (s.licenseDepositOf.insert who env.licenseBond).get account ≠ none
    rw [get_insert_of_ne _ _ hother]
    exact hwell.licensed account haccount
  | @onboard who block hlicensed hinvulnerable hcandidate =>
    refine ⟨hwell.invulnerables_nodup, ?_, ?_, ?_, ?_⟩
    · exact List.nodup_append.mpr ⟨hwell.candidates_nodup, List.nodup_singleton who,
        fun account haccount other hother heq => hcandidate (by simp_all)⟩
    · intro account hold hnew
      rcases List.mem_append.mp hnew with hmem | hadded
      · exact hwell.disjoint hold hmem
      · exact hinvulnerable (List.mem_singleton.mp hadded ▸ hold)
    · intro account haccount
      rcases List.mem_append.mp haccount with hmem | hadded
      · exact hwell.licensed account hmem
      · exact List.mem_singleton.mp hadded ▸ hlicensed
    · intro account haccount
      show (s.lastAuthoredBlock.insert who block).get account ≠ none
      by_cases hself : account = who
      · simp [hself]
      · rw [get_insert_of_ne _ _ hself]
        rcases List.mem_append.mp haccount with hmem | hadded
        · exact hwell.authored account hmem
        · exact absurd (List.mem_singleton.mp hadded) hself
  | offboard hmem =>
    rw [removeCandidate_eq hmem]
    exact hwell.withoutCandidate _
  | release hreleased =>
    obtain ⟨ledger, _, rfl⟩ := hreleased.after
    exact (hwell.withoutCandidate _).endLicense (not_mem_candidates_withoutCandidate hwell)
  | kick hkicked =>
    obtain ⟨_, ledger, _, _, rfl⟩ := hkicked.after
    rw [removeCandidate_eq hkicked.candidate]
    exact (hwell.withoutCandidate _).endLicense (not_mem_candidates_withoutCandidate hwell)
  | @author author ledger hheld hjournal =>
    refine ⟨hwell.invulnerables_nodup, hwell.candidates_nodup, hwell.disjoint, hwell.licensed, ?_⟩
    intro account haccount
    show (s.lastAuthoredBlock.insert author env.blockNumber).get account ≠ none
    by_cases hself : account = author
    · simp [hself]
    · rw [get_insert_of_ne _ _ hself]
      exact hwell.authored account haccount

/-- A license ends with its whole deposit taken out of what is held. -/
theorem Bonded.endLicense {deposit returned : ℕ} {entries : List HoldOperation} (hbonded : Bonded s)
    (hget : s.licenseDepositOf.get who = some deposit)
    (hheld : Credited (T.currency.held ledger) (T.currency.held s.ledger) who deposit)
    (hjournal : T.currency.journal ledger =
      Function.update (T.currency.journal s.ledger) who entries)
    (hlives : Lives entries none) : Bonded (s.endLicense who ledger returned) where
  held_eq := by
    intro account
    show T.currency.held ledger account = (s.licenseDepositOf.erase who).getD account 0
    rw [getD_erase]
    have hchange := hheld account
    rw [hbonded.held_eq account] at hchange
    by_cases haccount : account = who
    · subst haccount
      rw [if_pos rfl] at hchange ⊢
      rw [getD_of_get hget] at hchange
      omega
    · rw [if_neg haccount] at hchange ⊢
      omega
  lives := by
    intro account
    show Lives (T.currency.journal ledger account) ((s.licenseDepositOf.erase who).get account)
    rw [hjournal]
    by_cases haccount : account = who
    · subst haccount
      rw [Function.update_self, get_erase_self]
      exact hlives
    · rw [Function.update_of_ne haccount, get_erase_of_ne _ haccount]
      exact hbonded.lives account

/-- The invariant only reads the deposits and what the ledger says about held
amounts. -/
theorem Bonded.congr (hbonded : Bonded s) (hdeposits : s'.licenseDepositOf = s.licenseDepositOf)
    (hheld : T.currency.held s'.ledger = T.currency.held s.ledger)
    (hjournal : T.currency.journal s'.ledger = T.currency.journal s.ledger) : Bonded s' where
  held_eq := by
    rw [hdeposits, hheld]
    exact hbonded.held_eq
  lives := by
    rw [hdeposits, hjournal]
    exact hbonded.lives

theorem Bonded.withoutCandidate (hbonded : Bonded s) (who : T.AccountId) :
    Bonded (s.withoutCandidate who) :=
  hbonded.congr withoutCandidate_licenseDepositOf (by rw [withoutCandidate_ledger])
    (by rw [withoutCandidate_ledger])

theorem Bonded.license {bond : ℕ} (hbonded : Bonded s) (hnone : s.licenseDepositOf.get who = none)
    (hhold : T.currency.hold s.ledger who bond = some ledger)
    (hdeposits : s'.licenseDepositOf = s.licenseDepositOf.insert who bond)
    (hledger : s'.ledger = ledger) : Bonded s' where
  held_eq := by
    intro account
    have hchange := T.currency.hold_held hhold account
    rw [hledger, hdeposits, hchange, hbonded.held_eq account, getD_insert]
    by_cases haccount : account = who
    · subst haccount
      rw [if_pos rfl, if_pos rfl, getD_of_get_none hnone]
      omega
    · rw [if_neg haccount, if_neg haccount]
      omega
  lives := by
    intro account
    rw [hledger, hdeposits, T.currency.hold_journal hhold]
    by_cases haccount : account = who
    · subst haccount
      have hended := hbonded.lives account
      rw [hnone] at hended
      rw [Function.update_self, get_insert_self]
      exact .made bond hended
    · rw [Function.update_of_ne haccount, get_insert_of_ne _ _ haccount]
      exact hbonded.lives account

theorem Released.bonded (hreleased : Released who s s' deposit)
    (hbonded : Bonded s) : Bonded s' := by
  obtain ⟨ledger, hrelease, rfl⟩ := hreleased.after
  have hopen := hbonded.lives who
  rw [hreleased.deposited] at hopen
  exact hbonded.endLicense hreleased.deposited (T.currency.release_held hrelease)
    (T.currency.release_journal hrelease) hopen.released

/-- What can be slashed of a deposit is held. -/
theorem Kicked.slashed_le_held (hkicked : Kicked env who s s' deposit)
    (hbonded : Bonded s) : env.slashRatio.mul deposit ≤ T.currency.held s.ledger who := by
  rw [hbonded.held_of_get hkicked.deposited]
  exact env.slashRatio.mul_le deposit

theorem Kicked.bonded (hkicked : Kicked env who s s' deposit) (hbonded : Bonded s) : Bonded s' := by
  have hle := hkicked.slashed_le_held hbonded
  obtain ⟨resolved, ledger, hresolve, hrelease, rfl⟩ := hkicked.after
  have hpart := env.slashRatio.mul_le deposit
  have hsplit : env.slashRatio.mul deposit +
      (deposit - env.slashRatio.mul deposit) = deposit := by omega
  -- what is slashed and what is released make up the deposit
  have hheld : Credited (T.currency.held ledger) (T.currency.held s.ledger) who deposit := by
    have hslashed := T.currency.slash_held hle
    rw [← T.currency.resolve_held hresolve] at hslashed
    have hboth := (T.currency.release_held hrelease).trans hslashed
    rwa [Nat.add_comm, hsplit] at hboth
  have hopen := hbonded.lives who
  rw [hkicked.deposited, ← hsplit] at hopen
  have hjournal := T.currency.release_journal hrelease
  rw [T.currency.resolve_journal hresolve, T.currency.slash_journal hle,
    Function.update_idem, Function.update_self] at hjournal
  have hremoved : Bonded (s.removeCandidate who) := hbonded.congr rfl rfl rfl
  exact hremoved.endLicense hkicked.deposited hheld hjournal hopen.slashed

theorem Move.bonded (hmove : Move env s s') (hbonded : Bonded s) : Bonded s' := by
  cases hmove with
  | appoint hnew =>
    exact hbonded.congr withoutCandidate_licenseDepositOf
      (congrArg _ withoutCandidate_ledger) (congrArg _ withoutCandidate_ledger)
  | license hnone hhold => exact hbonded.license hnone hhold rfl rfl
  | release hreleased => exact hreleased.bonded (hbonded.withoutCandidate _)
  | kick hkicked => exact hkicked.bonded hbonded
  | author hheld hjournal => exact hbonded.congr rfl hheld hjournal
  | _ => exact hbonded.congr rfl rfl rfl

end UniqueChain.CollatorSelection
