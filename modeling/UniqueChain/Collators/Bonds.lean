import UniqueChain.Collators.Sessions

/-!
# License bonds

What is held for an account under the reason of the pallet is the deposit that the
pallet has written down, whatever the bond and the slash ratio were changed to in
between.  The journal of the currency shows that each deposit is ended once: by a
release of all of it, or by a slash and a release of the rest.
-/

namespace UniqueChain.CollatorSelection

open Execution

variable {T : Config} {s s' : State T} {env : Environment T} {who : T.AccountId}

/-- A license has ended and its deposit was returned to the account. -/
structure DepositReturned (who : T.AccountId) (s s' : State T) : Prop where
  deposited : s.licenseDepositOf.get who ≠ none
  licenses : s'.licenseDepositOf = s.licenseDepositOf.erase who
  held : T.currency.held s'.ledger who = 0
  balances : Credited (T.currency.balance s.ledger) (T.currency.balance s'.ledger) who
    (s.licenseDepositOf.getD who 0)

theorem Released.depositReturned {deposit : ℕ} (hbonded : Bonded s)
    (hreleased : Released who (s.withoutCandidate who) s' deposit) : DepositReturned who s s' := by
  have hafter := (hreleased.bonded (hbonded.withoutCandidate who)).held_eq who
  have hdeposited := hreleased.deposited
  obtain ⟨ledger, hrelease, rfl⟩ := hreleased.after
  rw [withoutCandidate_licenseDepositOf] at hdeposited
  rw [withoutCandidate_ledger] at hrelease
  refine ⟨by simp [hdeposited], by simp [State.endLicense], ?_, ?_⟩
  · rw [hafter]
    simp [State.endLicense, FiniteMap.getD]
  · rw [FiniteMap.getD_of_get hdeposited]
    exact T.currency.release_balance hrelease

/-- The deposits of the stale candidates go to the treasury and back to them. -/
structure StaleKicked (env : Environment T) (stale : List T.AccountId) (s s' : State T) : Prop where
  licenses : ∀ account, s'.licenseDepositOf.get account =
    if account ∈ stale then none else s.licenseDepositOf.get account
  held : ∀ account ∈ stale, T.currency.held s'.ledger account = 0
  balances : ∀ account, T.currency.balance s'.ledger account =
    T.currency.balance s.ledger account + (stale.map fun kicked =>
      kickPayout env account kicked (s.licenseDepositOf.getD kicked 0)).sum

theorem KickedAll.staleKicked {stale : List T.AccountId} (hbonded : Bonded s')
    (hall : KickedAll env stale s s') : StaleKicked env stale s s' where
  licenses := hall.licenses
  held := by
    intro account hmem
    rw [hbonded.held_eq, FiniteMap.getD, hall.licenses, if_pos hmem]
    rfl
  balances := hall.balances

/-- In every run the bonds are conserved: what is held is what was deposited, no
deposit is ended twice, a release returns the whole deposit, and a kick gives the
slashed part to the treasury and the rest back. -/
theorem licenseBonds_conserved {genesis : Genesis T} {history : History T}
    (hrun : Run step genesis.build history s) :
    (∀ account, T.currency.held s.ledger account = s.licenseDepositOf.getD account 0) ∧
      (∀ account, Lives (T.currency.journal s.ledger account)
        (s.licenseDepositOf.get account)) ∧
      (∀ env who s', (releaseLicense env (.signed who)).run s = .ok () s' →
        DepositReturned who s s') ∧
      (∀ env origin who s', (forceReleaseLicense env origin who).run s = .ok () s' →
          DepositReturned who s s') ∧
      ∀ env collators s', (newSession env).run s = .ok collators s' → StaleKicked env
          (s.candidates.filter fun candidate => IsStale env s candidate) s s' := by
  have hsound := sound_of_run hrun
  refine ⟨hsound.bonded.held_eq, hsound.bonded.lives, ?_, ?_, ?_⟩
  · intro env who s' hrelease
    obtain ⟨signer, deposit, horigin, hreleased⟩ := releaseLicense_ok hrelease
    cases horigin
    exact hreleased.depositReturned hsound.bonded
  · intro env origin who s' hrelease
    obtain ⟨deposit, hreleased⟩ := forceReleaseLicense_ok hrelease
    exact hreleased.depositReturned hsound.bonded
  · intro env collators s' hsession
    obtain ⟨after, hafter, _, hall⟩ :=
      run_newSession env hsound.wellFormed hsound.bonded
    rw [hsession] at hafter
    cases hafter
    exact hall.staleKicked (hsound.of_moves hall.moves).bonded

/-- The theorem for a session in which account 2 is kicked: of its bond of 10 it
gets 7 back, and 3 go to the treasury. -/
theorem licenseBonds_conserved_session :
    (∀ account, Reference.currency.held
          (replayState step Reference.genesis.build Reference.sessionRun rfl).ledger account =
        (replayState step Reference.genesis.build Reference.sessionRun rfl).licenseDepositOf.getD
          account 0) ∧
      Reference.currency.balance
          (replayState step Reference.genesis.build Reference.sessionRun rfl).ledger 2 = 97 ∧
      Reference.currency.balance
          (replayState step Reference.genesis.build Reference.sessionRun rfl).ledger 0 = 103 :=
  ⟨(licenseBonds_conserved
    (run_replay step Reference.genesis.build Reference.sessionRun rfl)).1, rfl, rfl⟩

end UniqueChain.CollatorSelection
