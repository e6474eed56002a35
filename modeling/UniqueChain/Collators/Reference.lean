import UniqueChain.Model.CollatorSelection

/-!
# A currency for the collator selection

A currency that meets the laws of `HoldCurrency`: a ledger is the balances, the
held amounts and the journal of every account.  The pallet with this currency can
be run.
-/

namespace UniqueChain.CollatorSelection.Reference

/-- The free and the held amount of an account, and what was done to the latter. -/
structure Purse where
  free : ℕ
  held : ℕ
  journal : List HoldOperation
  deriving DecidableEq

variable (ledger : ℕ → Purse) {account value amount : ℕ}

def put (account : ℕ) (purse : Purse) : ℕ → Purse :=
  Function.update ledger account purse

/-- Read a field of the purses after one of them was written. -/
theorem field_put {α : Type} (field : Purse → α) (ledger : ℕ → Purse) (account : ℕ)
    (purse : Purse) :
    (fun other => field (put ledger account purse other)) =
      Function.update (fun other => field (ledger other)) account (field purse) := by
  funext other
  by_cases hother : other = account
  · subst hother
    simp [put]
  · simp [put, hother]

/-- An amount moved from one entry of a table. -/
theorem credited_update {before : ℕ → ℕ} (hvalue : value = before account + amount) :
    Credited before (Function.update before account value) account amount := by
  intro other
  by_cases hother : other = account
  · subst hother
    simp [hvalue]
  · simp [hother]

theorem credited_of_update {before : ℕ → ℕ} (hvalue : before account = value + amount) :
    Credited (Function.update before account value) before account amount := by
  intro other
  by_cases hother : other = account
  · subst hother
    simp [hvalue]
  · simp [hother]

def hold (account amount : ℕ) : Option (ℕ → Purse) :=
  if amount ≤ (ledger account).free then
    some (put ledger account ⟨(ledger account).free - amount, (ledger account).held + amount,
      .hold amount :: (ledger account).journal⟩)
  else none

def slash (account amount : ℕ) : ℕ × (ℕ → Purse) :=
  (min amount (ledger account).held, put ledger account ⟨(ledger account).free,
    (ledger account).held - amount, .slash amount :: (ledger account).journal⟩)

def release (account amount : ℕ) : Option (ℕ → Purse) :=
  if amount ≤ (ledger account).held then
    some (put ledger account ⟨(ledger account).free + amount, (ledger account).held - amount,
      .release amount :: (ledger account).journal⟩)
  else none

def resolve (account amount : ℕ) : Option (ℕ → Purse) :=
  some (put ledger account ⟨(ledger account).free + amount, (ledger account).held,
    (ledger account).journal⟩)

/-- A transfer takes the amount out first, so that a transfer to oneself changes
nothing. -/
def transfer (source target amount : ℕ) : Option (ℕ → Purse) :=
  if amount ≤ (ledger source).free then
    let taken := put ledger source { ledger source with free := (ledger source).free - amount }
    some (put taken target { taken target with free := (taken target).free + amount })
  else none

def currency : HoldCurrency ℕ where
  Ledger := ℕ → Purse
  balance ledger account := (ledger account).free
  held ledger account := (ledger account).held
  journal ledger account := (ledger account).journal
  minimumBalance := 1
  transfer := transfer
  hold := hold
  slash := slash
  resolve := resolve
  release := release
  transfer_held := by
    intro ledger after source target amount htransfer
    unfold transfer at htransfer
    split at htransfer
    · cases htransfer
      rw [field_put Purse.held, field_put Purse.held, Function.update_eq_self_iff.mpr,
        Function.update_eq_self_iff.mpr]
      · rfl
      · exact congrFun (field_put Purse.held ledger source _) target
    · cases htransfer
  transfer_journal := by
    intro ledger after source target amount htransfer
    unfold transfer at htransfer
    split at htransfer
    · cases htransfer
      rw [field_put Purse.journal, field_put Purse.journal, Function.update_eq_self_iff.mpr,
        Function.update_eq_self_iff.mpr]
      · rfl
      · exact congrFun (field_put Purse.journal ledger source _) target
    · cases htransfer
  hold_balance := by
    intro ledger after account amount hhold
    unfold hold at hhold
    split at hhold
    · rename_i hle
      cases hhold
      rw [field_put Purse.free]
      exact credited_of_update (Nat.sub_add_cancel hle).symm
    · cases hhold
  hold_held := by
    intro ledger after account amount hhold
    unfold hold at hhold
    split at hhold
    · cases hhold
      rw [field_put Purse.held]
      exact credited_update rfl
    · cases hhold
  hold_journal := by
    intro ledger after account amount hhold
    unfold hold at hhold
    split at hhold
    · cases hhold
      exact field_put Purse.journal ..
    · cases hhold
  slash_taken := fun hle => Nat.min_eq_left hle
  slash_balance := by
    intro ledger account amount _
    show (fun other => (put ledger account _ other).free) = _
    rw [field_put Purse.free]
    exact Function.update_eq_self account fun other => (ledger other).free
  slash_held := by
    intro ledger account amount hle
    show Credited (fun other => (put ledger account _ other).held) _ account amount
    rw [field_put Purse.held]
    exact credited_of_update (Nat.sub_add_cancel hle).symm
  slash_journal := fun _ => field_put Purse.journal ..
  resolve_succeeds := fun _ _ _ => rfl
  resolve_balance := by
    intro ledger after account amount hresolve
    cases hresolve
    rw [field_put Purse.free]
    exact credited_update rfl
  resolve_held := by
    intro ledger after account amount hresolve
    cases hresolve
    rw [field_put Purse.held]
    exact Function.update_eq_self account fun other => (ledger other).held
  resolve_journal := by
    intro ledger after account amount hresolve
    cases hresolve
    rw [field_put Purse.journal]
    exact Function.update_eq_self account fun other => (ledger other).journal
  release_succeeds := by
    intro ledger account amount hle
    rw [release, if_pos hle]
    rfl
  release_balance := by
    intro ledger after account amount hrelease
    unfold release at hrelease
    split at hrelease
    · cases hrelease
      rw [field_put Purse.free]
      exact credited_update rfl
    · cases hrelease
  release_held := by
    intro ledger after account amount hrelease
    unfold release at hrelease
    split at hrelease
    · rename_i hle
      cases hrelease
      rw [field_put Purse.held]
      exact credited_of_update (Nat.sub_add_cancel hle).symm
    · cases hrelease
  release_journal := by
    intro ledger after account amount hrelease
    unfold release at hrelease
    split at hrelease
    · cases hrelease
      exact field_put Purse.journal ..
    · cases hrelease

/-- Accounts are numbers; account 0 is the treasury and account 9 the pot. -/
def config : Config where
  AccountId := ℕ
  ValidatorId := ℕ
  currency := currency
  treasuryAccountId := 0
  accountId := 9
  maxCollators := 10

/-- A genesis with one invulnerable collator, in which everyone owns a hundred. -/
def genesis : Genesis config where
  invulnerables := ([1] : List ℕ)
  nodup := List.nodup_singleton _
  length_le := by decide
  ledger := fun _ => ⟨100, 0, []⟩
  held_eq_zero := fun _ => rfl
  journal_eq_nil := fun _ => rfl

def env : Environment config where
  blockNumber := 50
  desiredCollators := 5
  licenseBond := 10
  slashRatio := .ofPercent 30
  kickThreshold := 7
  validatorIdOf := some
  isRegistered := fun _ => true

/-- A call signed by an account. -/
def signed (who : ℕ) (call : Call config) : Input config :=
  ⟨env, .call (.signed who) call⟩

/-- Two accounts obtain licenses and become candidates; one of them authors a
block, and a session starts when the other one has been silent for too long. -/
def sessionRun : List (Input config) :=
  [signed (2 : ℕ) .getLicense, signed (2 : ℕ) .onboard, signed (3 : ℕ) .getLicense,
    signed (3 : ℕ) .onboard, ⟨{ env with blockNumber := 60 }, .noteAuthor (3 : ℕ)⟩,
    ⟨{ env with blockNumber := 64 }, .newSession⟩]

end UniqueChain.CollatorSelection.Reference
