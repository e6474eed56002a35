import Mathlib.Data.Nat.Notation
import Mathlib.Tactic.Common

/-!
# Currencies with holds and freezes

A component that takes deposits uses a currency it does not implement.  What it
may rely on is stated here once, as a structure: the amounts that can be read from
a ledger, the operations on ledgers, and what each operation does to the amounts.
An operation may fail for reasons of its own; the laws only say that what is held
can be slashed and released, and that what is to be frozen is frozen.

A currency with holds also keeps a journal of what was done to held amounts.  `Lives` reads
the journal of one account as a sequence of deposits, each made once and ended
once.
-/

/-- An amount was added to one entry of a table and nothing else has changed. -/
def Credited {Account : Type} [DecidableEq Account] (before after : Account → ℕ)
    (account : Account) (amount : ℕ) : Prop :=
  ∀ other, after other = before other + if other = account then amount else 0

namespace Credited

variable {Account : Type} [DecidableEq Account] {before after : Account → ℕ}
  {account other : Account} {amount : ℕ}

theorem self (hcredited : Credited before after account amount) :
    after account = before account + amount := by
  rw [hcredited account, if_pos rfl]

/-- Two amounts added one after the other. -/
theorem trans {middle : Account → ℕ} {first second : ℕ}
    (hfirst : Credited before middle account first)
    (hsecond : Credited middle after account second) :
    Credited before after account (first + second) := by
  intro other
  rw [hsecond other, hfirst other]
  split <;> omega

end Credited

/-- What is done to the held amount of an account. -/
inductive HoldOperation where
  | hold (amount : ℕ)
  | slash (amount : ℕ)
  | release (amount : ℕ)
  deriving DecidableEq

/-- A currency in which amounts of an account can be held. -/
structure HoldCurrency (Account : Type) [DecidableEq Account] where
  Ledger : Type
  balance : Ledger → Account → ℕ
  held : Ledger → Account → ℕ
  /-- What was done to the held amount of an account, the latest first. -/
  journal : Ledger → Account → List HoldOperation
  minimumBalance : ℕ
  transfer : Ledger → Account → Account → ℕ → Option Ledger
  hold : Ledger → Account → ℕ → Option Ledger
  /-- What was taken, and the ledger without it. -/
  slash : Ledger → Account → ℕ → ℕ × Ledger
  /-- Put an amount that was taken into an account. -/
  resolve : Ledger → Account → ℕ → Option Ledger
  release : Ledger → Account → ℕ → Option Ledger
  transfer_held : ∀ {ledger after source target amount},
    transfer ledger source target amount = some after → held after = held ledger
  transfer_journal : ∀ {ledger after source target amount},
    transfer ledger source target amount = some after → journal after = journal ledger
  hold_balance : ∀ {ledger after account amount}, hold ledger account amount = some after →
    Credited (balance after) (balance ledger) account amount
  hold_held : ∀ {ledger after account amount}, hold ledger account amount = some after →
    Credited (held ledger) (held after) account amount
  hold_journal : ∀ {ledger after account amount}, hold ledger account amount = some after →
    journal after = Function.update (journal ledger) account
      (.hold amount :: journal ledger account)
  slash_taken : ∀ {ledger account amount}, amount ≤ held ledger account →
    (slash ledger account amount).1 = amount
  slash_balance : ∀ {ledger account amount}, amount ≤ held ledger account →
    balance (slash ledger account amount).2 = balance ledger
  slash_held : ∀ {ledger account amount}, amount ≤ held ledger account →
    Credited (held (slash ledger account amount).2) (held ledger) account amount
  slash_journal : ∀ {ledger account amount}, amount ≤ held ledger account →
    journal (slash ledger account amount).2 = Function.update (journal ledger) account
      (.slash amount :: journal ledger account)
  resolve_succeeds : ∀ ledger account amount, (resolve ledger account amount).isSome
  resolve_balance : ∀ {ledger after account amount}, resolve ledger account amount = some after →
    Credited (balance ledger) (balance after) account amount
  resolve_held : ∀ {ledger after account amount}, resolve ledger account amount = some after →
    held after = held ledger
  resolve_journal : ∀ {ledger after account amount}, resolve ledger account amount = some after →
    journal after = journal ledger
  release_succeeds : ∀ {ledger account amount}, amount ≤ held ledger account →
    (release ledger account amount).isSome
  release_balance : ∀ {ledger after account amount}, release ledger account amount = some after →
    Credited (balance ledger) (balance after) account amount
  release_held : ∀ {ledger after account amount}, release ledger account amount = some after →
    Credited (held after) (held ledger) account amount
  release_journal : ∀ {ledger after account amount}, release ledger account amount = some after →
    journal after = Function.update (journal ledger) account
      (.release amount :: journal ledger account)

/-- A currency in which amounts of an account can be frozen: they stay in the
balance but cannot be spent. -/
structure FreezeCurrency (Account : Type) [DecidableEq Account] where
  Ledger : Type
  balance : Ledger → Account → ℕ
  frozen : Ledger → Account → ℕ
  transfer : Ledger → Account → Account → ℕ → Option Ledger
  /-- Freeze an amount in place of what was frozen. -/
  setFreeze : Ledger → Account → ℕ → Ledger
  /-- Freeze nothing any more. -/
  thaw : Ledger → Account → Ledger
  transfer_frozen : ∀ {ledger after source target amount},
    transfer ledger source target amount = some after → frozen after = frozen ledger
  setFreeze_frozen : ∀ {ledger account amount},
    frozen (setFreeze ledger account amount) = Function.update (frozen ledger) account amount
  thaw_frozen : ∀ {ledger account},
    frozen (thaw ledger account) = Function.update (frozen ledger) account 0

/-- The journal of an account, the latest operation first, is a sequence of
deposits that were each ended once, by a release of the whole amount or by a
slash and a release of the rest, but for the deposit that is still there. -/
inductive Lives : List HoldOperation → Option ℕ → Prop
  | start : Lives [] none
  | made {journal : List HoldOperation} (deposit : ℕ) (hended : Lives journal none) :
      Lives (.hold deposit :: journal) (some deposit)
  | released {journal : List HoldOperation} {deposit : ℕ} (hopen : Lives journal (some deposit)) :
      Lives (.release deposit :: journal) none
  | slashed {journal : List HoldOperation} {slash rest : ℕ}
      (hopen : Lives journal (some (slash + rest))) :
      Lives (.release rest :: .slash slash :: journal) none
