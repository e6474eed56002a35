import Mathlib.Data.Nat.Pairing
import UniqueChain.Model.AppPromotion

/-!
# A currency for the app promotion

A currency that meets the laws of `FreezeCurrency`: a ledger is the balance and the
frozen amount of every account, and a transfer may not touch what is frozen.  The
pallet with this currency can be run.
-/

namespace UniqueChain.AppPromotion.Reference

/-- The balance of an account and the part of it that is frozen. -/
structure Purse where
  balance : ℕ
  frozen : ℕ

def transfer (ledger : ℕ → Purse) (source target amount : ℕ) : Option (ℕ → Purse) :=
  if amount + (ledger source).frozen ≤ (ledger source).balance then
    let taken := Function.update ledger source
      { ledger source with balance := (ledger source).balance - amount }
    some (Function.update taken target
      { taken target with balance := (taken target).balance + amount })
  else none

def setFreeze (ledger : ℕ → Purse) (account amount : ℕ) : ℕ → Purse :=
  Function.update ledger account { ledger account with frozen := amount }

/-- Writing a purse with the same frozen amount changes no frozen amount. -/
theorem frozen_update {ledger : ℕ → Purse} {account amount : ℕ} {purse : Purse}
    (hpurse : purse.frozen = amount) :
    (fun other => (Function.update ledger account purse other).frozen) =
      Function.update (fun other => (ledger other).frozen) account amount := by
  funext other
  by_cases hother : other = account
  · subst hother
    simp [hpurse]
  · simp [hother]

def currency : FreezeCurrency ℕ where
  Ledger := ℕ → Purse
  balance ledger account := (ledger account).balance
  frozen ledger account := (ledger account).frozen
  transfer := transfer
  setFreeze := setFreeze
  thaw ledger account := setFreeze ledger account 0
  transfer_frozen := by
    intro ledger after source target amount htransfer
    unfold transfer at htransfer
    split at htransfer
    · cases htransfer
      rw [frozen_update rfl, frozen_update rfl, Function.update_eq_self_iff.mpr,
        Function.update_eq_self_iff.mpr rfl]
      exact congrFun (frozen_update rfl) target
    · cases htransfer
  setFreeze_frozen := frozen_update rfl
  thaw_frozen := frozen_update rfl

/-- Accounts are numbers; account 0 is the treasury. -/
def config : Config where
  AccountId := ℕ
  currency := currency
  treasuryAccountId := (0 : ℕ)
  nominal := 1
  nominal_pos := Nat.one_pos
  hashedKeyFor key := Nat.pair key.1 key.2
  hashedKeyFor_injective := fun _ _ heq => Prod.ext_iff.mpr (Nat.pair_eq_pair.mp heq)

/-- The treasury owns a lot, everybody else a thousand. -/
def ledger (treasury : ℕ) : config.currency.Ledger := fun account =>
  (⟨if account = (0 : ℕ) then treasury else 1000, 0⟩ : Purse)

/-- A block with an interval of ten relay blocks and the given rate. -/
def blockAt (relayBlock blockNumber : ℕ) (percent : ℕ) : Environment where
  relayBlock := relayBlock
  blockNumber := blockNumber
  config := ⟨10, 5, .ofPercent percent, 100⟩
  isMaintenanceModeEnabled := false

/-- A call signed by an account. -/
def signed (env : Environment) (who : ℕ) (call : Call config) : Input config :=
  ⟨env, .call (.signed (who : config.AccountId)) call⟩

/-- The account that may start payouts. -/
def appoint (admin : ℕ) : Input config :=
  ⟨blockAt 0 0 0, .call .root (.setAdminAddress (admin : config.AccountId))⟩

end UniqueChain.AppPromotion.Reference
