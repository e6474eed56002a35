import UniqueChain.ForeignAssets.Derivatives
import UniqueChain.Nesting.Indexed
import UniqueChain.Sponsorship.Predict

/-!
# The pallets inside the larger systems

Messages of other chains, fees and calls of contracts change the storage of the pallets
between the extrinsics.  Their steps are made of the operations of the pallets and of
withdrawals, so the ledgers stay consistent in every order of steps.  The debit of a fee is
not modelled.
-/

namespace UniqueChain

variable {T : Config} {s s' : State T} {balances : T.Balances}

/-! ## The storage of each pallet -/

/-- The ledgers of the three pallets are consistent. -/
structure Ledgers (s : State T) : Prop where
  nonfungible : Nonfungible.Ledger s.nonfungible
  fungible : Fungible.Ledger s.fungible
  refungible : Refungible.Ledger s.refungible

theorem Ledgers.ofStorage : OfStorage (T := T) Ledgers := by
  intro s s' hstorage hledgers
  rw [State.eq_of_storage_eq hstorage]
  exact ⟨hledgers.nonfungible, hledgers.fungible, hledgers.refungible⟩

theorem Ledgers.step {call : Call T} (hledgers : Ledgers s) (hstep : ChainStep s call s') :
    Ledgers s' where
  nonfungible := hstep.pallets.nonfungible.ledger hledgers.nonfungible
  fungible := hstep.pallets.fungible.ledger hledgers.fungible
  refungible := hstep.pallets.refungible.ledger hledgers.refungible

/-- Extrinsics and messages of other chains, in any order, keep the ledgers consistent. -/
theorem ledgers_of_messages {X : XcmConfig T} {x : XcmState X}
    {history : List (CallRecord (XcmState X) (XcmCall X))}
    (hrun : XcmReaches balances history x) : Ledgers x.chain :=
  hrun.chain_invariant Ledgers.ofStorage ⟨.empty, .empty, .empty⟩ fun _ _ _ => .step

open reference DerivativesExample in
theorem ledgers_of_messages_travel : Ledgers (xcmStateOf travel travel_succeeds).chain :=
  ledgers_of_messages (run_replay _ _ travel travel_succeeds)

variable {S : SponsorConfig T} {x x' : SponsoredState S}
  {history : List (CallRecord (SponsoredState S) (SponsoredCall S))}

/-- So do extrinsics, sponsored fees and blocks. -/
theorem ledgers_of_sponsored (hrun : SponsoredReaches balances history x) : Ledgers x.chain := by
  refine Run.invariant (P := fun x : SponsoredState S => Ledgers x.chain) (fun _ _ => True)
    ⟨.empty, .empty, .empty⟩ ?_ hrun fun _ _ => trivial
  intro x call x' hledgers _ hstep
  exact (sponsoredStep_ok hstep).chainMoves.keeps Ledgers.ofStorage
    (fun _ _ hledgers => ⟨hledgers.nonfungible, hledgers.fungible, hledgers.refungible⟩)
    (fun _ _ _ => .step) hledgers

theorem ledgers_of_sponsored_transfer : Ledgers PredictExample.state.chain :=
  ledgers_of_sponsored PredictExample.reaches_state

end UniqueChain
