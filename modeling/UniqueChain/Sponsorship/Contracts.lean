import UniqueChain.Sponsorship.Reference

/-!
# The limits of the sponsors of contracts

The sponsor of a contract pays for a call of a user if the fee is within the limit, the
user is allowed, and the rate limit has passed since the last call that was sponsored.
The basket with the block of that call is written by the decision only, so every two
decisions are apart by the rate limit, as long as the sum of the block and the limit
fits in 32 bits.  A larger sum wraps to an early block, and the next call is sponsored
at once: the largest rate limit an owner can set is no limit at all.
-/

namespace UniqueChain

open Execution RateLimit

variable {T : Config} {S : SponsorConfig T} {x x' y : SponsoredState S}
  {decisions : List (ContractDecision T)} {call : SponsoredCall S}

/-- The blocks in which the sponsor of the contract paid for the user, the latest
first. -/
def decisionBlocks (contract user : H160) (decisions : List (ContractDecision T)) : List ℕ :=
  (decisions.filter fun decision => decision.contract = contract ∧ decision.user = user).map
    (·.blockNumber)

theorem decisionBlocks_cons_self {contract user : H160} {maxFee blockNumber : ℕ}
    {sponsor : T.CrossAccountId} :
    decisionBlocks contract user (⟨contract, user, maxFee, sponsor, blockNumber⟩ :: decisions) =
      blockNumber :: decisionBlocks contract user decisions := by
  simp [decisionBlocks]

theorem decisionBlocks_cons_of_ne {contract user : H160} {decision : ContractDecision T}
    (hother : ¬ (decision.contract = contract ∧ decision.user = user)) :
    decisionBlocks contract user (decision :: decisions) =
      decisionBlocks contract user decisions := by
  simp only [decisionBlocks, List.filter_cons, decide_eq_true_eq, if_neg hother]

/-! ## What writes to the basket -/

namespace ContractHelpers

theorem asOwner_preserves {ν : Type} {view : ContractHelpersStorage T → ν} {caller contract : H160}
    {body : HelpersExec T Unit} (hbody : Preserves view body) :
    Preserves view (asOwner caller contract body) :=
  .bind (.bind .read fun _ => .ensure) fun _ => hbody

/-- No call of the pallet writes to the basket. -/
theorem Call.execute_preserves_sponsorBasket (call : Call) :
    Preserves (·.sponsorBasket) (call.execute : HelpersExec T Unit) := by
  cases call with
  | confirmSponsorship caller contract =>
    refine .bind .read fun s => ?_
    split
    · exact .bind .ensure fun _ => .update fun _ => rfl
    · exact .fail
    · exact .fail
  | setSponsoringFeeLimit caller contract feeLimit =>
    exact asOwner_preserves (.bind .read fun _ => .bind .ensure fun _ => .update fun _ => rfl)
  | onCreate owner contract => exact .update fun _ => rfl
  | migrateFromSelfSponsoring addresses =>
    refine .forEach (fun address => .update fun s => ?_) addresses
    split
    · rfl
    · rfl
  | _ => exact asOwner_preserves (.update fun _ => rfl)

end ContractHelpers

/-- The fee of a call of the EVM is charged. -/
def SponsoredCall.chargesEvm : SponsoredCall S → Bool
  | .chargeEvm _ => true
  | _ => false

/-- What a step can do to the basket, the decisions and the clock. -/
inductive ContractsStep (x : SponsoredState S) (call : SponsoredCall S) :
    SponsoredState S → Prop
  | kept {x' : SponsoredState S} (hbasket : x'.helpers.sponsorBasket = x.helpers.sponsorBasket)
      (hdecisions : x'.contractDecisions = x.contractDecisions)
      (hclock : x.blockNumber ≤ x'.blockNumber)
      (hwidth : x.blockNumber < 2 ^ 32 → x'.blockNumber < 2 ^ 32) : ContractsStep x call x'
  | named {contract user : H160} {maxFee : ℕ} {sponsor : T.CrossAccountId} {x' : SponsoredState S}
      (hcall : call.chargesEvm = true)
      (hmay : MaySponsor S.defaultSponsoringRateLimit x.blockNumber x.helpers contract user maxFee
        sponsor)
      (hhelpers : x'.helpers = recordBlock contract user x.blockNumber x.helpers)
      (hdecisions : x'.contractDecisions =
        ⟨contract, user, maxFee, sponsor, x.blockNumber⟩ :: x.contractDecisions)
      (hclock : x'.blockNumber = x.blockNumber) : ContractsStep x call x'

theorem WithdrawnBy.contracts {handle : CollectionHandle T} (hwithdrawn : WithdrawnBy handle x x') :
    x'.helpers = x.helpers ∧ x'.contractDecisions = x.contractDecisions ∧
      x'.blockNumber = x.blockNumber := by
  induction hwithdrawn with
  | none => exact ⟨rfl, rfl, rfl⟩
  | granted hbefore hrun ih => exact ih

/-- Withdrawals from the sponsors of collections do not touch contracts. -/
theorem Charged.contracts (hcharged : Charged x x') :
    x'.helpers = x.helpers ∧ x'.contractDecisions = x.contractDecisions ∧
      x'.blockNumber = x.blockNumber := by
  cases hcharged with
  | none => exact ⟨rfl, rfl, rfl⟩
  | collection hstored hwithdrawn => exact hwithdrawn.contracts

theorem SponsoredStep.contractsStep (hstep : SponsoredStep x call x') :
    ContractsStep x call x' := by
  cases hstep with
  | nextBlock hwidth => exact .kept rfl rfl (Nat.le_succ _) fun _ => hwidth
  | charge hcharged =>
    obtain ⟨hhelpers, hdecisions, hclock⟩ := hcharged.contracts
    exact .kept (by rw [hhelpers]) hdecisions hclock.ge (hclock ▸ id)
  | chargeEvm hcharged =>
    obtain ⟨y, hcharged, hdecided⟩ := hcharged
    obtain ⟨hhelpers, hdecisions, hclock⟩ := hcharged.contracts
    cases hdecided with
    | none => exact .kept (by rw [hhelpers]) hdecisions hclock.ge (hclock ▸ id)
    | named hmay =>
      refine .named rfl (hclock ▸ hhelpers ▸ hmay) ?_ ?_ hclock
      · rw [decidedContract, hhelpers, hclock]
      · rw [decidedContract, hdecisions, hclock]
  | helpers hrun =>
    exact .kept ((ContractHelpers.Call.execute_preserves_sponsorBasket _).of_ok hrun) rfl
      (Nat.le_refl _) id
  | sponsorContract hadmin hrun =>
    cases update_ok.mp hrun
    exact .kept rfl rfl (Nat.le_refl _) id
  | stopSponsoringContract hadmin hrun =>
    cases update_ok.mp hrun
    exact .kept rfl rfl (Nat.le_refl _) id
  | _ => exact .kept rfl rfl (Nat.le_refl _) id

/-! ## The invariant -/

/-- The basket protects the decisions for a contract and a user. -/
structure ContractGuarded (contract user : H160) (rate : ℕ) (x : SponsoredState S) : Prop where
  clock : x.blockNumber < 2 ^ 32
  guarded : Guarded (2 ^ 32) rate x.blockNumber (x.helpers.sponsorBasket.get (contract, user)) False
    (decisionBlocks contract user x.contractDecisions)

theorem ContractsStep.contractGuarded {contract user : H160} {rate : ℕ}
    (hstep : ContractsStep x call x') (hguarded : ContractGuarded contract user rate x)
    (hrate : call.chargesEvm = true →
      HelpersContractSponsoring.rateLimit S.defaultSponsoringRateLimit x.helpers contract = rate) :
    ContractGuarded contract user rate x' := by
  cases hstep with
  | kept hbasket hdecisions hclock hwidth =>
    refine ⟨hwidth hguarded.clock, ?_⟩
    rw [hbasket, hdecisions]
    exact hguarded.guarded.advance hclock
  | @named other someone maxFee sponsor _ hcall hmay hhelpers hdecisions hclock =>
    refine ⟨hclock ▸ hguarded.clock, ?_⟩
    rw [hhelpers, hdecisions, hclock]
    by_cases hkey : other = contract ∧ someone = user
    · obtain ⟨rfl, rfl⟩ := hkey
      rw [decisionBlocks_cons_self, recordBlock, FiniteMap.get_insert_self]
      have hrated := hmay.rated
      rw [hrate hcall] at hrated
      exact hguarded.guarded.grant id hguarded.clock hrated
    · have hne : (contract, user) ≠ (other, someone) := by
        rintro ⟨⟩
        exact hkey ⟨rfl, rfl⟩
      rw [decisionBlocks_cons_of_ne hkey, recordBlock, FiniteMap.get_insert_of_ne _ _ hne]
      exact hguarded.guarded

theorem contractGuarded_of_reaches {balances : T.Balances}
    {history : List (CallRecord (SponsoredState S) (SponsoredCall S))}
    (hrun : SponsoredReaches balances history x) {contract user : H160} {rate : ℕ}
    (hrate : ∀ event ∈ history, event.call.chargesEvm = true →
      HelpersContractSponsoring.rateLimit S.defaultSponsoringRateLimit event.state.helpers
      contract =
        rate) : ContractGuarded contract user rate x := by
  refine Run.invariant (P := ContractGuarded contract user rate)
    (fun x call => call.chargesEvm = true →
      HelpersContractSponsoring.rateLimit S.defaultSponsoringRateLimit x.helpers contract = rate)
    ?_ ?_ hrun hrate
  · exact ⟨Nat.two_pow_pos 32, Guarded.empty⟩
  · intro x call x' hguarded hrate hstep
    exact (sponsoredStep_ok hstep).contractsStep.contractGuarded hguarded hrate

/-- In every run in which a contract has the same rate limit and the same fee limit
whenever a fee is charged: two decisions of its sponsor to pay for the same user are the
rate limit apart if and only if the block of the first one and the limit fit in 32 bits;
each one is for a fee within the limit and, in the mode of that name, for a user who is
allowed at that time; and no decision panics. -/
theorem contract_sponsor_protected {balances : T.Balances}
    {history : List (CallRecord (SponsoredState S) (SponsoredCall S))}
    (hrun : SponsoredReaches balances history x) {contract : H160} {rate feeLimit : ℕ}
    (hrate : ∀ event ∈ history, event.call.chargesEvm = true →
      HelpersContractSponsoring.rateLimit S.defaultSponsoringRateLimit event.state.helpers
        contract = rate)
    (hfee : ∀ event ∈ history, event.call.chargesEvm = true →
      ContractHelpers.getSponsoringFeeLimit event.state.helpers contract = feeLimit) :
    (∀ user, (decisionBlocks contract user x.contractDecisions).Pairwise fun later earlier =>
      earlier + rate ≤ later ↔ earlier + rate < 2 ^ 32) ∧
    (∀ event ∈ history, ∀ after decision, sponsoredStep event.state event.call = some after →
      after.contractDecisions = decision :: event.state.contractDecisions →
      decision.contract = contract →
        decision.maxFee ≤ feeLimit ∧
        (ContractHelpers.sponsoringMode event.state.helpers contract = .allowlisted →
          ContractHelpers.allowed event.state.helpers contract decision.user = true)) ∧
    ∀ (blockNumber : ℕ) (who : T.CrossAccountId) (callContext : CallContext S.Input)
      (helpers helpers' : ContractHelpersStorage T),
      (HelpersContractSponsoring.getSponsor S.defaultSponsoringRateLimit blockNumber who
        callContext).run helpers ≠ .error .panicked helpers' := by
  refine ⟨fun user => (contractGuarded_of_reaches hrun hrate).guarded.apart, ?_, ?_⟩
  · intro event hevent after decision hstep hnew hcontract
    cases (sponsoredStep_ok hstep).contractsStep with
    | kept hbasket hdecisions hclock hwidth =>
      exact absurd (hnew.symm.trans hdecisions) (List.cons_ne_self _ _)
    | named hcall hmay hhelpers hdecisions hclock =>
      cases hnew.symm.trans hdecisions
      subst hcontract
      exact ⟨hfee event hevent hcall ▸ hmay.affordable, hmay.allowed⟩
  · intro blockNumber who callContext helpers helpers' hpanic
    cases (HelpersContractSponsoring.getSponsor_error hpanic).1

namespace ContractsExample

open reference

/-- The deployer of a contract, and a user of it. -/
def deployer : H160 := 0xd1

def user : H160 := 0xa1

def contract : H160 := 0xc1

/-- The user calls the contract. -/
def use : SponsoredCall sponsors :=
  .chargeEvm ⟨user, some 1, 1, .call contract (.nft .other), true, false⟩

/-- The contract sponsors all its users, with the given rate limit. -/
def selfSponsored (rate : BitVec 32) : List (SponsoredCall sponsors) :=
  [.helpers (.onCreate deployer contract),
    .helpers (.setSponsoringMode deployer contract .generous),
    .helpers (.selfSponsoredEnable deployer contract),
    .helpers (.setSponsoringRateLimit deployer contract rate), .nextBlock]

/-- The user calls in every block, and every second time the contract pays. -/
def everySecond : List (SponsoredCall sponsors) :=
  selfSponsored 2 ++ [use, .nextBlock, use, .nextBlock, use]

theorem everySecond_succeeds : (sponsoredHistory? everySecond).isSome := by decide +kernel

theorem contract_sponsor_protected_everySecond :
    decisionBlocks contract user
        (sponsoredStateOf everySecond everySecond_succeeds).contractDecisions = [3, 1] ∧
      ([3, 1] : List ℕ).Pairwise fun later earlier => earlier + 2 ≤ later ↔
      earlier + 2 < 2 ^ 32 := by
  have hblocks : decisionBlocks contract user
      (sponsoredStateOf everySecond everySecond_succeeds).contractDecisions = [3, 1] := by
    decide +kernel
  have hrate : ∀ event ∈ sponsoredHistoryOf everySecond everySecond_succeeds,
      event.call.chargesEvm = true → HelpersContractSponsoring.rateLimit
        sponsors.defaultSponsoringRateLimit event.state.helpers contract = 2 := by decide +kernel
  have hfee : ∀ event ∈ sponsoredHistoryOf everySecond everySecond_succeeds,
      event.call.chargesEvm = true →
        ContractHelpers.getSponsoringFeeLimit event.state.helpers contract = u256Max := by
    decide +kernel
  exact ⟨hblocks, hblocks ▸ (contract_sponsor_protected
    (run_replay _ _ everySecond everySecond_succeeds) hrate hfee).1 user⟩

/-- The largest rate limit: the contract pays twice in one block. -/
def unlimited : List (SponsoredCall sponsors) := selfSponsored 0xffffffff ++ [use, use]

theorem contract_sponsor_unprotected :
    ∃ hcalls : (sponsoredHistory? unlimited).isSome,
      let x := sponsoredStateOf unlimited hcalls
      SponsoredReaches noBalances (sponsoredHistoryOf unlimited hcalls) x ∧
        HelpersContractSponsoring.rateLimit sponsors.defaultSponsoringRateLimit x.helpers contract =
          2 ^ 32 - 1 ∧
        decisionBlocks contract user x.contractDecisions = [1, 1] :=
  ⟨by decide +kernel, run_replay _ _ _ _, by decide +kernel⟩

end ContractsExample

end UniqueChain
