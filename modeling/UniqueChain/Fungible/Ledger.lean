import UniqueChain.Library.Amounts
import UniqueChain.Model.Reference
import UniqueChain.Nesting.Errors
import UniqueChain.Runtime.Steps

/-!
# The ledger of fungible tokens

The supply of a fungible collection is the sum of the balances in it.  Every
way of writing to the storage keeps this, so it holds in every reachable state.
As the supply fits its type, so does what two accounts hold together, and a
transfer cannot overflow.
-/

namespace UniqueChain.Fungible

open Execution CollectionDispatch

variable {T : Config} {s s' : State T} {fungible : FungibleStorage T}

variable {handle : CollectionHandle T} {error : Failure} {amount : ℕ}

/-- The sum of all balances of a collection. -/
def sumOfBalances (fungible : FungibleStorage T) (collection : CollectionId) : ℕ :=
  fungible.balance.sumOf collection

/-- The supply is the sum of the balances, and it fits its type. -/
structure Ledger (fungible : FungibleStorage T) : Prop where
  supply : ∀ collection, fungible.totalSupply.getD collection 0 =
    sumOfBalances fungible collection
  width : ∀ collection, fungible.totalSupply.getD collection 0 ≤ u128Max

namespace Ledger

variable {collection : CollectionId} {from' to' : T.CrossAccountId} {amount : ℕ}

theorem empty : Ledger (FungibleStorage.empty : FungibleStorage T) where
  supply _ := by simp [FungibleStorage.empty, FiniteMap.getD, sumOfBalances]
  width _ := by simp [FungibleStorage.empty, FiniteMap.getD]

theorem setAllowance (hledger : Ledger fungible)
    {allowance : FiniteMap (CollectionId × T.CrossAccountId × T.CrossAccountId) ℕ} :
    Ledger { fungible with allowance } :=
  ⟨hledger.supply, hledger.width⟩

theorem transferred (hledger : Ledger s.fungible)
    (hcovered : amount ≤ balanceOf s collection from') :
    Ledger (transferredState collection from' to' amount s).fungible := by
  unfold transferredState
  split
  · rename_i hmoves
    refine ⟨fun other => ?_, hledger.width⟩
    have hbefore := hledger.supply other
    have hdebit := s.fungible.balance.sumOf_putAmount (collection, from')
      (balanceOf s collection from' - amount) other
    have hcredit := (s.fungible.balance.putAmount (collection, from')
      (balanceOf s collection from' - amount)).sumOf_insert (collection, to')
      (balanceOf s collection to' + amount) other
    simp only [writeBalances, sumOfBalances, State.setChildren, State.mapFungible] at hbefore ⊢
    unfold balanceOf at *
    grind
  · exact hledger

theorem burnt (hledger : Ledger s.fungible) (hcovered : amount ≤ balanceOf s collection from') :
    Ledger (burntState collection from' amount s).fungible := by
  refine ⟨fun other => ?_, fun other => ?_⟩
  · have hbefore := hledger.supply other
    have hdebit := s.fungible.balance.sumOf_putAmount (collection, from')
      (balanceOf s collection from' - amount) other
    simp only [burntState, sumOfBalances, State.setChildren, State.mapFungible] at hbefore ⊢
    unfold balanceOf at *
    grind
  · have hbefore := hledger.width
    simp only [burntState, State.setChildren, State.mapFungible]
    grind

theorem sumOf_mintedBalance (s : State T) (collection other : CollectionId)
    (data : AssocMap T.CrossAccountId ℕ) :
    (mintedBalance s collection data.entries s.fungible.balance).sumOf other =
      s.fungible.balance.sumOf other + if other = collection then data.values.sum else 0 := by
  have hnodup : (data.entries.map fun entry => (collection, entry.1)).Nodup := by
    have hkeys := data.nodup_keys.map (Prod.mk_right_injective collection)
    rwa [List.map_map] at hkeys
  have hsum : (mintedBalance s collection data.entries s.fungible.balance).sumOf other +
        (data.entries.map fun entry =>
          if collection = other then balanceOf s collection entry.1 else 0).sum =
      s.fungible.balance.sumOf other + (data.entries.map fun entry =>
        if collection = other then balanceOf s collection entry.1 + entry.2 else 0).sum :=
    s.fungible.balance.sumOf_insertEach _ hnodup other
  by_cases hother : collection = other
  · simp only [if_pos hother, List.sum_map_add] at hsum
    rw [if_pos hother.symm, AssocMap.values]
    omega
  · rw [if_neg (Ne.symm hother)]
    simpa [if_neg hother] using hsum

theorem minted (hledger : Ledger s.fungible) {data : AssocMap T.CrossAccountId ℕ}
    (hwidth : s.fungible.totalSupply.getD collection 0 ≤ u128Max →
      s.fungible.totalSupply.getD collection 0 + data.values.sum ≤ u128Max) :
    Ledger (mintedState collection data s).fungible := by
  refine ⟨fun other => ?_, fun other => ?_⟩
  · have hbefore := hledger.supply other
    have hafter := sumOf_mintedBalance s collection other data
    simp only [mintedState, sumOfBalances, State.setChildren, State.mapFungible] at hbefore ⊢
    grind
  · have hbefore := hledger.width
    simp only [mintedState, State.setChildren, State.mapFungible]
    grind

theorem cleared (hledger : Ledger fungible) : Ledger (clearCollection collection fungible) := by
  refine ⟨fun other => ?_, fun other => ?_⟩
  · have hbefore := hledger.supply other
    have hafter := fungible.balance.sumOf_eraseWhere (· = collection) other
    simp only [clearCollection, sumOfBalances] at hbefore ⊢
    grind
  · have hbefore := hledger.width other
    simp only [clearCollection]
    grind

end Ledger

/-! ## Steps and runs -/

section

variable (hledger : Ledger s.fungible)

include hledger

theorem Step.ledger {call : FungibleCall T} (hstep : Step handle s call s') :
    Ledger s'.fungible := by
  cases hstep with
  | createMultipleItems hchecks => exact hledger.minted hchecks.width
  | transfer hchecks => exact hledger.transferred hchecks.covered
  | transferFrom hallowed haccess hchecks =>
      exact (hledger.transferred hchecks.covered).setAllowance
  | burn hchecks => exact hledger.burnt hchecks.covered
  | burnFrom hallowed haccess hchecks => exact (hledger.burnt hchecks.covered).setAllowance
  | setAllowance haccess => exact hledger.setAllowance
  | setAllowanceFrom haccess hmirror => exact hledger.setAllowance

theorem StorageStep.ledger {call : Call T}
    (hstep : StorageStep s call fungible) : Ledger fungible := by
  cases hstep with
  | operation hcall hfound hstep => exact hstep.ledger hledger
  | cleared hempty => exact hledger.cleared
  | unchanged => exact hledger

omit hledger in
theorem ledger_of_reachable (hreachable : Reachable s) : Ledger s.fungible :=
  hreachable.invariant (OfStorage.fungible Ledger) (fun _ => .empty)
    fun _ _ _ hledger hstep => hstep.pallets.fungible.ledger hledger

/-! ## No overflow -/

/-- What an account holds is covered by the supply. -/
theorem Ledger.balance_le (collection : CollectionId) (account : T.CrossAccountId) :
    balanceOf s collection account ≤ s.fungible.totalSupply.getD collection 0 := by
  rw [hledger.supply]
  exact s.fungible.balance.getD_le_sumOf collection account

/-- What two accounts hold together fits the type of a balance. -/
theorem Ledger.two_balances_le (collection : CollectionId)
    {first second : T.CrossAccountId} (hne : first ≠ second) :
    balanceOf s collection first + balanceOf s collection second ≤ u128Max :=
  calc balanceOf s collection first + balanceOf s collection second
      ≤ s.fungible.balance.sumOf collection :=
        s.fungible.balance.getD_add_getD_le_sumOf collection hne
    _ = s.fungible.totalSupply.getD collection 0 := (hledger.supply collection).symm
    _ ≤ u128Max := hledger.width collection

omit hledger in
theorem failsWithin_debit {collection : CollectionId} {account : T.CrossAccountId} {balance : ℕ} :
    FailsWithin NotOverflow (debit collection account balance) :=
  .bind .update fun _ => .ite .ignoreError .pure

/-- The receiver can hold what the sender has in addition to its own. -/
theorem transferInternal_notOverflow {depositor from' to' : T.CrossAccountId}
    (hrun : (transferInternal handle depositor from' to' amount).run s = .error error s') :
    NotOverflow error := by
  rcases ensure_bind_error.mp hrun with ⟨_, rfl, _⟩ | ⟨_, hrun⟩
  · exact notOverflow_common _
  rcases bind_error.mp hrun with herror | ⟨_, _, haccess, hrun⟩
  · exact (checks_failWithin notOverflow_dispatch).checkAccess _ _ _ herror
  obtain ⟨_, rfl⟩ := CollectionHandle.checkAccess_ok.mp haccess
  rcases ensure_bind_error.mp hrun with ⟨_, rfl, _⟩ | ⟨_, hrun⟩
  · exact notOverflow_common _
  rcases okOr_bind_error.mp (read_bind_error.mp hrun) with ⟨_, rfl, _⟩ | ⟨_, hdebit, hrun⟩
  · exact notOverflow_common _
  have hcovered := (checkedSub_eq_some.mp hdebit).1
  split at hrun
  · rename_i hmoves
    rcases okOr_bind_error.mp hrun with ⟨hnone, _, _⟩ | ⟨balanceTo, _, hrun⟩
    · have hsum := hledger.two_balances_le handle.id hmoves.1
      have hover := checkedAdd_eq_none.mp hnone
      unfold balanceOf at hsum
      omega
    · have hmove : FailsWithin NotOverflow (moveBalance handle depositor from' to'
          (s.fungible.balance.getD (handle.id, from') 0 - amount) balanceTo) :=
        .bind (failsWithin_nestIfSentToToken notOverflow_dispatch) fun _ =>
          .bind failsWithin_debit fun _ => .update
      obtain ⟨_, rfl⟩ := checkedSub_eq_some.mp hdebit
      exact hmove.bind (fun _ => .update) _ _ _ hrun
  · exact absurd hrun update_error

theorem transferFrom_notOverflow {spender from' to' : T.CrossAccountId}
    (hrun : (transferFrom handle spender from' to' amount).run s = .error error s') :
    NotOverflow error := by
  rcases bind_error.mp hrun with herror | ⟨left, s₁, hcheck, hrun⟩
  · exact checkAllowed_holds (checks_failWithin notOverflow_dispatch) _ _ _ herror
  obtain ⟨⟨budget, _, rfl⟩, _⟩ := checkAllowed_ok hcheck
  rcases bind_error.mp hrun with herror | ⟨_, _, _, hrun⟩
  · exact transferInternal_notOverflow (s := s.setBudget budget) hledger herror
  · exact absurd hrun update_error

/-- A burn that the balance covers passes both subtractions. -/
theorem burn_ne_tokenValueTooLow
    {owner : T.CrossAccountId} (hcovered : amount ≤ balanceOf s handle.id owner)
    (hrun : (burn handle owner amount).run s = .error error s') :
    error ≠ CommonError.tokenValueTooLow := by
  have hsupplied := Nat.le_trans hcovered (hledger.balance_le handle.id owner)
  rcases okOr_bind_error.mp (read_bind_error.mp hrun) with ⟨hnone, _, _⟩ | ⟨supply, _, hrun⟩
  · have hlow := checkedSub_eq_none.mp hnone
    omega
  rcases okOr_bind_error.mp hrun with ⟨hnone, _, _⟩ | ⟨balance, _, hrun⟩
  · have hlow := checkedSub_eq_none.mp hnone
    unfold balanceOf at hcovered
    omega
  have haccess : FailsWithin (· ≠ (CommonError.tokenValueTooLow : Failure))
      (handle.checkAccess [owner]) :=
    .ite (.forEach (fun _ => .bind .read fun _ => .ensure (by simp)) _) .pure
  have hdebit : FailsWithin (· ≠ (CommonError.tokenValueTooLow : Failure))
      (debit handle.id owner balance) := .bind .update fun _ => .ite .ignoreError .pure
  exact haccess.bind (fun _ => hdebit.bind fun _ => .update) _ _ _ hrun

end

/-- In every reachable state the supply of a fungible collection is the sum of
its balances; so a transfer never overflows, and a burn that the balance of the
owner covers never fails for want of supply. -/
theorem supply_conserved (hreachable : Reachable s) (handle : CollectionHandle T) (budget : ℕ) :
    s.fungible.totalSupply.getD handle.id 0 = sumOfBalances s.fungible handle.id ∧
      (∀ from' to' amount s', (transfer handle from' to' amount).run (s.setBudget budget) ≠
        .error DispatchError.overflow s') ∧
      (∀ spender from' to' amount s',
        (transferFrom handle spender from' to' amount).run (s.setBudget budget) ≠
          .error DispatchError.overflow s') ∧
      ∀ owner amount, amount ≤ balanceOf s handle.id owner →
        amount ≤ s.fungible.totalSupply.getD handle.id 0 ∧
          ∀ s', (burn handle owner amount).run (s.setBudget budget) ≠
            .error CommonError.tokenValueTooLow s' := by
  have hledger := ledger_of_reachable hreachable
  refine ⟨hledger.supply handle.id, ?_, ?_, fun owner amount hcovered => ⟨?_, ?_⟩⟩
  · intro from' to' amount s' hrun
    exact transferInternal_notOverflow (s := s.setBudget budget) hledger hrun rfl
  · intro spender from' to' amount s' hrun
    exact transferFrom_notOverflow (s := s.setBudget budget) hledger hrun rfl
  · exact Nat.le_trans hcovered (hledger.balance_le handle.id owner)
  · intro s' hrun
    exact burn_ne_tokenValueTooLow (s := s.setBudget budget) hledger hcovered hrun rfl

/-- A mint to two accounts and a transfer between them. -/
def exampleRun : List (Extrinsic reference) :=
  [reference.create (.fungible 2),
    ⟨.fungible 1 (.createMultipleItems .alice ⟨[(.alice, 7), (.bob, 5)], by decide⟩), 5⟩,
    ⟨.fungible 1 (.transfer .alice .bob 3), 5⟩]

theorem supply_conserved_exampleRun :
    (reference.stateOf exampleRun rfl).fungible.totalSupply.getD 1 0 = 12 ∧
      sumOfBalances (reference.stateOf exampleRun rfl).fungible 1 = 12 ∧
      ∀ s', (transfer (reference.handleOf (reference.stateOf exampleRun rfl) 1 rfl)
        ReferenceAccount.bob ReferenceAccount.alice 8).run
          ((reference.stateOf exampleRun rfl).setBudget 5) ≠ .error DispatchError.overflow s' := by
  have hledger := supply_conserved (reference.reachable_stateOf exampleRun rfl)
    (reference.handleOf (reference.stateOf exampleRun rfl) 1 rfl) 5
  exact ⟨rfl, hledger.1.symm, hledger.2.1 _ _ _⟩

end UniqueChain.Fungible
