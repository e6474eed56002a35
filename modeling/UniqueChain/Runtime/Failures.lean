import UniqueChain.Minting.Panics
import UniqueChain.Refungible.Ledger

/-!
# A failing operation writes nothing

The token operations check first and write afterwards.  They do so on their own,
without a storage transaction around them: whatever error such an operation ends
with, storage is as it was before.

## Strategy

A check leaves storage alone, and the writes at the end cannot fail, so most
operations are a sequence of the former and then the latter.  Three of them need
more.  A transfer nests its item as its first write, and that part checks before
it writes.  A mint of fungible tokens unwraps lookups between its writes, which
the check before them has made (`Nestable`).  The burn of the last pieces of a
refungible token counts the token after it has written; that the counter does not
overflow there is a fact about reachable states, because every burnt token was
minted and the number of minted tokens fits into 32 bits.
-/

namespace UniqueChain

open Execution CollectionDispatch

variable {T : Config} {s s' : State T} {handle : CollectionHandle T}

variable {owner : T.CrossAccountId} {spender from' : T.CrossAccountId} {token : TokenId}
  {amount : ℕ} {sender : T.CrossAccountId}

/-- Nesting checks before it writes. -/
theorem preservesOnError_nestIfSentToToken {sender account : T.CrossAccountId} {child : Token} :
    PreservesOnError State.storage (nestIfSentToToken sender account child) := by
  refine .bind .ensure fun _ => ?_
  split
  · exact .of_preserves .pure
  · refine .bind .read fun _ => ?_
    refine .bind .okOr fun kind => ?_
    refine .bind checks_preserve.dispatch_checkNesting fun _ => ?_
    exact .of_neverFails .update

/-! ## Non-fungible tokens -/

namespace Nonfungible

theorem preservesOnError_burn : PreservesOnError State.storage (burn handle sender token) := by
  refine .bind .read fun s => ?_
  refine .bind .okOr fun tokenData => ?_
  refine .bind .ensure fun _ => ?_
  refine .bind checks_preserve.checkAccess fun _ => ?_
  refine .bind .ensure fun _ => ?_
  refine .bind .okOr fun burnt => ?_
  refine .bind .okOr fun balance => .of_neverFails ?_
  -- from here on the token is unnested and written
  refine .bind .update fun _ => ?_
  exact .bind .ignoreError fun _ => .update

theorem preservesOnError_transferInternal {depositor from' to' : T.CrossAccountId} :
    PreservesOnError State.storage (transferInternal handle depositor from' to' token) := by
  have hbalance : ∀ s, Preserves State.storage (balanceAfterReceiving handle from' to' s) := by
    refine fun s => .ite .pure ?_
    refine .bind .okOr fun balance => ?_
    exact .bind .ensure fun _ => .pure
  refine .bind .ensure fun _ => ?_
  refine .bind .read fun s => ?_
  refine .bind .okOr fun tokenData => ?_
  refine .bind .ensure fun _ => ?_
  refine .bind checks_preserve.checkAccess fun _ => ?_
  refine .bind .ensure fun _ => ?_
  refine .bind .okOr fun balanceFrom => ?_
  refine .bind (hbalance s) fun balanceTo => ?_
  -- nesting is the last check and the first write
  refine .bind_of_total preservesOnError_nestIfSentToToken fun _ => ?_
  exact .bind .ignoreError fun _ => .update

theorem preservesOnError_execute (call : NonfungibleCall T) :
    PreservesOnError State.storage (call.execute handle) := by
  cases call with
  | createMultipleItems sender data =>
    show PreservesOnError State.storage (createMultipleItems handle sender data)
    rw [createMultipleItems_eq]
    exact MintForm.preservesOnError_create
  | transfer from' to' token => exact preservesOnError_transferInternal
  | transferFrom spender from' to' token =>
    exact .bind (checkAllowed_holds checks_preserve) fun _ => preservesOnError_transferInternal
  | burn sender token => exact preservesOnError_burn
  | burnFrom spender from' token => exact .bind (checkAllowed_holds checks_preserve) fun _ =>
      preservesOnError_burn
  | setAllowance sender token spender =>
    refine .bind checks_preserve.checkAccess fun _ => ?_
    refine .bind checks_preserve.ensureCorrectReceivers fun _ => ?_
    refine .bind .read fun s => .bind .okOr fun tokenData => ?_
    exact .bind .ensure fun _ => .of_neverFails .update
  | setAllowanceFrom sender from' token to' =>
    refine .bind checks_preserve.checkAccess fun _ => ?_
    refine .bind checks_preserve.ensureCorrectReceivers fun _ => ?_
    refine .bind .ensure fun _ => ?_
    refine .bind .read fun s => .bind .okOr fun tokenData => ?_
    exact .bind .ensure fun _ => .of_neverFails .update
  | setAllowanceForAll owner operator approve =>
    refine .bind checks_preserve.checkAccess fun _ => ?_
    exact .bind .ensure fun _ => .of_neverFails .update
  | modifyTokenProperties sender token updates => exact preservesOnError_withTransaction

end Nonfungible

/-! ## Fungible tokens -/

namespace Fungible

theorem neverFails_debit {collection : CollectionId} {account : T.CrossAccountId} {balance : ℕ} :
    NeverFails (debit collection account balance) :=
  .bind .update fun _ => .ite .ignoreError .pure

theorem preservesOnError_burn : PreservesOnError State.storage (burn handle owner amount) := by
  refine .bind .read fun s => ?_
  refine .bind .okOr fun totalSupply => ?_
  refine .bind .okOr fun balance => ?_
  refine .bind checks_preserve.checkAccess fun _ => ?_
  exact .of_neverFails (neverFails_debit.bind fun _ => .update)

theorem preservesOnError_transferInternal {depositor from' to' : T.CrossAccountId} :
    PreservesOnError State.storage (transferInternal handle depositor from' to' amount) := by
  refine .bind .ensure fun _ => ?_
  refine .bind checks_preserve.checkAccess fun _ => ?_
  refine .bind .ensure fun _ => ?_
  refine .bind .read fun s => .bind .okOr fun balanceFrom => ?_
  refine .ite (.bind .okOr fun balanceTo => ?_) (.of_neverFails .update)
  refine .bind_of_total ?_ fun _ => .update
  refine .bind_of_total preservesOnError_nestIfSentToToken fun _ => ?_
  exact neverFails_debit.bind fun _ => .update

/-- The lookups that are unwrapped between the writes have been made before. -/
theorem preservesOnError_createMultipleItems {data : AssocMap T.CrossAccountId ℕ} :
    PreservesOnError State.storage (createMultipleItems handle sender data) := by
  refine .bind checks_preserve.checkMintAuthority fun _ => ?_
  refine .bind .read fun s => .bind .okOr fun totalSupply start => ?_
  refine UnchangedOnError.bind (.forEach (fun _ => checks_preserve.checkNesting) _)
    fun _ checked hchecked => ?_
  have hcommon : checked.common = start.common :=
    (Preserves.forEach (fun _ => checks_preserve.checkNesting) _).of_ok hchecked
  have hnestable := nestable_of_forEach_checkNesting_ok rfl hchecked
  refine UnchangedOnError.bind .okOr fun items _ hitems => ?_
  obtain ⟨hupdated, rfl⟩ := okOr_ok.mp hitems
  refine Keeps.unchangedOnError (I := fun s => s.common = start.common) ?_ hcommon
  refine compositional_keeps.bind (.update fun _ hs => hs) fun _ _ => ?_
  exact keeps_forEach_mintItem (nestable_of_updatedBalances hnestable hupdated)

theorem preservesOnError_execute (call : FungibleCall T) :
    PreservesOnError State.storage (call.execute handle) := by
  cases call with
  | createMultipleItems depositor data => exact preservesOnError_createMultipleItems
  | transfer from' to' amount => exact preservesOnError_transferInternal
  | transferFrom spender from' to' amount =>
    exact .bind (checkAllowed_holds checks_preserve) fun _ =>
      .bind_of_total preservesOnError_transferInternal fun _ => .update
  | burn owner amount => exact preservesOnError_burn
  | burnFrom spender from' amount =>
    exact .bind (checkAllowed_holds checks_preserve) fun _ =>
      .bind_of_total preservesOnError_burn fun _ => .update
  | setAllowance owner spender amount =>
    refine .bind checks_preserve.checkAccess fun _ => .bind .read fun s => ?_
    exact .bind .ensure fun _ => .of_neverFails .update
  | setAllowanceFrom sender from' to' amount =>
    refine .bind checks_preserve.checkAccess fun _ => ?_
    refine .bind .ensure fun _ => .bind .read fun s => ?_
    exact .bind .ensure fun _ => .of_neverFails .update

end Fungible

/-! ## Refungible tokens -/

namespace Refungible

theorem neverFails_removeHolder
    {accountBalance : ℕ} : NeverFails (removeHolder handle owner token accountBalance) := by
  refine .bind .update fun _ => .bind .ignoreError fun _ => ?_
  exact .bind .update fun _ => .bind .update fun _ => .update

theorem preservesOnError_burnSomePieces {amount totalSupply : ℕ} :
    PreservesOnError State.storage (burnSomePieces handle owner token amount totalSupply) := by
  refine .bind .read fun s => .bind .okOr fun balance => ?_
  refine .bind_of_total (.ite ?_ (.of_neverFails .update)) fun _ => .update
  refine .bind .read fun s => .bind .okOr fun accountBalance => ?_
  exact .of_neverFails neverFails_removeHolder

/-- The token is counted after the first writes, but the counter has room. -/
theorem burnLastPieces_unchanged (hroom : s.refungible.tokensBurnt.getD handle.id 0 < u32Max) :
    UnchangedOnError State.storage (burnLastPieces handle owner token amount) s := by
  intro error s' hrun
  have hroom' : checkedAdd u32Max (s.refungible.tokensBurnt.getD handle.id 0) 1 ≠ none := by
    rw [Ne, checkedAdd_eq_none]
    omega
  simp only [burnLastPieces, burnTokenUnchecked, read_bind_error, ensure_bind_error,
    okOr_bind_error, update_bind_error, unnestIfNested_bind_error, bind_assoc] at hrun
  rcases hrun with ⟨_, _, rfl⟩ | ⟨_, ⟨_, _, rfl⟩ | ⟨_, _, ⟨hfull, _, _⟩ | ⟨_, _, hfalse⟩⟩⟩
  · rfl
  · rfl
  · exact absurd hfull hroom'
  · exact absurd hfalse update_error

theorem burn_unchanged (hledger : Ledger s.refungible) (hwidth : MintedWidth s.refungible) :
    UnchangedOnError State.storage (burn handle owner token amount) s := by
  refine .bind .read fun _ _ hread => ?_
  obtain ⟨rfl, rfl⟩ := read_ok.mp hread
  refine .bind .ensure fun _ _ hensure => ?_
  obtain ⟨hholds, rfl⟩ := ensure_ok.mp hensure
  refine .bind .okOr fun totalSupply _ hsupply => ?_
  obtain ⟨_, rfl⟩ := okOr_ok.mp hsupply
  split
  · obtain ⟨supply, hexists⟩ := hledger.exists_of_balance hholds
    exact burnLastPieces_unchanged (tokensBurnt_lt hledger hwidth hexists)
  · exact preservesOnError_burnSomePieces _

theorem preservesOnError_transferInternal {depositor from' to' : T.CrossAccountId} :
    PreservesOnError State.storage (transferInternal handle depositor from' to' token amount) := by
  have hfrom : ∀ s balance, Preserves State.storage
      (accountBalanceFromAfter s handle.id from' balance) :=
    fun s balance => .ite (.bind .okOr fun _ => .pure) .pure
  have hto : ∀ s create, Preserves State.storage (accountBalanceToAfter s handle to' create) :=
    fun s create => .ite (.bind .okOr fun _ => .bind .ensure fun _ => .pure) .pure
  have hdebit : ∀ balance, NeverFails (debit (handle.id, token) from' balance) :=
    fun balance => .bind .update fun _ => .ite .ignoreError .pure
  refine .bind .ensure fun _ => ?_
  refine .bind checks_preserve.checkAccess fun _ => ?_
  refine .bind .ensure fun _ => ?_
  refine .bind .read fun s => .bind .ensure fun _ => ?_
  refine .bind .okOr fun updatedBalanceFrom => ?_
  refine .ite ?_ (.bind (hfrom _ _) fun _ => .of_neverFails .update)
  refine .bind .okOr fun updatedBalanceTo => ?_
  refine .bind (hfrom _ _) fun accountBalanceFrom => ?_
  refine .bind (hto _ _) fun accountBalanceTo => .bind_of_total ?_ fun _ => .update
  refine .bind_of_total preservesOnError_nestIfSentToToken fun _ => ?_
  refine (hdebit _).bind fun _ => ?_
  exact .bind .update fun _ => .bind .update fun _ => .update

theorem execute_unchanged (hledger : Ledger s.refungible) (hwidth : MintedWidth s.refungible)
    (call : RefungibleCall T) : UnchangedOnError State.storage (call.execute handle) s := by
  cases call with
  | createMultipleItems sender data =>
    show UnchangedOnError State.storage (createMultipleItems handle sender data) s
    rw [createMultipleItems_eq]
    exact MintForm.preservesOnError_create s
  | transfer from' to' token amount => exact preservesOnError_transferInternal s
  | transferFrom spender from' to' token amount =>
    refine PreservesOnError.bind (checkAllowed_holds checks_preserve) (fun _ => ?_) s
    exact .bind_of_total preservesOnError_transferInternal fun _ => .update
  | burn owner token amount => exact burn_unchanged hledger hwidth
  | burnFrom spender from' token amount =>
    refine UnchangedOnError.bind (checkAllowed_holds checks_preserve)
      fun allowance s₁ hallowed => ?_
    have hsame :=
      (State.storage_eq_iff.mp ((checkAllowed_holds checks_preserve).of_ok hallowed)).2.2.2.1
    rw [← hsame] at hledger hwidth
    exact (burn_unchanged hledger hwidth).bind_of_total fun _ => .update
  | repartition owner token amount =>
    refine PreservesOnError.bind .ensure (fun _ => ?_) s
    refine .bind .ensure fun _ => .bind .read fun s => ?_
    exact .bind .ensure fun _ => .of_neverFails (.bind .update fun _ => .update)
  | setAllowance sender spender token amount =>
    refine PreservesOnError.bind checks_preserve.checkAccess (fun _ => ?_) s
    refine .bind .ensure fun _ => .bind .read fun s => ?_
    exact .bind .ensure fun _ => .of_neverFails .update
  | setAllowanceFrom sender from' to' token amount =>
    refine PreservesOnError.bind checks_preserve.checkAccess (fun _ => ?_) s
    refine .bind .ensure fun _ => .bind .ensure fun _ => .bind .read fun s => ?_
    exact .bind .ensure fun _ => .of_neverFails .update
  | setAllowanceForAll owner spender approve =>
    refine PreservesOnError.bind checks_preserve.checkAccess (fun _ => ?_) s
    exact .bind .ensure fun _ => .of_neverFails .update
  | modifyTokenProperties sender token updates =>
    exact preservesOnError_withTransaction s

end Refungible

/-! ## All operations -/

/-- In every reachable state an operation that returns an error has written
nothing, whatever its arguments and its budget. -/
theorem failed_operation_writes_nothing (hreachable : Reachable s) (handle : CollectionHandle T)
    (call : TokenCall T) (budget : ℕ) (error : Failure)
    (hrun : (call.execute handle).run (s.setBudget budget) = .error error s') :
    s'.storage = s.storage := by
  cases call with
  | nonfungible call =>
    exact Nonfungible.preservesOnError_execute call (s.setBudget budget) _ _ hrun
  | fungible call => exact Fungible.preservesOnError_execute call (s.setBudget budget) _ _ hrun
  | refungible call =>
    have hledger := Refungible.ledger_of_reachable hreachable
    have hwidth := Refungible.mintedWidth_of_reachable hreachable
    exact Refungible.execute_unchanged (s := s.setBudget budget) hledger hwidth call _ _ hrun

namespace FailuresExample

open ReferenceAccount

/-- Two tokens in a collection that does not let its tokens be nested. -/
def start : State reference :=
  reference.stateOf [reference.create .nft,
    ⟨.nonfungible 1 (.createMultipleItems alice [⟨alice, []⟩, ⟨alice, []⟩]), 5⟩] rfl

/-- Sending one of them to the other is refused, after all other checks. -/
def nestOne : Exec reference Unit :=
  TokenCall.execute (reference.handleOf start 1 rfl)
    (.nonfungible (.transfer alice (reference.tokenToAddress (1, 2)) 1))

theorem failed_operation_writes_nothing_refused :
    ∃ error s', nestOne.run (start.setBudget 5) = .error error s' ∧ s'.storage = start.storage := by
  have hreachable : Reachable start := reference.reachable_stateOf _ rfl
  have hfails : (match nestOne.run (start.setBudget 5) with
      | .ok _ _ => false
      | .error _ _ => true) = true := by decide
  cases hrun : nestOne.run (start.setBudget 5) with
  | ok value s' => simp [hrun] at hfails
  | error error s' =>
    exact ⟨error, s', rfl, failed_operation_writes_nothing hreachable _ _ 5 error hrun⟩

end FailuresExample

end UniqueChain
