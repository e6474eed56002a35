import UniqueChain.Nesting.Errors
import UniqueChain.Properties.NewTokens

/-!
# Refungible operations do not underflow

The counter of an account goes down where the account gives its last pieces of a
token: in both branches of `burn` and in a transfer.  "Should not occur" is what the
source says of the subtraction failing there.  The account has been seen to hold
pieces by then, so the subtraction is safe as long as every holder is counted
(`HoldersCounted`).  Nothing else subtracts from a counter.
-/

namespace UniqueChain

open Execution

variable {T : Config} {s s' : State T} {handle : CollectionHandle T} {token : TokenId}
  {owner spender from' to' sender : T.CrossAccountId} {amount : ℕ} {error : Failure}

/-- The writer of properties fails with errors of the pallet `common` and with
those of its lazy values. -/
theorem writerAnalysis_failsWithin {P : Failure → Prop} (hcommon : ∀ error : CommonError, P error) :
    WriterAnalysis (T := T) (fun _ body => FailsWithin P body) P where
  toCompositional := compositional_failsWithin
  common := hcommon
  readCommon _ := .bind .read fun _ => .pure
  depositEvent _ := .update

theorem notUnderflow_overflow : NotUnderflow DispatchError.overflow := by
  rintro ⟨⟩

namespace Refungible

/-- Every holder of pieces is counted at least once. -/
def HoldersCounted (s : State T) : Prop :=
  ∀ token account, balanceOf s token account ≠ 0 → 1 ≤ accountBalanceOf s token.1 account

/-! ## Burning -/

theorem failsWithin_burnTokenUnchecked {collection : CollectionId} :
    FailsWithin NotUnderflow (burnTokenUnchecked collection owner token) :=
  .bind .read fun _ => .bind (.okOr notUnderflow_overflow) fun _ => .update

theorem burnLastPieces_notUnderflow (hcounted : 1 ≤ accountBalanceOf s handle.id owner)
    (hrun : (burnLastPieces handle owner token amount).run s = .error error s') :
    NotUnderflow error := by
  rcases ensure_bind_error.mp (read_bind_error.mp hrun) with ⟨_, rfl, _⟩ | ⟨_, hrun⟩
  · exact notUnderflow_common _
  rcases okOr_bind_error.mp hrun with ⟨hnone, _, _⟩ | ⟨balance, _, hrun⟩
  · have hlow := checkedSub_eq_none.mp hnone
    omega
  have hrest : FailsWithin NotUnderflow (unnestIfNested owner (handle.id, token) >>= fun _ =>
      update (setAccountBalance handle.id owner balance) >>= fun _ =>
        burnTokenUnchecked handle.id owner token >>= fun _ => update fun s =>
          (s.depositLog (collectionIdToAddress handle.id)
            (.erc20Transfer (T.asEth owner) 0 amount)).depositEvent
            (.itemDestroyed handle.id token owner amount)) :=
    .bind .ignoreError fun _ => .bind .update fun _ =>
      failsWithin_burnTokenUnchecked.bind fun _ => .update
  exact hrest _ _ _ (update_bind_error.mp hrun)

theorem burnBalance_notUnderflow {balance : ℕ} (hcounted : 1 ≤ accountBalanceOf s handle.id owner)
    (hrun : (burnBalance handle owner token balance).run s = .error error s') :
    NotUnderflow error := by
  unfold burnBalance at hrun
  split at hrun
  · rcases okOr_bind_error.mp (read_bind_error.mp hrun) with ⟨hnone, _, _⟩ | ⟨left, _, hrun⟩
    · have hlow := checkedSub_eq_none.mp hnone
      omega
    · have hremove : FailsWithin NotUnderflow (removeHolder handle owner token left) :=
        .bind .update fun _ => .bind .ignoreError fun _ => .bind .update fun _ =>
          .bind .update fun _ => .update
      exact hremove _ _ _ hrun
  · exact absurd hrun update_error

theorem burn_notUnderflow (hcounted : HoldersCounted s)
    (hrun : (burn handle owner token amount).run s = .error error s') : NotUnderflow error := by
  rcases ensure_bind_error.mp (read_bind_error.mp hrun) with ⟨_, rfl, _⟩ | ⟨hholds, hrun⟩
  · exact notUnderflow_common _
  have hone := hcounted (handle.id, token) owner hholds
  rcases okOr_bind_error.mp hrun with ⟨_, rfl, _⟩ | ⟨supply, _, hrun⟩
  · exact notUnderflow_common _
  split at hrun
  · exact burnLastPieces_notUnderflow hone hrun
  rcases okOr_bind_error.mp (read_bind_error.mp hrun) with ⟨_, rfl, _⟩ | ⟨balance, _, hrun⟩
  · exact notUnderflow_common _
  rcases bind_error.mp hrun with herror | ⟨_, _, _, hrun⟩
  · exact burnBalance_notUnderflow hone herror
  · exact absurd hrun update_error

/-! ## Transfers -/

/-- No check underflows. -/
theorem checks : CheckAnalysis (T := T) State.storage (fun _ body => FailsWithin NotUnderflow body)
    NotUnderflow := checks_failWithin notUnderflow_dispatch

theorem failsWithin_accountBalanceFromAfter {balance : ℕ}
    (hcounted : 1 ≤ accountBalanceOf s handle.id from') :
    FailsWithin NotUnderflow (accountBalanceFromAfter s handle.id from' balance) := by
  refine .ite ?_ .pure
  rw [checkedSub_eq_some.mpr ⟨hcounted, rfl⟩]
  exact .pure

theorem failsWithin_accountBalanceToAfter {create : Bool} :
    FailsWithin NotUnderflow (accountBalanceToAfter s handle to' create) :=
  .ite (.bind (.okOr notUnderflow_overflow) fun _ =>
    .bind (.ensure (notUnderflow_common _)) fun _ => .pure) .pure

theorem failsWithin_movePieces {depositor : T.CrossAccountId} {balanceFrom balanceTo : ℕ}
    {accountBalanceFrom accountBalanceTo : Option ℕ} :
    FailsWithin NotUnderflow (movePieces handle depositor from' to' token balanceFrom balanceTo
      accountBalanceFrom accountBalanceTo) := by
  have hdebit : FailsWithin NotUnderflow (debit (handle.id, token) from' balanceFrom) :=
    .bind .update fun _ => .ite .ignoreError .pure
  exact .bind (failsWithin_nestIfSentToToken notUnderflow_dispatch) fun _ => hdebit.bind fun _ =>
    .bind .update fun _ => .bind .update fun _ => .update

theorem transferInternal_notUnderflow {depositor : T.CrossAccountId} (hcounted : HoldersCounted s)
    (hrun : (transferInternal handle depositor from' to' token amount).run s = .error error s') :
    NotUnderflow error := by
  rcases ensure_bind_error.mp hrun with ⟨_, rfl, _⟩ | ⟨_, hrun⟩
  · exact notUnderflow_common _
  rcases bind_error.mp hrun with herror | ⟨_, _, haccess, hrun⟩
  · exact checks.checkAccess _ _ _ herror
  obtain ⟨_, rfl⟩ := CollectionHandle.checkAccess_ok.mp haccess
  rcases ensure_bind_error.mp hrun with ⟨_, rfl, _⟩ | ⟨_, hrun⟩
  · exact notUnderflow_common _
  rcases ensure_bind_error.mp (read_bind_error.mp hrun) with ⟨_, rfl, _⟩ | ⟨hholds, hrun⟩
  · exact notUnderflow_common _
  have hone := hcounted (handle.id, token) from' hholds
  rcases okOr_bind_error.mp hrun with ⟨_, rfl, _⟩ | ⟨balanceFrom, _, hrun⟩
  · exact notUnderflow_common _
  split at hrun
  · rcases okOr_bind_error.mp hrun with ⟨_, rfl, _⟩ | ⟨balanceTo, _, hrun⟩
    · exact notUnderflow_overflow
    · refine (failsWithin_accountBalanceFromAfter hone).bind (fun _ => ?_) _ _ _ hrun
      exact failsWithin_accountBalanceToAfter.bind fun _ =>
        failsWithin_movePieces.bind fun _ => .update
  · exact (failsWithin_accountBalanceFromAfter hone).bind (fun _ => .update) _ _ _ hrun

/-! ## Minting and properties -/

theorem failsWithin_mintPieces {collection : CollectionId} (entry : T.CrossAccountId × ℕ) :
    FailsWithin NotUnderflow (mintPieces collection token entry) := by
  refine .ite .pure (.bind .update fun _ => ?_)
  intro s error s' hrun
  simp only [nestIfSentToTokenUnchecked, Exec.unwrap] at hrun
  split at hrun
  · cases hrun
  · cases hrun
    rintro ⟨⟩

theorem yields_mintItem {item : CreateItemData T} {total : ℕ}
    {info : PropertyWriterLazyCollectionInfo T}
    (hinfo : info.All fun _ body => FailsWithin NotUnderflow body) :
    Yields (fun _ body => FailsWithin NotUnderflow body)
      (fun info' => info'.All fun _ body => FailsWithin NotUnderflow body)
      (mintItem handle sender token item total info) := by
  have hwriter : WriterAnalysis (T := T) (fun _ body => FailsWithin NotUnderflow body)
    NotUnderflow := writerAnalysis_failsWithin notUnderflow_common
  refine hwriter.yields_bind (.of_holds .update) fun _ _ => ?_
  refine hwriter.yields_bind (.of_holds (.forEach failsWithin_mintPieces _)) fun _ _ => ?_
  exact hwriter.writeNewTokenProperties (fun _ => .update) hinfo

theorem failsWithin_createMultipleItems {data : List (CreateItemData T)} :
    FailsWithin NotUnderflow (createMultipleItems handle sender data) := by
  have hwriter := writerAnalysis_failsWithin (T := T) notUnderflow_common
  rw [createMultipleItems_eq]
  refine MintForm.create_holds mintForm_lawful checks notUnderflow_overflow fun _ _ _ =>
    .bind checks.checkEachNesting fun _ => .bind (FailsWithin.transactional ?_) fun _ => .update
  exact mintLoop_holds hwriter.toCompositional (fun _ _ _ _ hinfo => yields_mintItem hinfo)
    (hwriter.newCollectionInfo handle sender)

theorem failsWithin_modifyTokenProperties {updates : List PropertyUpdate} :
    FailsWithin NotUnderflow (modifyTokenProperties handle sender token updates) := by
  refine FailsWithin.transactional ((writerAnalysis_failsWithin
    notUnderflow_common).writeExistingTokenProperties (fun _ => .update) rfl
      (.bind .read fun _ => .pure) (.bind .read fun _ => ?_) (.bind .read fun _ => .pure))
  exact .ite .pure checks.checkIndirectlyOwned

/-! ## All calls -/

/-- While every holder is counted, no call underflows. -/
theorem execute_notUnderflow {call : RefungibleCall T} (hcounted : HoldersCounted s)
    (hrun : (call.execute handle).run s = .error error s') : NotUnderflow error := by
  cases call with
  | createMultipleItems sender data => exact failsWithin_createMultipleItems _ _ _ hrun
  | transfer from' to' token amount => exact transferInternal_notUnderflow hcounted hrun
  | transferFrom spender from' to' token amount =>
    rcases bind_error.mp hrun with herror | ⟨left, s₁, hcheck, hrun⟩
    · exact checkAllowed_holds checks _ _ _ herror
    obtain ⟨⟨budget, _, rfl⟩, _⟩ := checkAllowed_ok hcheck
    rcases bind_error.mp hrun with herror | ⟨_, _, _, hrun⟩
    · exact transferInternal_notUnderflow (s := s.setBudget budget) hcounted herror
    · exact absurd hrun update_error
  | burn owner token amount => exact burn_notUnderflow hcounted hrun
  | burnFrom spender from' token amount =>
    rcases bind_error.mp hrun with herror | ⟨left, s₁, hcheck, hrun⟩
    · exact checkAllowed_holds checks _ _ _ herror
    obtain ⟨⟨budget, _, rfl⟩, _⟩ := checkAllowed_ok hcheck
    rcases bind_error.mp hrun with herror | ⟨_, _, _, hrun⟩
    · exact burn_notUnderflow (s := s.setBudget budget) hcounted herror
    · exact absurd hrun update_error
  | repartition owner token amount =>
    have hbody : FailsWithin NotUnderflow (repartition handle owner token amount) :=
      .bind (.ensure (notUnderflow_dispatch _ rfl)) fun _ =>
        .bind (.ensure (notUnderflow_common _)) fun _ => .bind .read fun _ =>
          .bind (.ensure (notUnderflow_dispatch _ rfl)) fun _ => .bind .update fun _ => .update
    exact hbody _ _ _ hrun
  | setAllowance sender spender token amount =>
    have hbody : FailsWithin NotUnderflow (setAllowance handle sender spender token amount) :=
      .bind checks.checkAccess fun _ =>
        .bind (.ensure (notUnderflow_common _)) fun _ => .bind .read fun _ =>
          .bind (.ensure (notUnderflow_common _)) fun _ => .update
    exact hbody _ _ _ hrun
  | setAllowanceFrom sender from' to' token amount =>
    have hbody :
        FailsWithin NotUnderflow (setAllowanceFrom handle sender from' to' token amount) :=
      .bind checks.checkAccess fun _ =>
        .bind (.ensure (notUnderflow_common _)) fun _ =>
          .bind (.ensure (notUnderflow_common _)) fun _ => .bind .read fun _ =>
            .bind (.ensure (notUnderflow_common _)) fun _ => .update
    exact hbody _ _ _ hrun
  | setAllowanceForAll owner spender approve =>
    have hbody : FailsWithin NotUnderflow (setAllowanceForAll handle owner spender approve) :=
      .bind checks.checkAccess fun _ =>
        .bind (.ensure (notUnderflow_common _)) fun _ => .update
    exact hbody _ _ _ hrun
  | modifyTokenProperties sender token updates =>
    exact failsWithin_modifyTokenProperties _ _ _ hrun

end Refungible

end UniqueChain
