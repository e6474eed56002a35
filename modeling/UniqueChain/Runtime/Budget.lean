import UniqueChain.Fungible.Effects
import UniqueChain.Model.Reference
import UniqueChain.Properties.NewTokens

/-!
# More budget does not hurt

An operation walks up the nesting tree several times and hands what is left of
the budget from one walk to the next.  Giving it more budget changes nothing but
the rest: it takes the same way, fails for the same reason, and ends with the
added units left, unless it had run out of the smaller budget.

## Strategy

A walk with more budget visits the same parents (`WalkNeutral`).  Everything else
an operation does neither reads nor writes the budget, so it is tracked as well
(`Budgeted`); the property writer, which keeps the outcome of its owner check and
raises the error later, is covered by the general analysis of `WriterFrame`.
-/

namespace UniqueChain

open Execution CollectionDispatch

variable {T : Config} {s s' : State T} {handle : CollectionHandle T} {more : ℕ}

variable {collection : CollectionId} {account : T.CrossAccountId} {owner : T.CrossAccountId}
  {sender : T.CrossAccountId} {spender from' : T.CrossAccountId} {amount : ℕ} {allowance : Option ℕ}

/-- The same state with more budget. -/
def State.addBudget (more : ℕ) (s : State T) : State T := s.setBudget (s.budget + more)

section AddBudget

@[simp] theorem State.nonfungible_addBudget : (s.addBudget more).nonfungible = s.nonfungible := rfl

@[simp] theorem State.refungible_addBudget : (s.addBudget more).refungible = s.refungible := rfl

@[simp] theorem State.mapNonfungible_addBudget {f : NonfungibleStorage T → NonfungibleStorage T} :
    (s.addBudget more).mapNonfungible f = (s.mapNonfungible f).addBudget more := rfl

@[simp] theorem State.mapRefungible_addBudget {f : RefungibleStorage T → RefungibleStorage T} :
    (s.addBudget more).mapRefungible f = (s.mapRefungible f).addBudget more := rfl

@[simp] theorem State.depositLog_addBudget {address : H160} {event : LogEvent} :
    (s.addBudget more).depositLog address event = (s.depositLog address event).addBudget more := rfl

@[simp] theorem State.depositEvent_addBudget {event : Event T} :
    (s.addBudget more).depositEvent event = (s.depositEvent event).addBudget more := rfl

end AddBudget

/-- The error of a walk that would have gone on with more budget. -/
def OutOfBudget (error : Failure) : Prop := error = StructureError.depthLimit

theorem walkNeutral_addBudget :
    WalkNeutral (fun s t : State T => t = s.addBudget more) OutOfBudget where
  common := by
    rintro s _ rfl
    rfl
  next := by
    rintro s _ rfl chain
    exact .inl rfl
  budget := by
    rintro s _ rfl
    exact ⟨more, rfl, .inr rfl, fun _ => rfl⟩

/-- With more budget the execution does the same, and the added units are left,
unless it had run out of budget. -/
abbrev Budgeted {α : Type} (more : ℕ) (body : Exec T α) : Prop :=
  Tracks (State.addBudget more) OutOfBudget body

/-! ## Nesting -/

section Nesting

variable {sender account : T.CrossAccountId} {child : Token}

theorem checks_budgeted :
    CheckAnalysis (T := T) State.storage (fun _ body => Budgeted more body) fun _ => True :=
  walkNeutral_addBudget.checks (by rintro s _ rfl; rfl) fun _ _ hstorage =>
    (State.storage_eq_iff.mp hstorage).1

theorem tracks_nest {Exempt : Failure → Prop} {kind : CollectionDispatch T} {under : TokenId} :
    Tracks (State.addBudget more) Exempt (update (kind.nest under child) : Exec T Unit) := by
  refine Tracks.update fun s => ?_
  cases kind with
  | nonfungible handle =>
    simp only [CollectionDispatch.nest, Nonfungible.nest]
    split <;> rfl
  | _ => rfl

theorem budgeted_nestIfSentToToken : Budgeted more (nestIfSentToToken sender account child) :=
  checks_budgeted.tryExecIfToken fun _ _ =>
    .bind checks_budgeted.dispatch_checkNesting fun _ => tracks_nest

theorem budgeted_nestIfSentToTokenUnchecked :
    Budgeted more (nestIfSentToTokenUnchecked account child) := by
  have hbody : Commutes (State.addBudget more) (tryExecIfToken account fun kind parent =>
      (update (kind.nest parent child) : Exec T Unit)) := by
    refine .bind .ensure fun _ => ?_
    split
    · exact .pure
    · exact Tracks.read_bind (fun _ => rfl) fun _ => .bind .okOr fun kind => tracks_nest
  rintro s _ rfl
  simp only [nestIfSentToTokenUnchecked, Exec.unwrap, hbody.run_eq s]
  cases (tryExecIfToken account fun kind parent =>
      (update (kind.nest parent child) : Exec T Unit)).run s with
  | ok value reached => exact ⟨_, rfl, rfl⟩
  | error error reached => exact .inr ⟨_, rfl, rfl⟩

theorem budgeted_unnestIfNested : Budgeted more (unnestIfNested account child) := by
  refine .of_run (fun s t value s' hst hrun => ?_) fun s t error s' hst hrun => ?_
  · subst hst
    rw [unnestIfNested_ok] at hrun
    exact ⟨_, unnestIfNested_ok.mpr rfl, by rw [← hrun]; rfl⟩
  · exact (FailsWithin.ignoreError (P := fun _ => False) s error s' hrun).elim

end Nesting

/-! ## The property writer -/

theorem writerAnalysis_budgeted :
    WriterAnalysis (T := T) (fun _ body => Budgeted more body) fun _ => True where
  toCompositional := compositional_simulates
  common _ := trivial
  readCommon hf := Tracks.read_bind (fun s => by rw [hf s (s.addBudget more) rfl]) fun _ => .pure
  depositEvent _ := Tracks.update fun _ => rfl

/-! ## Non-fungible tokens -/

theorem MintForm.budgeted_create {form : MintForm T} {data : List form.Item} (hform : form.Lawful)
    (hfinish : ∀ token count balances s,
      form.finish handle.id token data count balances (s.addBudget more) =
        (form.finish handle.id token data count balances s).addBudget more)
    (hitem : ∀ token item, ∀ info : PropertyWriterLazyCollectionInfo T,
      (info.All fun _ body => Budgeted more body) →
        Yields (fun _ body => Budgeted more body)
          (fun info => info.All fun _ body => Budgeted more body)
          (form.mintItem handle sender token item info)) :
    Budgeted more (form.create handle sender data) := by
  have hA : WriterAnalysis (T := T) (fun _ body => Budgeted more body) _ := writerAnalysis_budgeted
  refine MintForm.create_holds hform checks_budgeted trivial fun token count balances =>
    .bind checks_budgeted.checkEachNesting fun _ =>
      .bind (Tracks.transactional ?_ fun _ _ => rfl) fun _ =>
        Tracks.update fun _ => hfinish _ _ _ _
  exact mintLoop_holds hA.toCompositional (fun token item _ => hitem token item)
    (hA.newCollectionInfo handle sender)

namespace Nonfungible

variable {token : TokenId} {data : List (CreateItemData T)}

@[simp] theorem setAllowanceUnchecked_addBudget
    {spender : Option T.CrossAccountId} {assumeImplicitEth : Bool} :
    setAllowanceUnchecked collection sender token spender assumeImplicitEth (s.addBudget more) =
      (setAllowanceUnchecked collection sender token spender assumeImplicitEth s).addBudget
        more := by
  unfold setAllowanceUnchecked
  simp only [State.nonfungible_addBudget]
  (repeat' split) <;> rfl

theorem budgeted_burn : Budgeted more (burn handle sender token) := by
  refine Tracks.read_bind (fun _ => rfl) fun s => ?_
  refine .bind .okOr fun tokenData => ?_
  refine .bind .ensure fun _ => ?_
  refine .bind checks_budgeted.checkAccess fun _ => ?_
  refine .bind .ensure fun _ => ?_
  refine .bind .okOr fun burnt => ?_
  refine .bind .okOr fun balance => ?_
  -- the writes
  refine .bind (Tracks.update fun _ => rfl) fun _ => ?_
  refine .bind budgeted_unnestIfNested fun _ => Tracks.update fun s => ?_
  unfold burnWrites
  simp only [State.nonfungible_addBudget]
  split <;> rfl

theorem budgeted_transferInternal {depositor from' to' : T.CrossAccountId} :
    Budgeted more (transferInternal handle depositor from' to' token) := by
  have hbalance : ∀ s : State T, Budgeted more (balanceAfterReceiving handle from' to' s) :=
    fun s => .ite .pure (.bind .okOr fun _ => .bind .ensure fun _ => .pure)
  refine .bind .ensure fun _ => ?_
  refine Tracks.read_bind (fun _ => rfl) fun s => ?_
  refine .bind .okOr fun tokenData => ?_
  refine .bind .ensure fun _ => ?_
  refine .bind checks_budgeted.checkAccess fun _ => ?_
  refine .bind .ensure fun _ => ?_
  refine .bind .okOr fun balanceFrom => ?_
  refine .bind (hbalance s) fun balanceTo => ?_
  -- the writes
  refine .bind budgeted_nestIfSentToToken fun _ => ?_
  refine .bind budgeted_unnestIfNested fun _ => Tracks.update fun s => ?_
  cases balanceTo <;> simp [transferWrites]

theorem mintOwned_addBudget :
    mintOwned collection token data (s.addBudget more) =
      (mintOwned collection token data s).addBudget more := by
  induction data generalizing token s with
  | nil => rfl
  | cons item rest ih =>
    unfold mintOwned
    rw [State.mapNonfungible_addBudget, State.depositLog_addBudget, State.depositEvent_addBudget,
      ih]

theorem budgeted_createMultipleItems : Budgeted more (createMultipleItems handle sender data) := by
  have hA : WriterAnalysis (T := T) (fun _ body => Budgeted more body) _ := writerAnalysis_budgeted
  rw [createMultipleItems_eq]
  refine MintForm.budgeted_create mintForm_lawful
    (fun token count balances s => mintOwned_addBudget
      (s := mintCounters handle.id count balances s))
    fun token item info hinfo => ?_
  refine hA.yields_bind (.of_holds (Tracks.update fun _ => rfl)) fun _ _ => ?_
  refine hA.yields_bind (.of_holds budgeted_nestIfSentToTokenUnchecked) fun _ _ => ?_
  exact hA.writeNewTokenProperties (fun _ => by exact Tracks.update fun _ => rfl) hinfo

theorem budgeted_execute (call : NonfungibleCall T) : Budgeted more (call.execute handle) := by
  cases call with
  | createMultipleItems sender data => exact budgeted_createMultipleItems
  | transfer from' to' token => exact budgeted_transferInternal
  | transferFrom spender from' to' token =>
    exact .bind (checkAllowed_holds checks_budgeted) fun _ => budgeted_transferInternal
  | burn sender token => exact budgeted_burn
  | burnFrom spender from' token => exact .bind (checkAllowed_holds checks_budgeted) fun _ =>
      budgeted_burn
  | setAllowance sender token spender =>
    refine .bind checks_budgeted.checkAccess fun _ => ?_
    refine .bind checks_budgeted.ensureCorrectReceivers fun _ => ?_
    refine Tracks.read_bind (fun _ => rfl) fun s => .bind .okOr fun tokenData => ?_
    exact .bind .ensure fun _ => Tracks.update fun _ => setAllowanceUnchecked_addBudget
  | setAllowanceFrom sender from' token to' =>
    refine .bind checks_budgeted.checkAccess fun _ => ?_
    refine .bind checks_budgeted.ensureCorrectReceivers fun _ => ?_
    refine .bind .ensure fun _ => ?_
    refine Tracks.read_bind (fun _ => rfl) fun s => .bind .okOr fun tokenData => ?_
    exact .bind .ensure fun _ => Tracks.update fun _ => setAllowanceUnchecked_addBudget
  | setAllowanceForAll owner operator approve =>
    refine .bind checks_budgeted.checkAccess fun _ => ?_
    exact .bind .ensure fun _ => Tracks.update fun _ => rfl
  | modifyTokenProperties sender token updates =>
    refine Tracks.transactional ?_ fun _ _ => rfl
    exact writerAnalysis_budgeted.writeExistingTokenProperties
      (fun _ => by exact Tracks.update fun _ => rfl) rfl
      (Tracks.read_bind (fun _ => rfl) fun _ => .pure) checks_budgeted.checkIndirectlyOwned
      (Tracks.read_bind (fun _ => rfl) fun _ => .pure)

end Nonfungible

/-! ## Fungible tokens -/

namespace Fungible

theorem budgeted_storeAllowance {from' spender : T.CrossAccountId} :
    Budgeted more (update (storeAllowance collection from' spender allowance) : Exec T Unit) :=
  Tracks.update fun _ => by cases allowance <;> rfl

theorem budgeted_debit {balance : ℕ} : Budgeted more (debit collection account balance) :=
  .bind (Tracks.update fun _ => rfl) fun _ => .ite budgeted_unnestIfNested .pure

theorem budgeted_burn : Budgeted more (burn handle owner amount) := by
  refine Tracks.read_bind (fun _ => rfl) fun s => ?_
  refine .bind .okOr fun totalSupply => ?_
  refine .bind .okOr fun balance => ?_
  refine .bind checks_budgeted.checkAccess fun _ => ?_
  exact .bind budgeted_debit fun _ => Tracks.update fun _ => rfl

theorem budgeted_transferInternal {depositor from' to' : T.CrossAccountId} :
    Budgeted more (transferInternal handle depositor from' to' amount) := by
  refine .bind .ensure fun _ => ?_
  refine .bind checks_budgeted.checkAccess fun _ => ?_
  refine .bind .ensure fun _ => ?_
  refine Tracks.read_bind (fun _ => rfl) fun s => .bind .okOr fun balanceFrom => ?_
  refine .ite (.bind .okOr fun balanceTo => ?_) (Tracks.update fun _ => rfl)
  refine .bind ?_ fun _ => Tracks.update fun _ => rfl
  refine .bind budgeted_nestIfSentToToken fun _ => ?_
  exact .bind budgeted_debit fun _ => Tracks.update fun _ => rfl

theorem updatedBalances_addBudget {entries : List (T.CrossAccountId × ℕ)} :
    updatedBalances (s.addBudget more) collection entries =
      updatedBalances s collection entries := by
  induction entries with
  | nil => rfl
  | cons entry rest ih =>
    unfold updatedBalances
    rw [ih]
    rfl

theorem budgeted_createMultipleItems {data : AssocMap T.CrossAccountId ℕ} :
    Budgeted more (createMultipleItems handle sender data) := by
  refine .bind checks_budgeted.checkMintAuthority fun _ => ?_
  refine Tracks.read_bind (fun s => by rw [updatedBalances_addBudget]; rfl) fun s => ?_
  refine .bind .okOr fun totalSupply => ?_
  refine .bind (.forEach (fun _ => checks_budgeted.checkNesting) _) fun _ => ?_
  refine .bind .okOr fun items => ?_
  refine .bind (Tracks.update fun _ => rfl) fun _ => .forEach (fun item => ?_) items
  refine .bind (Tracks.update fun _ => rfl) fun _ => ?_
  exact .bind budgeted_nestIfSentToTokenUnchecked fun _ => Tracks.update fun _ => rfl

theorem budgeted_execute (call : FungibleCall T) : Budgeted more (call.execute handle) := by
  cases call with
  | createMultipleItems depositor data => exact budgeted_createMultipleItems
  | transfer from' to' amount => exact budgeted_transferInternal
  | transferFrom spender from' to' amount =>
    refine .bind (checkAllowed_holds checks_budgeted) fun allowance => ?_
    exact .bind budgeted_transferInternal fun _ => budgeted_storeAllowance
  | burn owner amount => exact budgeted_burn
  | burnFrom spender from' amount =>
    refine .bind (checkAllowed_holds checks_budgeted) fun allowance => ?_
    exact .bind budgeted_burn fun _ => budgeted_storeAllowance
  | setAllowance owner spender amount =>
    refine .bind checks_budgeted.checkAccess fun _ => ?_
    refine Tracks.read_bind (fun _ => rfl) fun s => ?_
    exact .bind .ensure fun _ => Tracks.update fun _ => rfl
  | setAllowanceFrom sender from' to' amount =>
    refine .bind checks_budgeted.checkAccess fun _ => .bind .ensure fun _ => ?_
    refine Tracks.read_bind (fun _ => rfl) fun s => ?_
    exact .bind .ensure fun _ => Tracks.update fun _ => rfl

end Fungible

/-! ## Refungible tokens -/

namespace Refungible

variable {token : TokenId} {data : List (CreateItemData T)}

theorem budgeted_storeAllowance {from' spender : T.CrossAccountId} :
    Budgeted more
      (update (storeAllowance collection from' spender token allowance) : Exec T Unit) :=
  Tracks.update fun _ => by cases allowance <;> rfl

theorem logSoleOwner_addBudget :
    logSoleOwner collection token (s.addBudget more) =
      (logSoleOwner collection token s).addBudget more := by
  have howner : tokenOwner (s.addBudget more) (collection, token) =
      tokenOwner s (collection, token) := rfl
  unfold logSoleOwner
  rw [howner]
  split <;> rfl

theorem budgeted_burn : Budgeted more (burn handle owner token amount) := by
  refine Tracks.read_bind (fun _ => rfl) fun s => .bind .ensure fun _ => ?_
  refine .bind .okOr fun totalSupply => .ite ?_ ?_
  · -- the last pieces
    refine Tracks.read_bind (fun _ => rfl) fun s => .bind .ensure fun _ => ?_
    refine .bind .okOr fun accountBalance => ?_
    refine .bind (Tracks.update fun _ => rfl) fun _ => ?_
    refine .bind budgeted_unnestIfNested fun _ => ?_
    refine .bind (Tracks.update fun _ => rfl) fun _ => ?_
    refine .bind (Tracks.read_bind (fun _ => rfl) fun s => ?_) fun _ => Tracks.update fun _ => rfl
    exact .bind .okOr fun burnt => Tracks.update fun _ => rfl
  · refine Tracks.read_bind (fun _ => rfl) fun s => .bind .okOr fun balance => ?_
    refine .bind (.ite ?_ (Tracks.update fun _ => rfl)) fun _ => Tracks.update fun _ => rfl
    -- the last pieces of the owner
    refine Tracks.read_bind (fun _ => rfl) fun s => .bind .okOr fun accountBalance => ?_
    refine .bind (Tracks.update fun _ => rfl) fun _ => ?_
    refine .bind budgeted_unnestIfNested fun _ => ?_
    refine .bind (Tracks.update fun _ => rfl) fun _ => ?_
    refine .bind (Tracks.update fun _ => rfl) fun _ => ?_
    exact Tracks.update fun _ => logSoleOwner_addBudget

theorem transferLogs_addBudget {from' to' : T.CrossAccountId}
    {amount initialBalanceFrom : ℕ} {updatedBalanceTo : Option ℕ} :
    transferLogs collection from' to' token amount initialBalanceFrom updatedBalanceTo
        (s.addBudget more) =
      (transferLogs collection from' to' token amount initialBalanceFrom updatedBalanceTo
        s).addBudget more := by
  unfold transferLogs
  cases updatedBalanceTo <;>
    simp only [State.refungible_addBudget, State.depositLog_addBudget,
      State.depositEvent_addBudget, apply_ite (State.addBudget more)] <;>
    rfl

theorem setHolding_addBudget {owned : Bool} {balance : Option ℕ} :
    setHolding collection account token owned balance (s.addBudget more) =
      (setHolding collection account token owned balance s).addBudget more := by
  cases balance <;> rfl

theorem budgeted_transferInternal {depositor from' to' : T.CrossAccountId} :
    Budgeted more (transferInternal handle depositor from' to' token amount) := by
  have hfrom : ∀ (s : State T) balance,
      Budgeted more (accountBalanceFromAfter s handle.id from' balance) :=
    fun s balance => .ite (.bind .okOr fun _ => .pure) .pure
  have hto : ∀ (s : State T) create, Budgeted more (accountBalanceToAfter s handle to' create) :=
    fun s create => .ite (.bind .okOr fun _ => .bind .ensure fun _ => .pure) .pure
  have hdebit : ∀ balance, Budgeted more (debit (handle.id, token) from' balance) := fun balance =>
    .bind (Tracks.update fun _ => rfl) fun _ => .ite budgeted_unnestIfNested .pure
  have hlogs : ∀ initial updated, Budgeted more
      (update (transferLogs handle.id from' to' token amount initial updated)) :=
    fun _ _ => Tracks.update fun _ => transferLogs_addBudget
  refine .bind .ensure fun _ => ?_
  refine .bind checks_budgeted.checkAccess fun _ => ?_
  refine .bind .ensure fun _ => ?_
  refine Tracks.read_bind (fun _ => rfl) fun s => .bind .ensure fun _ => ?_
  refine .bind .okOr fun updatedBalanceFrom => ?_
  refine .ite ?_ (.bind (hfrom _ _) fun _ => hlogs _ _)
  refine .bind .okOr fun updatedBalanceTo => ?_
  refine .bind (hfrom _ _) fun accountBalanceFrom => ?_
  refine .bind (hto _ _) fun accountBalanceTo => .bind ?_ fun _ => hlogs _ _
  -- the pieces are moved
  refine .bind budgeted_nestIfSentToToken fun _ => ?_
  refine (hdebit _).bind fun _ => ?_
  refine .bind (Tracks.update fun _ => rfl) fun _ => ?_
  refine .bind (Tracks.update fun _ => setHolding_addBudget) fun _ => ?_
  exact Tracks.update fun _ => setHolding_addBudget

theorem mintLogs_addBudget {item : CreateItemData T} :
    mintLogs collection token item (s.addBudget more) =
      (mintLogs collection token item s).addBudget more := by
  unfold mintLogs
  simp only [State.depositLog_addBudget]
  split <;> exact List.foldl_hom (State.addBudget more) fun _ _ => rfl

theorem mintAllLogs_addBudget :
    mintAllLogs collection token data (s.addBudget more) =
      (mintAllLogs collection token data s).addBudget more := by
  induction data generalizing token s with
  | nil => rfl
  | cons item rest ih =>
    unfold mintAllLogs
    rw [mintLogs_addBudget, ih]

theorem budgeted_createMultipleItems : Budgeted more (createMultipleItems handle sender data) := by
  have hA : WriterAnalysis (T := T) (fun _ body => Budgeted more body) _ := writerAnalysis_budgeted
  rw [createMultipleItems_eq]
  refine MintForm.budgeted_create mintForm_lawful
    (fun token count balances s => mintAllLogs_addBudget
      (s := mintCounters handle.id count balances s)) fun token item info hinfo => ?_
  refine hA.yields_bind (.of_holds (Tracks.update fun _ => rfl)) fun _ _ => ?_
  refine hA.yields_bind (.of_holds (.forEach (fun entry => ?_) _)) fun _ _ => ?_
  · exact .ite .pure (.bind (Tracks.update fun _ => rfl) fun _ =>
      budgeted_nestIfSentToTokenUnchecked)
  · exact hA.writeNewTokenProperties (fun _ => by exact Tracks.update fun _ => rfl) hinfo

theorem repartitionLogs_addBudget {totalPieces amount : ℕ} :
    repartitionLogs collection owner token totalPieces amount (s.addBudget more) =
      (repartitionLogs collection owner token totalPieces amount s).addBudget more := by
  unfold repartitionLogs
  (repeat' split) <;> rfl

theorem budgeted_checkTokenIndirectOwner :
    Budgeted more (checkTokenIndirectOwner handle account token) :=
  Tracks.read_bind (fun _ => rfl) fun _ => .ite .pure checks_budgeted.checkIndirectlyOwned

theorem budgeted_execute (call : RefungibleCall T) : Budgeted more (call.execute handle) := by
  cases call with
  | createMultipleItems sender data => exact budgeted_createMultipleItems
  | transfer from' to' token amount => exact budgeted_transferInternal
  | transferFrom spender from' to' token amount =>
    refine .bind (checkAllowed_holds checks_budgeted) fun allowance => ?_
    exact .bind budgeted_transferInternal fun _ => budgeted_storeAllowance
  | burn owner token amount => exact budgeted_burn
  | burnFrom spender from' token amount =>
    refine .bind (checkAllowed_holds checks_budgeted) fun allowance => ?_
    exact .bind budgeted_burn fun _ => budgeted_storeAllowance
  | repartition owner token amount =>
    refine .bind .ensure fun _ => .bind .ensure fun _ => ?_
    refine Tracks.read_bind (fun _ => rfl) fun s => .bind .ensure fun _ => ?_
    refine .bind (Tracks.update fun _ => rfl) fun _ => ?_
    exact Tracks.update fun _ => repartitionLogs_addBudget
  | setAllowance sender spender token amount =>
    refine .bind checks_budgeted.checkAccess fun _ => .bind .ensure fun _ => ?_
    refine Tracks.read_bind (fun _ => rfl) fun s => ?_
    exact .bind .ensure fun _ => Tracks.update fun _ => rfl
  | setAllowanceFrom sender from' to' token amount =>
    refine .bind checks_budgeted.checkAccess fun _ => ?_
    refine .bind .ensure fun _ => .bind .ensure fun _ => ?_
    refine Tracks.read_bind (fun _ => rfl) fun s => ?_
    exact .bind .ensure fun _ => Tracks.update fun _ => rfl
  | setAllowanceForAll owner spender approve =>
    refine .bind checks_budgeted.checkAccess fun _ => ?_
    exact .bind .ensure fun _ => Tracks.update fun _ => rfl
  | modifyTokenProperties sender token updates =>
    refine Tracks.transactional ?_ fun _ _ => rfl
    exact writerAnalysis_budgeted.writeExistingTokenProperties
      (fun _ => by exact Tracks.update fun _ => rfl) rfl
      (Tracks.read_bind (fun _ => rfl) fun _ => .pure) budgeted_checkTokenIndirectOwner
      (Tracks.read_bind (fun _ => rfl) fun _ => .pure)

end Refungible

/-! ## All operations -/

theorem TokenCall.budgeted_execute (call : TokenCall T) : Budgeted more (call.execute handle) := by
  cases call with
  | nonfungible call => exact Nonfungible.budgeted_execute call
  | fungible call => exact Fungible.budgeted_execute call
  | refungible call => exact Refungible.budgeted_execute call

/-- A larger budget gives the same result and leaves the difference over; an error
stays the same unless the smaller budget had run out. -/
theorem more_budget_same_result (handle : CollectionHandle T) (call : TokenCall T) (s : State T)
    {smaller larger : ℕ} (hle : smaller ≤ larger) :
    (∀ s', (call.execute handle).run (s.setBudget smaller) = .ok () s' →
      (call.execute handle).run (s.setBudget larger) =
        .ok () (s'.setBudget (s'.budget + (larger - smaller)))) ∧
    ∀ error s', (call.execute handle).run (s.setBudget smaller) = .error error s' →
      error ≠ StructureError.depthLimit →
        (call.execute handle).run (s.setBudget larger) =
          .error error (s'.setBudget (s'.budget + (larger - smaller))) := by
  have hbudget : (s.setBudget smaller).addBudget (larger - smaller) = s.setBudget larger := by
    have hsum : smaller + (larger - smaller) = larger := Nat.add_sub_cancel' hle
    simp only [State.addBudget, State.setBudget, hsum]
  have htracks : Budgeted (larger - smaller) (call.execute handle) := call.budgeted_execute
  rw [← hbudget]
  refine ⟨fun s' hrun => htracks.run_ok hrun, fun error s' hrun herror => ?_⟩
  exact (htracks.run_error hrun).resolve_left herror

namespace BudgetExample

open ReferenceAccount

/-- A token of the second collection lies under a token of the first. -/
def start : State reference :=
  reference.stateOf [reference.createNesting, reference.create .nft,
    ⟨.nonfungible 1 (.createMultipleItems alice [⟨alice, []⟩]), 5⟩,
    ⟨.nonfungible 2 (.createMultipleItems alice [⟨reference.tokenToAddress (1, 1), []⟩]), 5⟩] rfl

/-- To take it out, its owner is found with one unit. -/
def takeOut : Exec reference Unit :=
  TokenCall.execute (reference.handleOf start 2 rfl)
    (.nonfungible (.transferFrom alice (reference.tokenToAddress (1, 1)) bob 1))

/-- Without budget the call fails; six more units than needed are left over. -/
theorem more_budget_same_result_nested :
    (∃ s', takeOut.run (start.setBudget 0) = .error StructureError.depthLimit s') ∧
      ∃ s', takeOut.run (start.setBudget 1) = .ok () s' ∧ s'.budget = 0 ∧
        takeOut.run (start.setBudget 7) = .ok () (s'.setBudget 6) := by
  have hone : (match takeOut.run (start.setBudget 1) with
      | .ok _ s' => decide (s'.budget = 0)
      | .error _ _ => false) = true := by decide
  refine ⟨⟨_, rfl⟩, ?_⟩
  cases hrun : takeOut.run (start.setBudget 1) with
  | error error s' => simp [hrun] at hone
  | ok value s' =>
    simp only [hrun, decide_eq_true_eq] at hone
    refine ⟨s', rfl, hone, ?_⟩
    have hmore := (more_budget_same_result _ _ start (by decide : 1 ≤ 7)).1 s' hrun
    rw [hone] at hmore
    exact hmore

end BudgetExample

end UniqueChain
