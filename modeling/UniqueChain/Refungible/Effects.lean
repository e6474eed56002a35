import UniqueChain.Model.Refungible
import UniqueChain.Properties.WriterFrame

/-!
# What the operations on refungible tokens do

For every operation of the pallet: the checks a successful call has passed, and
the storage it leaves.  A refungible operation changes the refungible storage
and the index of children, and nothing else.
-/

namespace UniqueChain.Refungible

open Execution CollectionDispatch

variable {T : Config} {s s' : State T} {handle : CollectionHandle T} {token : TokenId}

variable {collection : CollectionId} {owner : T.CrossAccountId} {amount : ℕ} {balance : ℕ}
  {sender : T.CrossAccountId}

/-- The storage after the ledger and the index are written. -/
def writeLedger (f : RefungibleStorage T → RefungibleStorage T) (children : Children)
    (s : State T) : State T :=
  (s.mapRefungible f).setChildren children

theorem storage_writeLedger_congr {f : RefungibleStorage T → RefungibleStorage T}
    {children : Children} (hstorage : s'.storage = s.storage) :
    (writeLedger f children s').storage = (writeLedger f children s).storage :=
  State.storage_setChildren_congr (State.storage_mapRefungible_congr hstorage)

/-! ## Approvals -/

/-- What a passed check of a spender means, and the allowance to be stored. -/
inductive SpenderAllowed (handle : CollectionHandle T) (spender from' : T.CrossAccountId)
    (token : TokenId) (amount : ℕ) (s : State T) : Option ℕ → Prop
  /-- The spender is the owner or its mirror. -/
  | self (hself : T.convEq spender from' = true) :
      SpenderAllowed handle spender from' token amount s none
  | privileged (hprivileged : handle.ignoresTokenRestrictions s spender = true) :
      SpenderAllowed handle spender from' token amount s
        (computeAllowanceDecrease s (handle.id, token) from' spender amount)
  | nested {source : Token} (hsource : T.addressToToken from' = some source)
      (howned : answersYes (checkIndirectlyOwned spender source none) s = true) :
      SpenderAllowed handle spender from' token amount s none
  | approved
      (happroved : amount ≤ s.refungible.allowance.getD ((handle.id, token), from', spender) 0) :
      SpenderAllowed handle spender from' token amount s
        (some (s.refungible.allowance.getD ((handle.id, token), from', spender) 0 - amount))
  /-- An operator whose allowance does not cover the amount. -/
  | operator
      (hoperator :
        s.refungible.collectionAllowance.getD (handle.id, from', spender) false = true) :
      SpenderAllowed handle spender from' token amount s none

section Spender

variable {spender from' : T.CrossAccountId}

theorem checkAllowed_eq :
    checkAllowed handle spender from' token amount =
      checkSpender handle spender from' none none
        (computeAllowanceDecrease · (handle.id, token) from' spender amount)
        (computeAllowanceDecrease · (handle.id, token) from' spender amount) fun s =>
          (computeAllowanceDecrease s (handle.id, token) from' spender amount).isSome = true ∨
            s.refungible.collectionAllowance.getD (handle.id, from', spender) false = true := rfl

theorem checkAllowed_ok {allowance : Option ℕ}
    (hrun : (checkAllowed handle spender from' token amount).run s = .ok allowance s') :
    SpendsBudget s s' ∧ SpenderAllowed handle spender from' token amount s allowance ∧
      (T.convEq spender from' = true ∨
        (handle.collection.permissions.access = .allowList →
          handle.allowlisted s spender = true)) ∧
      (T.convEq spender from' = true → allowance = none) := by
  rw [checkAllowed_eq] at hrun
  obtain ⟨hspend, ⟨hself, rfl⟩ | ⟨hother, hlisted, hallowed⟩⟩ := checkSpender_ok hrun
  · exact ⟨hspend, .self hself, .inl hself, fun _ => rfl⟩
  refine ⟨hspend, ?_, .inr hlisted, fun hself => absurd hself hother⟩
  rcases hallowed with ⟨hprivileged, rfl⟩ | ⟨⟨source, hsource, howned⟩, rfl⟩ | ⟨hcovered, rfl⟩
  · exact .privileged hprivileged
  · exact .nested hsource howned
  · cases hleft : computeAllowanceDecrease s (handle.id, token) from' spender amount with
    | some left =>
      obtain ⟨hle, hdiff⟩ := checkedSub_eq_some.mp hleft
      rw [← hdiff]
      exact .approved hle
    | none =>
      rw [hleft] at hcovered
      exact .operator (hcovered.resolve_left (by simp))

theorem checkAllowed_holds {A : (α : Type) → Exec T α → Prop} {E : Failure → Prop}
    (hA : CheckAnalysis State.storage A E) :
    A _ (checkAllowed handle spender from' token amount) := by
  rw [checkAllowed_eq]
  refine hA.checkSpender fun s t hstorage => ?_
  rw [State.eq_of_storage_eq hstorage]
  exact ⟨rfl, rfl, Iff.rfl⟩

end Spender

/-- The allowances after what is left of one is stored. -/
def storedAllowance (collection : CollectionId) (from' spender : T.CrossAccountId)
    (token : TokenId) (left : Option ℕ) (refungible : RefungibleStorage T) : RefungibleStorage T :=
  { refungible with
    allowance := left.elim refungible.allowance fun left =>
      refungible.allowance.putAmount ((collection, token), from', spender) left }

theorem storage_storeAllowance {from' spender : T.CrossAccountId} {left : Option ℕ} :
    (storeAllowance collection from' spender token left s).storage =
      (s.mapRefungible (storedAllowance collection from' spender token left)).storage := by
  unfold storeAllowance
  cases left <;> rfl

/-! ## Burning -/

/-- The account holds no pieces of the token any more. -/
def dropHolder (token : Token) (account : T.CrossAccountId) (refungible : RefungibleStorage T) :
    RefungibleStorage T :=
  { refungible with
    owned := refungible.owned.erase (token.1, account, token.2)
    accountBalance := refungible.accountBalance.insert (token.1, account)
      (refungible.accountBalance.getD (token.1, account) 0 - 1) }

/-- The account holds pieces of the token from now on. -/
def addHolder (token : Token) (account : T.CrossAccountId) (refungible : RefungibleStorage T) :
    RefungibleStorage T :=
  { refungible with
    owned := refungible.owned.insert (token.1, account, token.2) true
    accountBalance := refungible.accountBalance.insert (token.1, account)
      (refungible.accountBalance.getD (token.1, account) 0 + 1) }

/-- The storage after the last pieces of a token are burnt. -/
def burntToken (token : Token) (owner : T.CrossAccountId) (refungible : RefungibleStorage T) :
    RefungibleStorage T :=
  { dropHolder token owner refungible with
    tokensBurnt := refungible.tokensBurnt.insert token.1
      (refungible.tokensBurnt.getD token.1 0 + 1)
    tokenProperties := refungible.tokenProperties.erase token
    totalSupply := refungible.totalSupply.erase token
    balance := refungible.balance.eraseWhere fun key => key.1 = token
    allowance := refungible.allowance.eraseWhere fun key => key.1 = token }

theorem burnLastPieces_ok (hrun : (burnLastPieces handle owner token amount).run s = .ok () s') :
    balanceOf s (handle.id, token) owner = amount ∧
      1 ≤ accountBalanceOf s handle.id owner ∧
      s'.storage = (writeLedger (burntToken (handle.id, token) owner)
        (removeChild (nestingParent s owner) (handle.id, token) s.nonfungible.tokenChildren)
          s).storage := by
  simp only [burnLastPieces, burnTokenUnchecked, read_bind_ok, ensure_bind_ok, okOr_bind_ok,
    checkedSub_eq_some, update_bind_ok, unnestIfNested_bind_ok] at hrun
  obtain ⟨hall, _, ⟨hcounted, rfl⟩, hrun⟩ := hrun
  obtain ⟨s₁, hburn, hrun⟩ := bind_unit_ok.mp hrun
  simp only [read_bind_ok, okOr_bind_ok, checkedAdd_eq_some, update_ok] at hburn
  obtain ⟨_, ⟨_, rfl⟩, rfl⟩ := hburn
  obtain rfl := update_ok.mp hrun
  exact ⟨hall, hcounted, rfl⟩

/-- The ledger after an account is left with `balance` pieces. -/
def debited (token : Token) (account : T.CrossAccountId) (balance : ℕ)
    (refungible : RefungibleStorage T) : RefungibleStorage T :=
  let written :=
    { refungible with balance := refungible.balance.putAmount (token, account) balance }
  if balance = 0 then dropHolder token account written else written

theorem storage_logSoleOwner : (logSoleOwner collection token s).storage = s.storage := by
  unfold logSoleOwner
  split <;> rfl

theorem burnBalance_ok (hrun : (burnBalance handle owner token balance).run s = .ok () s') :
    (balance = 0 → 1 ≤ accountBalanceOf s handle.id owner) ∧
      s'.storage = (writeLedger (debited (handle.id, token) owner balance)
        (debitedChildren (nestingParent s owner) (handle.id, token) balance
          s.nonfungible.tokenChildren) s).storage := by
  rcases ite_ok.mp hrun with ⟨hzero, hrun⟩ | ⟨hpos, hrun⟩
  · simp only [removeHolder, read_bind_ok, okOr_bind_ok, checkedSub_eq_some, update_bind_ok,
      unnestIfNested_bind_ok, update_ok] at hrun
    obtain ⟨_, ⟨hcounted, rfl⟩, rfl⟩ := hrun
    refine ⟨fun _ => hcounted, ?_⟩
    rw [storage_logSoleOwner, hzero]
    rfl
  · obtain rfl := update_ok.mp hrun
    refine ⟨fun hzero => absurd hzero hpos, ?_⟩
    simp only [writeLedger, State.mapRefungible, debited, debitedChildren, if_neg hpos]
    rfl

/-- The state after `amount` pieces of `owner` are burnt. -/
def burntState (token : Token) (owner : T.CrossAccountId) (amount : ℕ) (s : State T) : State T :=
  let totalSupply := s.refungible.totalSupply.getD token 0 - amount
  if totalSupply = 0 then
    writeLedger (burntToken token owner)
      (removeChild (nestingParent s owner) token s.nonfungible.tokenChildren) s
  else
    writeLedger (fun refungible =>
        { debited token owner (balanceOf s token owner - amount) refungible with
          totalSupply := refungible.totalSupply.insert token totalSupply })
      (debitedChildren (nestingParent s owner) token (balanceOf s token owner - amount)
        s.nonfungible.tokenChildren) s

theorem storage_burntState_setBudget {token : Token} {amount budget : ℕ} :
    (burntState token owner amount (s.setBudget budget)).storage =
      (burntState token owner amount s).storage := by
  simp only [burntState, State.setBudget_refungible]
  split <;> rfl

/-- What a successful burn has checked. -/
structure BurnChecks (token : Token) (owner : T.CrossAccountId) (amount : ℕ) (s : State T) :
    Prop where
  holds : balanceOf s token owner ≠ 0
  supplied : amount ≤ s.refungible.totalSupply.getD token 0
  covered : amount ≤ balanceOf s token owner
  /-- Burning all pieces of a token takes the holder of all of them. -/
  last : amount = s.refungible.totalSupply.getD token 0 → balanceOf s token owner = amount
  counted : amount = balanceOf s token owner → 1 ≤ accountBalanceOf s token.1 owner

theorem burn_ok (hrun : (burn handle owner token amount).run s = .ok () s') :
    BurnChecks (handle.id, token) owner amount s ∧
      s'.storage = (burntState (handle.id, token) owner amount s).storage := by
  simp only [burn, read_bind_ok, ensure_bind_ok, okOr_bind_ok, checkedSub_eq_some] at hrun
  obtain ⟨hholds, _, ⟨hsupplied, rfl⟩, hrun⟩ := hrun
  unfold burntState
  rcases ite_ok.mp hrun with ⟨hzero, hrun⟩ | ⟨hpos, hrun⟩
  · obtain ⟨hall, hcounted, hstorage⟩ := burnLastPieces_ok hrun
    simp only [if_pos hzero]
    exact ⟨⟨hholds, hsupplied, hall.symm.le, fun _ => hall, fun _ => hcounted⟩, hstorage⟩
  · simp only [burnSomePieces, read_bind_ok, okOr_bind_ok, checkedSub_eq_some] at hrun
    obtain ⟨_, ⟨hcovered, rfl⟩, hrun⟩ := hrun
    obtain ⟨s₁, hbalance, hrun⟩ := bind_unit_ok.mp hrun
    obtain ⟨hcounted, hstorage⟩ := burnBalance_ok hbalance
    obtain rfl := update_ok.mp hrun
    refine ⟨⟨hholds, hsupplied, hcovered, fun heq => ?_, fun heq => hcounted (by omega)⟩, ?_⟩
    · exact absurd (by omega) hpos
    · simp only [if_neg hpos, State.storage_depositEvent, State.storage_depositLog]
      rw [State.storage_mapRefungible_congr hstorage]
      have hsupply : (debited (handle.id, token) owner
          (balanceOf s (handle.id, token) owner - amount) s.refungible).totalSupply =
          s.refungible.totalSupply := by
        unfold debited dropHolder
        split <;> rfl
      simp only [writeLedger, State.mapRefungible, State.setChildren, State.storage, hsupply]

/-! ## Transfers -/

/-- The ledger after `amount` pieces have moved between two accounts. -/
def movedPieces (token : Token) (from' to' : T.CrossAccountId) (balanceFrom balanceTo amount : ℕ)
    (refungible : RefungibleStorage T) : RefungibleStorage T :=
  let sent := debited token from' (balanceFrom - amount) refungible
  let received := { sent with balance := sent.balance.insert (token, to') (balanceTo + amount) }
  if balanceTo = 0 then addHolder token to' received else received

/-- The state after a transfer. -/
def transferredState (token : Token) (from' to' : T.CrossAccountId) (amount : ℕ) (s : State T) :
    State T :=
  if from' ≠ to' ∧ amount ≠ 0 then
    writeLedger (movedPieces token from' to' (balanceOf s token from') (balanceOf s token to')
        amount)
      (debitedChildren (nestingParent s from') token (balanceOf s token from' - amount)
        (addChild (nestingParent s to') token s.nonfungible.tokenChildren)) s
  else
    s

theorem storage_transferredState_setBudget {token : Token} {from' to' : T.CrossAccountId}
    {amount budget : ℕ} :
    (transferredState token from' to' amount (s.setBudget budget)).storage =
      (transferredState token from' to' amount s).storage := by
  unfold transferredState
  split <;> rfl

/-- What a successful transfer has checked. -/
structure TransferChecks (handle : CollectionHandle T) (depositor from' to' : T.CrossAccountId)
    (token : TokenId) (amount : ℕ) (s : State T) : Prop where
  access : handle.collection.permissions.access = .allowList →
    handle.allowlisted s from' = true ∧ handle.allowlisted s to' = true
  receiver : T.zeroAccount ≠ to'
  holds : balanceOf s (handle.id, token) from' ≠ 0
  covered : amount ≤ balanceOf s (handle.id, token) from'
  counted : amount = balanceOf s (handle.id, token) from' →
    1 ≤ accountBalanceOf s handle.id from'
  mayReceive : from' ≠ to' ∧ amount ≠ 0 → MayReceive s depositor to' (handle.id, token)

theorem accountBalanceFromAfter_ok {start : State T} {from' : T.CrossAccountId} {result : Option ℕ}
    (hrun : (accountBalanceFromAfter start collection from' balance).run s = .ok result s') :
    s = s' ∧ (balance = 0 → 1 ≤ accountBalanceOf start collection from') ∧
      result = if balance = 0 then some (accountBalanceOf start collection from' - 1)
      else none := by
  rcases ite_ok.mp hrun with ⟨hzero, hrun⟩ | ⟨hpos, hrun⟩
  · simp only [okOr_bind_ok, checkedSub_eq_some, pure_ok] at hrun
    obtain ⟨_, ⟨hcounted, rfl⟩, rfl, rfl⟩ := hrun
    exact ⟨rfl, fun _ => hcounted, (if_pos hzero).symm⟩
  · obtain ⟨rfl, rfl⟩ := pure_ok.mp hrun
    exact ⟨rfl, fun hzero => absurd hzero hpos, (if_neg hpos).symm⟩

theorem accountBalanceToAfter_ok {start : State T} {to' : T.CrossAccountId} {create : Bool}
    {result : Option ℕ}
    (hrun : (accountBalanceToAfter start handle to' create).run s = .ok result s') :
    s = s' ∧ result = if create = true then some (accountBalanceOf start handle.id to' + 1)
      else none := by
  rcases ite_ok.mp hrun with ⟨hcreate, hrun⟩ | ⟨hkeep, hrun⟩
  · simp only [okOr_bind_ok, checkedAdd_eq_some, ensure_bind_ok, pure_ok] at hrun
    obtain ⟨_, ⟨_, rfl⟩, _, rfl, rfl⟩ := hrun
    exact ⟨rfl, (if_pos hcreate).symm⟩
  · obtain ⟨rfl, rfl⟩ := pure_ok.mp hrun
    exact ⟨rfl, (if_neg hkeep).symm⟩

theorem debit_ok {token : Token} {account : T.CrossAccountId}
    (hrun : (debit token account balance).run s = .ok () s') :
    s' = writeLedger (fun refungible =>
        { refungible with balance := refungible.balance.putAmount (token, account) balance })
      (debitedChildren (nestingParent s account) token balance s.nonfungible.tokenChildren) s := by
  simp only [debit, update_bind_ok] at hrun
  unfold debitedChildren
  rcases ite_ok.mp hrun with ⟨hzero, hrun⟩ | ⟨hpos, hrun⟩
  · rw [if_pos hzero, ← unnestIfNested_ok.mp hrun]
    rfl
  · rw [if_neg hpos, ← (pure_ok.mp hrun).2]
    rfl

theorem storage_transferLogs {from' to' : T.CrossAccountId}
    {amount initial : ℕ} {updated : Option ℕ} :
    (transferLogs collection from' to' token amount initial updated s).storage = s.storage := by
  unfold transferLogs
  simp only
  split
  · rfl
  · cases updated with
    | none => rfl
    | some updated =>
      simp only
      split
      · rfl
      · split <;> rfl

/-- The move of pieces, with the counters computed before it. -/
theorem movePieces_ok {depositor from' to' : T.CrossAccountId} (hne : from' ≠ to')
    (hrun : (movePieces handle depositor from' to' token
      (balanceOf s (handle.id, token) from' - amount) (balanceOf s (handle.id, token) to' + amount)
      (if balanceOf s (handle.id, token) from' - amount = 0 then
        some (accountBalanceOf s handle.id from' - 1) else none)
      (if decide (balanceOf s (handle.id, token) to' = 0) = true then
        some (accountBalanceOf s handle.id to' + 1) else none)).run s = .ok () s') :
    MayReceive s depositor to' (handle.id, token) ∧
      s'.storage = (writeLedger (movedPieces (handle.id, token) from' to'
          (balanceOf s (handle.id, token) from') (balanceOf s (handle.id, token) to') amount)
        (debitedChildren (nestingParent s from') (handle.id, token)
          (balanceOf s (handle.id, token) from' - amount)
          (addChild (nestingParent s to') (handle.id, token) s.nonfungible.tokenChildren))
        s).storage := by
  obtain ⟨s₁, hnest, hrun⟩ := bind_unit_ok.mp hrun
  obtain ⟨hmay, left, _, rfl⟩ := nestIfSentToToken_ok hnest
  obtain ⟨s₂, hdebit, hrun⟩ := bind_unit_ok.mp hrun
  obtain rfl := debit_ok hdebit
  simp only [update_bind_ok, update_ok] at hrun
  subst hrun
  refine ⟨hmay, ?_⟩
  -- The counter of the receiver is not the one that was written for the sender.
  have hcounter : ∀ count, (s.refungible.accountBalance.insert (handle.id, from') count).getD
      (handle.id, to') 0 = accountBalanceOf s handle.id to' := by
    intro count
    rw [FiniteMap.getD_insert, if_neg fun heq => hne (Prod.mk.inj heq).2.symm]
    rfl
  simp only [movedPieces, debited, dropHolder, addHolder, writeLedger, State.mapRefungible,
    State.setChildren, State.storage, decide_eq_true_eq]
  by_cases hfrom : balanceOf s (handle.id, token) from' - amount = 0
  · by_cases hto : balanceOf s (handle.id, token) to' = 0
    · simp only [if_pos hfrom, if_pos hto, hcounter]
      rfl
    · simp only [if_pos hfrom, if_neg hto]
      rfl
  · by_cases hto : balanceOf s (handle.id, token) to' = 0
    · simp only [if_neg hfrom, if_pos hto]
      rfl
    · simp only [if_neg hfrom, if_neg hto]
      rfl

theorem transferInternal_ok {depositor from' to' : T.CrossAccountId}
    (hrun : (transferInternal handle depositor from' to' token amount).run s = .ok () s') :
    TransferChecks handle depositor from' to' token amount s ∧
      s'.storage = (transferredState (handle.id, token) from' to' amount s).storage := by
  simp only [transferInternal, ensure_bind_ok, CollectionHandle.checkAccess_bind_ok,
    ensureCorrectReceiver_bind_ok, read_bind_ok, okOr_bind_ok, checkedSub_eq_some] at hrun
  obtain ⟨_, haccess, hreceiver, hholds, _, ⟨hcovered, rfl⟩, hrun⟩ := hrun
  have hlisted : handle.collection.permissions.access = .allowList →
      handle.allowlisted s from' = true ∧ handle.allowlisted s to' = true := fun hlist =>
    ⟨haccess hlist _ (by simp), haccess hlist _ (by simp)⟩
  unfold transferredState
  rcases ite_ok.mp hrun with ⟨hmoves, hrun⟩ | ⟨hstays, hrun⟩
  · simp only [okOr_bind_ok, checkedAdd_eq_some] at hrun
    obtain ⟨_, ⟨_, rfl⟩, hrun⟩ := hrun
    obtain ⟨_, _, hfrom, hrun⟩ := bind_ok.mp hrun
    obtain ⟨rfl, hcounted, rfl⟩ := accountBalanceFromAfter_ok hfrom
    obtain ⟨_, _, hto, hrun⟩ := bind_ok.mp hrun
    obtain ⟨rfl, rfl⟩ := accountBalanceToAfter_ok hto
    obtain ⟨s₁, hmove, hrun⟩ := bind_unit_ok.mp hrun
    obtain ⟨hmay, hstorage⟩ := movePieces_ok hmoves.1 hmove
    obtain rfl := update_ok.mp hrun
    refine ⟨⟨hlisted, hreceiver, hholds, hcovered, fun heq => hcounted (by omega),
      fun _ => hmay⟩, ?_⟩
    rw [if_pos hmoves, storage_transferLogs, hstorage]
  · obtain ⟨_, _, hfrom, hrun⟩ := bind_ok.mp hrun
    obtain ⟨rfl, hcounted, rfl⟩ := accountBalanceFromAfter_ok hfrom
    obtain rfl := update_ok.mp hrun
    refine ⟨⟨hlisted, hreceiver, hholds, hcovered, fun heq => hcounted (by omega),
      fun hmoves => absurd hmoves hstays⟩, ?_⟩
    rw [if_neg hstays, storage_transferLogs]

/-! ## Repartition -/

/-- The state after the pieces of a token are counted anew. -/
def repartitionedState (token : Token) (owner : T.CrossAccountId) (amount : ℕ) (s : State T) :
    State T :=
  s.mapRefungible fun refungible =>
    { refungible with
      balance := refungible.balance.insert (token, owner) amount
      totalSupply := refungible.totalSupply.insert token amount }

/-! ## Properties -/

theorem preserves_checkTokenIndirectOwner :
    Preserves State.storage (checkTokenIndirectOwner handle sender token) :=
  .bind .read fun _ => .ite .pure checks_preserve.checkIndirectlyOwned

/-- A write of properties changes those of its token at most. -/
theorem modifyTokenProperties_ok {updates : List PropertyUpdate}
    (hrun : (modifyTokenProperties handle sender token updates).run s = .ok () s') :
    s'.storage = s.storage ∨ ∃ properties, s'.storage = (s.mapRefungible fun refungible =>
      { refungible with
        tokenProperties :=
          refungible.tokenProperties.insert (handle.id, token) properties }).storage := by
  obtain ⟨s₁, hstorage, hwritten⟩ := writeExistingTokenProperties_ok
    preserves_checkTokenIndirectOwner (transactional_ok.mp hrun)
  rcases hwritten with rfl | ⟨properties, rfl⟩
  · exact .inl hstorage
  · exact .inr ⟨properties, State.storage_mapRefungible_congr hstorage⟩

end UniqueChain.Refungible
