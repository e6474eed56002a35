import UniqueChain.Refungible.Ledger

/-!
# What hangs on the pieces of a refungible token

Two maps repeat what the ledger says of a token.  `Owned` lists the accounts that
hold pieces of it, and every account listed there does (`ListedHold`).  `Allowance`
belongs to tokens that exist (`ApprovedExist`), as long as nobody uses an allowance
that exceeds the supply to burn the last pieces: `burn_from` writes down what is
left of the allowance after `burn` has deleted the token.
-/

namespace UniqueChain.Refungible

open FiniteMap

variable {T : Config} {s s' : State T} {refungible : RefungibleStorage T} {token : Token}
  {account from' to' spender : T.CrossAccountId} {amount : ℕ} {left : Option ℕ}

variable {handle : CollectionHandle T} {collection : CollectionId} {number : TokenId}
  {accountBalance : FiniteMap (CollectionId × T.CrossAccountId) ℕ}
  {tokenProperties : FiniteMap Token TokenProperties} {items : List (CreateItemData T × TokenId)}
  {call : RefungibleCall T}

/-! ## The list of holders -/

/-- Every account that is listed as an owner of a token holds pieces of it. -/
def ListedHold (refungible : RefungibleStorage T) : Prop :=
  ∀ collection account token, refungible.owned.get (collection, account, token) ≠ none →
    refungible.balance.get ((collection, token), account) ≠ none

/-- Where one account holds the whole supply, no other has an entry. -/
theorem Pieces.get_eq_none (hpieces : Pieces refungible)
    (hall : refungible.balance.getD (token, account) 0 = refungible.totalSupply.getD token 0)
    {other : T.CrossAccountId} (hother : other ≠ account) :
    refungible.balance.get (token, other) = none := by
  have hnothing := getD_eq_zero_of_getD_eq_sumOf (hall.trans (hpieces.supply token)) hother
  by_contra hentry
  obtain ⟨held, hget⟩ := Option.ne_none_iff_exists'.mp hentry
  rw [getD_of_get hget] at hnothing
  subst hnothing
  exact hpieces.positive _ hget

namespace ListedHold

variable (token account) in
theorem debited (hlisted : ListedHold refungible) (balance : ℕ) :
    ListedHold (Refungible.debited token account balance refungible) := by
  intro collection holder number howned
  have hbefore := hlisted collection holder number
  unfold Refungible.debited dropHolder at howned ⊢
  by_cases hzero : balance = 0
  · simp only [if_pos hzero] at howned ⊢
    grind
  · simp only [if_neg hzero] at howned ⊢
    grind

theorem moved (hlisted : ListedHold refungible) (balanceFrom balanceTo : ℕ) :
    ListedHold (movedPieces token from' to' balanceFrom balanceTo amount refungible) := by
  intro collection holder number howned
  have hsent := hlisted.debited token from' (balanceFrom - amount) collection holder number
  unfold movedPieces addHolder at howned ⊢
  by_cases hnew : balanceTo = 0
  · simp only [if_pos hnew] at howned ⊢
    grind
  · simp only [if_neg hnew] at howned ⊢
    grind

/-- The last pieces go with their holder, and there is no other. -/
theorem burntAll (hlisted : ListedHold refungible) (hpieces : Pieces refungible)
    (hall : refungible.balance.getD (token, account) 0 = refungible.totalSupply.getD token 0) :
    ListedHold (burntToken token account refungible) := by
  intro collection holder number howned
  simp only [burntToken, dropHolder, get_erase] at howned ⊢
  have hkey : (collection, holder, number) ≠ (token.1, account, token.2) := by
    intro heq
    simp [heq] at howned
  rw [if_neg hkey] at howned
  have hholds := hlisted collection holder number howned
  have hother : (collection, number) ≠ token := by
    rintro rfl
    exact hholds (hpieces.get_eq_none hall fun heq => hkey (by rw [heq]))
  rw [get_eraseWhere, if_neg hother]
  exact hholds

theorem repartitioned (hlisted : ListedHold refungible) :
    ListedHold { refungible with
      balance := refungible.balance.insert (token, account) amount
      totalSupply := refungible.totalSupply.insert token amount } := by
  intro collection holder number howned
  have hbefore := hlisted collection holder number howned
  grind

theorem minted (hlisted : ListedHold refungible) :
    ListedHold (mintedStorage collection items accountBalance tokenProperties refungible) := by
  intro other holder number howned
  simp only [mintedStorage, writeItems, givePieces, get_insertEach_ne_none] at howned ⊢
  rcases howned with ⟨piece, hpiece, hkey⟩ | hbefore
  · cases hkey
    exact .inl ⟨piece, hpiece, rfl⟩
  · exact .inr (hlisted other holder number hbefore)

theorem stored (hlisted : ListedHold refungible) :
    ListedHold (storedAllowance collection from' spender number left refungible) :=
  hlisted

theorem cleared (hlisted : ListedHold refungible) :
    ListedHold (clearCollection collection refungible) := by
  intro other holder number howned
  have hbefore := hlisted other holder number
  simp only [clearCollection] at howned ⊢
  grind

theorem transferredState (hlisted : ListedHold s.refungible) :
    ListedHold (Refungible.transferredState token from' to' amount s).refungible := by
  unfold Refungible.transferredState
  split
  · exact hlisted.moved _ _
  · exact hlisted

theorem burntState (hlisted : ListedHold s.refungible) (hpieces : Pieces s.refungible)
    (hchecks : BurnChecks token account amount s) :
    ListedHold (Refungible.burntState token account amount s).refungible := by
  unfold Refungible.burntState
  simp only
  split
  · rename_i hzero
    have hamount : amount = s.refungible.totalSupply.getD token 0 := by
      have hsupplied := hchecks.supplied
      omega
    exact hlisted.burntAll hpieces ((hchecks.last hamount).trans hamount)
  · exact hlisted.debited token account _

end ListedHold

theorem Step.listedHold (hpieces : Pieces s.refungible) (hlisted : ListedHold s.refungible)
    (hstep : Step handle s call s') : ListedHold s'.refungible := by
  cases hstep with
  | createMultipleItems hchecks hkept => exact hlisted.minted
  | transfer hchecks => exact hlisted.transferredState
  | transferFrom hallowed haccess hchecks => exact hlisted.transferredState.stored
  | burn hchecks => exact hlisted.burntState hpieces hchecks
  | burnFrom hallowed haccess hchecks hself => exact (hlisted.burntState hpieces hchecks).stored
  | repartition hmax hpos hall => exact hlisted.repartitioned
  | _ => exact hlisted

theorem StorageStep.listedHold {call : Call T} (hpieces : Pieces s.refungible)
    (hlisted : ListedHold s.refungible) (hstep : StorageStep s call refungible) :
    ListedHold refungible := by
  cases hstep with
  | operation hcall hfound hoperation => exact hoperation.listedHold hpieces hlisted
  | cleared hempty => exact hlisted.cleared
  | unchanged => exact hlisted

theorem listedHold_of_reachable (hreachable : Reachable s) : ListedHold s.refungible :=
  (hreachable.invariant (OfStorage.refungible fun refungible =>
      Ledger refungible ∧ ListedHold refungible)
    (fun _ => ⟨.empty, fun _ _ _ howned => absurd rfl howned⟩)
    fun _ _ _ hbefore hstep => ⟨hstep.pallets.refungible.ledger hbefore.1,
      hstep.pallets.refungible.listedHold hbefore.1.toPieces hbefore.2⟩).2

/-! ## Allowances -/

/-- Allowances are recorded for existing tokens only. -/
def ApprovedExist (refungible : RefungibleStorage T) : Prop :=
  ∀ key, refungible.allowance.get key ≠ none → refungible.totalSupply.get key.1 ≠ none

/-- A burn of all pieces uses up the allowance it is made with: it is made by the
holder, or with an allowance that does not exceed the supply. -/
def UsesUpAllowance (s : State T) : Call T → Prop
  | .refungible collection (.burnFrom spender from' token amount) =>
    amount = s.refungible.totalSupply.getD (collection, token) 0 →
      T.convEq spender from' = true ∨
        s.refungible.allowance.getD ((collection, token), from', spender) 0 ≤ amount
  | _ => True

/-- Then nothing of it is left to be written down. -/
theorem SpenderAllowed.left_eq (hallowed : SpenderAllowed handle spender from' number amount s left)
    (hall : s.refungible.allowance.getD ((handle.id, number), from', spender) 0 ≤ amount) :
    left = none ∨ left = some 0 := by
  cases hallowed with
  | privileged hprivileged =>
    unfold computeAllowanceDecrease checkedSub
    split
    · exact .inr (by rw [Nat.sub_eq_zero_of_le hall])
    · exact .inl rfl
  | approved happroved => exact .inr (by rw [Nat.sub_eq_zero_of_le hall])
  | _ => exact .inl rfl

theorem totalSupply_transferredState :
    (transferredState token from' to' amount s).refungible.totalSupply =
      s.refungible.totalSupply := by
  unfold transferredState
  split
  · obtain ⟨owned, accountBalance, hmoved⟩ := movedPieces_eq s.refungible token from' to'
      (balanceOf s token from') (balanceOf s token to') amount
    simp only [writeLedger, State.setChildren, State.mapRefungible, hmoved]
  · rfl

theorem allowance_transferredState :
    (transferredState token from' to' amount s).refungible.allowance = s.refungible.allowance := by
  unfold transferredState
  split
  · obtain ⟨owned, accountBalance, hmoved⟩ := movedPieces_eq s.refungible token from' to'
      (balanceOf s token from') (balanceOf s token to') amount
    simp only [writeLedger, State.setChildren, State.mapRefungible, hmoved]
  · rfl

namespace ApprovedExist

/-- An allowance may be written for a token that exists; zero is not written. -/
theorem stored (happroved : ApprovedExist refungible)
    (hexists : ∀ amount, left = some amount → amount ≠ 0 →
      refungible.totalSupply.get (collection, number) ≠ none) :
    ApprovedExist (storedAllowance collection from' spender number left refungible) := by
  intro key hkey
  cases left with
  | none => exact happroved key hkey
  | some amount =>
    simp only [storedAllowance, Option.elim_some, get_putAmount] at hkey ⊢
    by_cases hwritten : key = ((collection, number), from', spender)
    · rw [if_pos hwritten] at hkey
      rw [hwritten]
      refine hexists amount rfl fun hzero => ?_
      rw [if_pos hzero] at hkey
      exact hkey rfl
    · rw [if_neg hwritten] at hkey
      exact happroved key hkey

theorem minted (happroved : ApprovedExist refungible) :
    ApprovedExist (mintedStorage collection items accountBalance tokenProperties refungible) := by
  intro key hkey
  simp only [mintedStorage, writeItems, givePieces, get_insertEach_ne_none]
  exact .inr (happroved key hkey)

theorem transferredState (happroved : ApprovedExist s.refungible) :
    ApprovedExist (Refungible.transferredState token from' to' amount s).refungible := by
  intro key hkey
  rw [allowance_transferredState] at hkey
  rw [totalSupply_transferredState]
  exact happroved key hkey

theorem burntState (happroved : ApprovedExist s.refungible) :
    ApprovedExist (Refungible.burntState token account amount s).refungible := by
  intro key hkey
  have hbefore := happroved key
  unfold Refungible.burntState at hkey ⊢
  simp only at hkey ⊢
  split at hkey
  · rename_i hzero
    rw [if_pos hzero]
    simp only [writeLedger, State.setChildren, State.mapRefungible, burntToken,
      dropHolder] at hkey ⊢
    grind
  · rename_i hleft
    rw [if_neg hleft]
    obtain ⟨owned, accountBalance, hdebited⟩ :=
      debited_eq s.refungible token account (balanceOf s token account - amount)
    simp only [writeLedger, State.setChildren, State.mapRefungible, hdebited] at hkey ⊢
    grind

theorem cleared (happroved : ApprovedExist refungible) :
    ApprovedExist (clearCollection collection refungible) := by
  intro key hkey
  have hbefore := happroved key
  simp only [clearCollection] at hkey ⊢
  grind

end ApprovedExist

/-- A token of which pieces are left after a burn still exists. -/
theorem get_totalSupply_burntState (hleft : s.refungible.totalSupply.getD token 0 - amount ≠ 0) :
    (burntState token account amount s).refungible.totalSupply.get token ≠ none := by
  unfold burntState
  simp only [if_neg hleft, writeLedger, State.setChildren, State.mapRefungible, get_insert_self]
  exact Option.some_ne_none _

/-- Who has a positive amount covered by its pieces approves an existing token. -/
theorem Ledger.exists_of_covered (hledger : Ledger s.refungible) {permitted : Prop}
    (hcovered : amount ≤ balanceOf s token account ∨ permitted ∧ tokenExists s token = true)
    (hpos : amount ≠ 0) : s.refungible.totalSupply.get token ≠ none := by
  rcases hcovered with hheld | ⟨_, hexists⟩
  · have hholds : s.refungible.balance.getD (token, account) 0 ≠ 0 := by
      unfold balanceOf at hheld
      omega
    obtain ⟨supply, hsupply⟩ := hledger.exists_of_balance hholds
    rw [hsupply]
    exact Option.some_ne_none _
  · exact Option.isSome_iff_ne_none.mp hexists

theorem Step.approvedExist (hledger : Ledger s.refungible) (happroved : ApprovedExist s.refungible)
    (hused : UsesUpAllowance s (.refungible handle.id call)) (hstep : Step handle s call s') :
    ApprovedExist s'.refungible := by
  cases hstep with
  | createMultipleItems hchecks hkept => exact happroved.minted
  | transfer hchecks => exact happroved.transferredState
  | transferFrom hallowed haccess hchecks =>
    refine happroved.transferredState.stored fun _ _ _ => ?_
    obtain ⟨supply, hsupply⟩ := hledger.exists_of_balance hchecks.holds
    rw [totalSupply_transferredState, hsupply]
    exact Option.some_ne_none _
  | burn hchecks => exact happroved.burntState
  | @burnFrom spender from' token amount left hallowed haccess hchecks hself =>
    refine happroved.burntState.stored fun kept hkept hpos => ?_
    by_cases hlast : amount = s.refungible.totalSupply.getD (handle.id, token) 0
    · -- the last pieces: nothing is left of the allowance
      have hnothing : left = none ∨ left = some 0 := by
        rcases hused hlast with hholder | hle
        · exact .inl (hself hholder)
        · exact hallowed.left_eq hle
      rcases hnothing with hnone | hzero
      · rw [hnone] at hkept
        cases hkept
      · rw [hzero] at hkept
        cases hkept
        exact absurd rfl hpos
    · refine get_totalSupply_burntState ?_
      have hsupplied := hchecks.supplied
      omega
  | repartition hmax hpos hall =>
    intro key hkey
    have hbefore := happroved key hkey
    simp only [repartitionedState, State.mapRefungible]
    grind
  | setAllowance haccess hcovered =>
    refine happroved.stored fun _ hamount hpos => ?_
    cases hamount
    exact hledger.exists_of_covered hcovered hpos
  | setAllowanceFrom haccess hmirror hcovered =>
    refine happroved.stored fun _ hamount hpos => ?_
    cases hamount
    exact hledger.exists_of_covered hcovered hpos
  | setAllowanceForAll => exact happroved
  | modifyTokenProperties hkept happly => exact happroved

theorem StorageStep.approvedExist {call : Call T} (hledger : Ledger s.refungible)
    (happroved : ApprovedExist s.refungible) (hused : UsesUpAllowance s call)
    (hstep : StorageStep s call refungible) : ApprovedExist refungible := by
  cases hstep with
  | operation hcall hfound hoperation =>
    rw [hcall] at hused
    exact hoperation.approvedExist hledger happroved hused
  | cleared hempty => exact happroved.cleared
  | unchanged => exact happroved

/-- In a run in which burns of last pieces use up their allowance, every allowance
belongs to a token that exists. -/
theorem approvedExist_of_reaches {balances : T.Balances} {history : History T}
    (hrun : Reaches balances history s)
    (hused : ∀ event ∈ history, UsesUpAllowance event.state event.call.call) :
    ApprovedExist s.refungible :=
  Reaches.invariant_of_base (fun s => Ledger s.refungible)
    (fun s extrinsic => UsesUpAllowance s extrinsic.call) (OfStorage.refungible Ledger)
    ledger_of_reachable (OfStorage.refungible ApprovedExist)
    (fun _ hkey => absurd rfl hkey)
    (fun _ _ _ hledger happroved hallowed hstep =>
      hstep.pallets.refungible.approvedExist hledger happroved hallowed)
    hrun hused

end UniqueChain.Refungible
