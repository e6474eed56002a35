import UniqueChain.Model.Fungible
import UniqueChain.Nesting.Storage

/-!
# What the operations on fungible tokens do

For every operation of the pallet: the checks a successful call has passed, and
the storage it leaves.  A fungible operation changes the fungible storage and
the index of children, and nothing else.
-/

namespace UniqueChain.Fungible

open Execution CollectionDispatch

variable {T : Config} {s s' : State T} {handle : CollectionHandle T}

variable {collection : CollectionId} {amount : ℕ} {entries : List (T.CrossAccountId × ℕ)}

/-- The balance of an account. -/
def balanceOf (s : State T) (collection : CollectionId) (account : T.CrossAccountId) : ℕ :=
  s.fungible.balance.getD (collection, account) 0

/-- The storage after balances and index are written. -/
def writeBalances (balance : FiniteMap (CollectionId × T.CrossAccountId) ℕ) (children : Children)
    (s : State T) : State T :=
  (s.mapFungible fun fungible => { fungible with balance }).setChildren children

/-! ## Approvals -/

/-- What a passed check of a spender means, and the allowance to be stored. -/
inductive SpenderAllowed (handle : CollectionHandle T) (spender from' : T.CrossAccountId)
    (amount : ℕ) (s : State T) : Option ℕ → Prop
  /-- The spender is the owner or its mirror. -/
  | self (hself : T.convEq spender from' = true) : SpenderAllowed handle spender from' amount s none
  | privileged (hprivileged : handle.ignoresTokenRestrictions s spender = true) :
      SpenderAllowed handle spender from' amount s
        (computeAllowanceDecrease s handle.id from' spender amount)
  | nested {source : Token} (hsource : T.addressToToken from' = some source)
      (howned : answersYes (checkIndirectlyOwned spender source none) s = true) :
      SpenderAllowed handle spender from' amount s none
  | approved (happroved : amount ≤ s.fungible.allowance.getD (handle.id, from', spender) 0) :
      SpenderAllowed handle spender from' amount s
        (some (s.fungible.allowance.getD (handle.id, from', spender) 0 - amount))

section Spender

variable {spender from' : T.CrossAccountId}

theorem checkAllowed_eq :
    checkAllowed handle spender from' amount =
      checkSpender handle spender from' none none
        (computeAllowanceDecrease · handle.id from' spender amount)
        (computeAllowanceDecrease · handle.id from' spender amount)
        fun s => (computeAllowanceDecrease s handle.id from' spender amount).isSome = true := rfl

theorem checkAllowed_ok {allowance : Option ℕ}
    (hrun : (checkAllowed handle spender from' amount).run s = .ok allowance s') :
    SpendsBudget s s' ∧ SpenderAllowed handle spender from' amount s allowance ∧
      (T.convEq spender from' = true ∨
        (handle.collection.permissions.access = .allowList →
          handle.allowlisted s spender = true)) := by
  rw [checkAllowed_eq] at hrun
  obtain ⟨hspend, ⟨hself, rfl⟩ | ⟨_, hlisted, hallowed⟩⟩ := checkSpender_ok hrun
  · exact ⟨hspend, .self hself, .inl hself⟩
  refine ⟨hspend, ?_, .inr hlisted⟩
  rcases hallowed with ⟨hprivileged, rfl⟩ | ⟨⟨source, hsource, howned⟩, rfl⟩ | ⟨hsome, rfl⟩
  · exact .privileged hprivileged
  · exact .nested hsource howned
  · obtain ⟨left, hleft⟩ := Option.isSome_iff_exists.mp hsome
    obtain ⟨hle, hdiff⟩ := checkedSub_eq_some.mp hleft
    rw [hleft, ← hdiff]
    exact .approved hle

theorem checkAllowed_holds {A : (α : Type) → Exec T α → Prop} {E : Failure → Prop}
    (hA : CheckAnalysis State.storage A E) : A _ (checkAllowed handle spender from' amount) := by
  rw [checkAllowed_eq]
  refine hA.checkSpender fun s t hstorage => ?_
  rw [State.eq_of_storage_eq hstorage]
  exact ⟨rfl, rfl, Iff.rfl⟩

end Spender

/-- The allowances after what is left of one is stored. -/
def storedAllowance (collection : CollectionId) (from' spender : T.CrossAccountId)
    (left : Option ℕ) (fungible : FungibleStorage T) : FungibleStorage T :=
  { fungible with
    allowance := left.elim fungible.allowance fun left =>
      fungible.allowance.putAmount (collection, from', spender) left }

theorem storage_storeAllowance {from' spender : T.CrossAccountId} {left : Option ℕ} :
    (storeAllowance collection from' spender left s).storage =
      (s.mapFungible (storedAllowance collection from' spender left)).storage := by
  unfold storeAllowance
  cases left <;> rfl

/-! ## Burning -/

theorem debit_ok {account : T.CrossAccountId} {balance : ℕ}
    (hrun : (debit collection account balance).run s = .ok () s') :
    s' = writeBalances (s.fungible.balance.putAmount (collection, account) balance)
      (debitedChildren (nestingParent s account) (collection, defaultToken) balance
        s.nonfungible.tokenChildren) s := by
  simp only [debit, update_bind_ok] at hrun
  unfold debitedChildren
  rcases ite_ok.mp hrun with ⟨hzero, hrun⟩ | ⟨hpos, hrun⟩
  · rw [if_pos hzero, ← unnestIfNested_ok.mp hrun]
    rfl
  · rw [if_neg hpos, ← (pure_ok.mp hrun).2]
    rfl

/-- The storage after `amount` of `owner` is burnt. -/
def burntState (collection : CollectionId) (owner : T.CrossAccountId) (amount : ℕ)
    (s : State T) : State T :=
  (s.mapFungible fun fungible =>
    { fungible with
      totalSupply := fungible.totalSupply.insert collection
        (fungible.totalSupply.getD collection 0 - amount)
      balance := fungible.balance.putAmount (collection, owner)
        (balanceOf s collection owner - amount) }).setChildren
    (debitedChildren (nestingParent s owner) (collection, defaultToken)
      (balanceOf s collection owner - amount) s.nonfungible.tokenChildren)

/-- What a successful burn has checked. -/
structure BurnChecks (handle : CollectionHandle T) (owner : T.CrossAccountId) (amount : ℕ)
    (s : State T) : Prop where
  supplied : amount ≤ s.fungible.totalSupply.getD handle.id 0
  covered : amount ≤ balanceOf s handle.id owner
  access : handle.collection.permissions.access = .allowList → handle.allowlisted s owner = true

theorem burn_ok {owner : T.CrossAccountId} (hrun : (burn handle owner amount).run s = .ok () s') :
    BurnChecks handle owner amount s ∧
      s'.storage = (burntState handle.id owner amount s).storage := by
  simp only [burn, read_bind_ok, okOr_bind_ok, checkedSub_eq_some,
    CollectionHandle.checkAccess_bind_ok] at hrun
  obtain ⟨_, ⟨hsupply, rfl⟩, _, ⟨hbalance, rfl⟩, haccess, hrun⟩ := hrun
  obtain ⟨middle, hdebit, hrun⟩ := bind_unit_ok.mp hrun
  obtain rfl := debit_ok hdebit
  obtain rfl := update_ok.mp hrun
  exact ⟨⟨hsupply, hbalance, fun hlist => haccess hlist _ (by simp)⟩, rfl⟩

/-! ## Transfers -/

/-- The storage after a transfer. -/
def transferredState (collection : CollectionId) (from' to' : T.CrossAccountId) (amount : ℕ)
    (s : State T) : State T :=
  if from' ≠ to' ∧ amount ≠ 0 then
    writeBalances ((s.fungible.balance.putAmount (collection, from')
        (balanceOf s collection from' - amount)).insert (collection, to')
        (balanceOf s collection to' + amount))
      (debitedChildren (nestingParent s from') (collection, defaultToken)
        (balanceOf s collection from' - amount)
        (addChild (nestingParent s to') (collection, defaultToken) s.nonfungible.tokenChildren)) s
  else
    s

/-- What a successful transfer has checked. -/
structure TransferChecks (handle : CollectionHandle T) (depositor from' to' : T.CrossAccountId)
    (amount : ℕ) (s : State T) : Prop where
  access : handle.collection.permissions.access = .allowList →
    handle.allowlisted s from' = true ∧ handle.allowlisted s to' = true
  receiver : T.zeroAccount ≠ to'
  covered : amount ≤ balanceOf s handle.id from'
  mayReceive : from' ≠ to' ∧ amount ≠ 0 → MayReceive s depositor to' (handle.id, defaultToken)

theorem moveBalance_ok {depositor from' to' : T.CrossAccountId} {balanceFrom balanceTo : ℕ}
    (hrun : (moveBalance handle depositor from' to' balanceFrom balanceTo).run s = .ok () s') :
    MayReceive s depositor to' (handle.id, defaultToken) ∧
      s'.storage = (writeBalances ((s.fungible.balance.putAmount (handle.id, from')
          balanceFrom).insert (handle.id, to') balanceTo)
        (debitedChildren (nestingParent s from') (handle.id, defaultToken) balanceFrom
          (addChild (nestingParent s to') (handle.id, defaultToken)
            s.nonfungible.tokenChildren)) s).storage := by
  obtain ⟨s₁, hnest, hrun⟩ := bind_unit_ok.mp hrun
  obtain ⟨hmay, left, _, rfl⟩ := nestIfSentToToken_ok hnest
  obtain ⟨s₂, hdebit, hrun⟩ := bind_unit_ok.mp hrun
  obtain rfl := debit_ok hdebit
  obtain rfl := update_ok.mp hrun
  exact ⟨hmay, rfl⟩

theorem transferInternal_ok {depositor from' to' : T.CrossAccountId}
    (hrun : (transferInternal handle depositor from' to' amount).run s = .ok () s') :
    TransferChecks handle depositor from' to' amount s ∧
      s'.storage = (transferredState handle.id from' to' amount s).storage := by
  simp only [transferInternal, ensure_bind_ok, CollectionHandle.checkAccess_bind_ok,
    ensureCorrectReceiver_bind_ok, read_bind_ok, okOr_bind_ok, checkedSub_eq_some] at hrun
  obtain ⟨_, haccess, hreceiver, _, ⟨hcovered, rfl⟩, hrun⟩ := hrun
  have hlisted : handle.collection.permissions.access = .allowList →
      handle.allowlisted s from' = true ∧ handle.allowlisted s to' = true := fun hlist =>
    ⟨haccess hlist _ (by simp), haccess hlist _ (by simp)⟩
  unfold transferredState
  rcases ite_ok.mp hrun with ⟨hmoves, hrun⟩ | ⟨hstays, hrun⟩
  · simp only [okOr_bind_ok, checkedAdd_eq_some] at hrun
    obtain ⟨_, ⟨_, rfl⟩, hrun⟩ := hrun
    obtain ⟨s₁, hmove, hrun⟩ := bind_unit_ok.mp hrun
    obtain ⟨hmay, hstorage⟩ := moveBalance_ok hmove
    obtain rfl := update_ok.mp hrun
    exact ⟨⟨hlisted, hreceiver, hcovered, fun _ => hmay⟩, by rw [if_pos hmoves]; exact hstorage⟩
  · obtain rfl := update_ok.mp hrun
    refine ⟨⟨hlisted, hreceiver, hcovered, fun hmoves => absurd hmoves hstays⟩, ?_⟩
    rw [if_neg hstays]
    rfl

/-! ## Minting -/

theorem updatedBalances_eq_some {items : List (T.CrossAccountId × ℕ × ℕ)}
    (hitems : updatedBalances s collection entries = some items) :
    items = entries.map fun entry =>
      (entry.1, entry.2, balanceOf s collection entry.1 + entry.2) := by
  induction entries generalizing items with
  | nil =>
    simp only [updatedBalances, Option.some.injEq] at hitems
    exact hitems.symm
  | cons entry rest ih =>
    simp only [updatedBalances, Option.bind_eq_bind, Option.bind_eq_some_iff,
      checkedAdd_eq_some, Option.some.injEq] at hitems
    obtain ⟨_, ⟨_, rfl⟩, others, hothers, rfl⟩ := hitems
    rw [ih hothers]
    rfl

/-- The balances after a mint of the listed amounts. -/
def mintedBalance (s : State T) (collection : CollectionId) (entries : List (T.CrossAccountId × ℕ))
    (balance : FiniteMap (CollectionId × T.CrossAccountId) ℕ) :
    FiniteMap (CollectionId × T.CrossAccountId) ℕ :=
  balance.insertEach entries (fun entry => (collection, entry.1)) fun entry =>
    balanceOf s collection entry.1 + entry.2

/-- The index after a mint to the listed accounts. -/
def mintedChildren (s : State T) (collection : CollectionId) (accounts : List T.CrossAccountId)
    (children : Children) : Children :=
  accounts.foldl (fun children account =>
    addChild (nestingParent s account) (collection, defaultToken) children) children

/-- The storage after a mint. -/
def mintedState (collection : CollectionId) (data : AssocMap T.CrossAccountId ℕ) (s : State T) :
    State T :=
  (s.mapFungible fun fungible =>
    { fungible with
      totalSupply := fungible.totalSupply.insert collection
        (fungible.totalSupply.getD collection 0 + data.values.sum)
      balance := mintedBalance s collection data.entries fungible.balance }).setChildren
    (mintedChildren s collection data.keys s.nonfungible.tokenChildren)

theorem mintItem_ok {item : T.CrossAccountId × ℕ × ℕ}
    (hrun : (mintItem collection item).run s = .ok () s') :
    s'.storage = (writeBalances (s.fungible.balance.insert (collection, item.1) item.2.2)
      (addChild (nestingParent s item.1) (collection, defaultToken) s.nonfungible.tokenChildren)
        s).storage := by
  simp only [mintItem, update_bind_ok] at hrun
  obtain ⟨s₁, hnest, hrun⟩ := bind_unit_ok.mp hrun
  obtain rfl := nestIfSentToTokenUnchecked_ok hnest
  obtain rfl := update_ok.mp hrun
  rfl

/-- The loop over the receivers.  The amounts are those of the state `start` in
which they were computed. -/
theorem forEach_mintItem_ok {start : State T} (hcommon : s.common = start.common)
    (hrun : (forEach (mintItem collection) (entries.map fun entry =>
      (entry.1, entry.2, balanceOf start collection entry.1 + entry.2))).run s = .ok () s') :
    s'.storage = (writeBalances (mintedBalance start collection entries s.fungible.balance)
      (mintedChildren start collection (entries.map Prod.fst) s.nonfungible.tokenChildren)
        s).storage := by
  induction entries generalizing s with
  | nil =>
    obtain rfl := forEach_nil_ok.mp hrun
    rfl
  | cons entry rest ih =>
    obtain ⟨s₁, hitem, hrest⟩ := forEach_cons_ok.mp hrun
    have hstorage := mintItem_ok hitem
    obtain ⟨hcommon₁, hnonfungible₁, hfungible₁, _⟩ := State.storage_eq_iff.mp hstorage
    have hloop := ih (hcommon₁.trans hcommon) hrest
    rw [hloop, hnonfungible₁, hfungible₁]
    unfold writeBalances
    rw [State.storage_setChildren_congr (State.storage_mapFungible_congr hstorage)]
    simp only [writeBalances, nestingParent_congr hcommon]
    rfl

/-- What a successful mint has checked. -/
structure MintChecks (handle : CollectionHandle T) (depositor : T.CrossAccountId)
    (data : AssocMap T.CrossAccountId ℕ) (s : State T) : Prop where
  authority : handle.isOwnerOrAdmin s depositor = true ∨
    handle.collection.permissions.mintMode = true ∧
      ∀ owner ∈ depositor :: data.keys, handle.allowlisted s owner = true
  width : s.fungible.totalSupply.getD handle.id 0 ≤ u128Max →
    s.fungible.totalSupply.getD handle.id 0 + data.values.sum ≤ u128Max
  mayReceive : ∀ account ∈ data.keys, MayReceive s depositor account (handle.id, defaultToken)

theorem createMultipleItems_ok {depositor : T.CrossAccountId} {data : AssocMap T.CrossAccountId ℕ}
    (hrun : (createMultipleItems handle depositor data).run s = .ok () s') :
    MintChecks handle depositor data s ∧
      s'.storage = (mintedState handle.id data s).storage := by
  simp only [createMultipleItems, CollectionHandle.checkMintAuthority_bind_ok, read_bind_ok,
    okOr_bind_ok] at hrun
  obtain ⟨hauthority, totalSupply, hsupply, hrun⟩ := hrun
  obtain ⟨s₁, hnesting, hrun⟩ := bind_unit_ok.mp hrun
  obtain ⟨⟨left, _, rfl⟩, hmay⟩ := forEach_checkNesting_ok hnesting
  simp only [okOr_bind_ok, update_bind_ok] at hrun
  obtain ⟨items, hitems, hrun⟩ := hrun
  obtain rfl := updatedBalances_eq_some hitems
  have htotal := checkedSum_eq_some hsupply
  refine ⟨⟨hauthority, fun hle => htotal ▸ checkedSum_le hle hsupply, hmay⟩, ?_⟩
  rw [forEach_mintItem_ok (by rfl) hrun, htotal]
  rfl

end UniqueChain.Fungible
