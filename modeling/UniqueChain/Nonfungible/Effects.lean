import UniqueChain.Minting.Form
import UniqueChain.Model.Nonfungible

/-!
# What the operations on non-fungible tokens do

For every operation of the pallet: the checks a successful call has passed, and
the storage it leaves.  Events and logs are not part of it.  All later proofs
about non-fungible tokens start from these lemmas and never look at the code
again.
-/

namespace UniqueChain

open Execution CollectionDispatch

variable {T : Config} {s s' : State T}

variable {collection : CollectionId} {sender : T.CrossAccountId}

namespace Nonfungible

variable {handle : CollectionHandle T} {token : TokenId} {data : List (CreateItemData T)}
  {info : PropertyWriterLazyCollectionInfo T} {owner : T.CrossAccountId} {balanceTo : Option ℕ}

/-! ## Approvals -/

/-- The approvals after one is written or cleared. -/
def writeAllowance (token : Token) (spender : Option T.CrossAccountId)
    (allowance : FiniteMap Token T.CrossAccountId) : FiniteMap Token T.CrossAccountId :=
  match spender with
  | some spender => allowance.insert token spender
  | none => allowance.erase token

theorem storage_setAllowanceUnchecked
    {spender : Option T.CrossAccountId} {assumeImplicitEth : Bool} :
    (setAllowanceUnchecked collection sender token spender assumeImplicitEth s).storage =
      (s.mapNonfungible fun nonfungible =>
        { nonfungible with
          allowance := writeAllowance (collection, token) spender nonfungible.allowance
            }).storage := by
  unfold setAllowanceUnchecked
  cases spender with
  | some spender =>
    cases s.nonfungible.allowance.get (collection, token) with
    | none => rfl
    | some old =>
      simp only
      split <;> rfl
  | none =>
    cases s.nonfungible.allowance.get (collection, token) <;> cases assumeImplicitEth <;> rfl

/-! ## Burning -/

/-- The storage after a token of `owner` is burnt. -/
def burntStorage (collection : CollectionId) (token : TokenId) (owner : T.CrossAccountId)
    (parent : Option Token) (nonfungible : NonfungibleStorage T) : NonfungibleStorage T :=
  { nonfungible with
    tokensBurnt := nonfungible.tokensBurnt.insert collection
      (nonfungible.tokensBurnt.getD collection 0 + 1)
    tokenData := nonfungible.tokenData.erase (collection, token)
    tokenProperties := nonfungible.tokenProperties.erase (collection, token)
    owned := nonfungible.owned.erase (collection, owner, token)
    tokenChildren := removeChild parent (collection, token) nonfungible.tokenChildren
    accountBalance := nonfungible.accountBalance.putAmount (collection, owner)
      (nonfungible.accountBalance.getD (collection, owner) 0 - 1)
    allowance := nonfungible.allowance.erase (collection, token)
    tokenAuxProperties :=
      nonfungible.tokenAuxProperties.eraseWhere fun key => key.1 = (collection, token) }

theorem storage_burnWrites {burnt : ℕ} :
    (burnWrites collection token owner burnt s).storage =
      (s.mapNonfungible fun nonfungible =>
        { nonfungible with
          owned := nonfungible.owned.erase (collection, owner, token)
          tokensBurnt := nonfungible.tokensBurnt.insert collection burnt
          tokenData := nonfungible.tokenData.erase (collection, token)
          tokenProperties := nonfungible.tokenProperties.erase (collection, token)
          tokenAuxProperties :=
            nonfungible.tokenAuxProperties.eraseWhere fun key => key.1 = (collection, token)
          allowance := nonfungible.allowance.erase (collection, token) }).storage := by
  unfold burnWrites
  cases s.nonfungible.allowance.get (collection, token) <;> rfl

/-- What a successful burn has checked. -/
structure BurnChecks (handle : CollectionHandle T) (owner : T.CrossAccountId) (token : TokenId)
    (s : State T) : Prop where
  owned : s.nonfungible.tokenData.get (handle.id, token) = some ⟨owner⟩
  access : handle.collection.permissions.access = .allowList → handle.allowlisted s owner = true
  childless : tokenHasChildren s (handle.id, token) = false
  counted : 1 ≤ s.nonfungible.accountBalance.getD (handle.id, owner) 0

theorem burn_ok (hrun : (burn handle owner token).run s = .ok () s') :
    BurnChecks handle owner token s ∧
      s'.storage = (s.mapNonfungible
        (burntStorage handle.id token owner (nestingParent s owner))).storage := by
  simp only [burn, read_bind_ok, okOr_bind_ok, ensure_bind_ok, update_bind_ok,
    CollectionHandle.checkAccess_bind_ok, checkedAdd_eq_some, checkedSub_eq_some,
    unnestIfNested_bind_ok, update_ok] at hrun
  obtain ⟨item, hitem, rfl, haccess, hchildless, _, ⟨_, rfl⟩, _, ⟨hcounted, rfl⟩, rfl⟩ := hrun
  refine ⟨⟨hitem, fun hlist => haccess hlist _ (List.mem_cons_self ..), hchildless, hcounted⟩, ?_⟩
  rw [storage_burnWrites]
  rfl

/-! ## Transfers -/

/-- The storage after a token has moved. -/
def transferredStorage (collection : CollectionId) (from' to' : T.CrossAccountId)
    (token : TokenId) (parentFrom parentTo : Option Token) (nonfungible : NonfungibleStorage T) :
    NonfungibleStorage T :=
  { nonfungible with
    tokenData := nonfungible.tokenData.insert (collection, token) ⟨to'⟩
    owned :=
      if from' = to' then nonfungible.owned
      else (nonfungible.owned.erase (collection, from', token)).insert (collection, to', token) true
    tokenChildren := removeChild parentFrom (collection, token)
      (addChild parentTo (collection, token) nonfungible.tokenChildren)
    accountBalance :=
      if from' = to' then nonfungible.accountBalance
      else (nonfungible.accountBalance.putAmount (collection, from')
          (nonfungible.accountBalance.getD (collection, from') 0 - 1)).insert (collection, to')
        (nonfungible.accountBalance.getD (collection, to') 0 + 1)
    allowance := nonfungible.allowance.erase (collection, token) }

/-- What a successful transfer has checked. -/
structure TransferChecks (handle : CollectionHandle T) (depositor from' to' : T.CrossAccountId)
    (token : TokenId) (s : State T) : Prop where
  owned : s.nonfungible.tokenData.get (handle.id, token) = some ⟨from'⟩
  access : handle.collection.permissions.access = .allowList →
    handle.allowlisted s from' = true ∧ handle.allowlisted s to' = true
  receiver : T.zeroAccount ≠ to'
  counted : 1 ≤ s.nonfungible.accountBalance.getD (handle.id, from') 0
  mayReceive : MayReceive s depositor to' (handle.id, token)

theorem balanceAfterReceiving_ok {from' to' : T.CrossAccountId} {start : State T}
    (hrun : (balanceAfterReceiving handle from' to' start).run s = .ok balanceTo s') :
    s = s' ∧ balanceTo = if from' = to' then none
      else some (start.nonfungible.accountBalance.getD (handle.id, to') 0 + 1) := by
  rcases ite_ok.mp hrun with ⟨hsame, hrun⟩ | ⟨hother, hrun⟩
  · obtain ⟨rfl, rfl⟩ := pure_ok.mp hrun
    exact ⟨rfl, (if_pos hsame).symm⟩
  · simp only [okOr_bind_ok, ensure_bind_ok, checkedAdd_eq_some, pure_ok] at hrun
    obtain ⟨_, ⟨_, rfl⟩, _, rfl, rfl⟩ := hrun
    exact ⟨rfl, (if_neg hother).symm⟩

theorem storage_transferWrites {from' to' : T.CrossAccountId} {balanceFrom : ℕ} :
    (transferWrites collection from' to' token balanceFrom balanceTo s).storage =
      (s.mapNonfungible fun nonfungible =>
        { nonfungible with
          tokenData := nonfungible.tokenData.insert (collection, token) ⟨to'⟩
          owned := balanceTo.elim nonfungible.owned fun _ =>
            (nonfungible.owned.erase (collection, from', token)).insert
            (collection, to', token) true
          accountBalance := balanceTo.elim nonfungible.accountBalance fun balanceTo =>
            (nonfungible.accountBalance.putAmount (collection, from') balanceFrom).insert
              (collection, to') balanceTo
          allowance := nonfungible.allowance.erase (collection, token) }).storage := by
  simp only [transferWrites, State.storage_depositEvent, State.storage_depositLog,
    storage_setAllowanceUnchecked]
  cases balanceTo <;> rfl

theorem transferInternal_ok {depositor from' to' : T.CrossAccountId}
    (hrun : (transferInternal handle depositor from' to' token).run s = .ok () s') :
    TransferChecks handle depositor from' to' token s ∧
      s'.storage = (s.mapNonfungible (transferredStorage handle.id from' to' token
        (nestingParent s from') (nestingParent s to'))).storage := by
  simp only [transferInternal, ensure_bind_ok, read_bind_ok, okOr_bind_ok,
    CollectionHandle.checkAccess_bind_ok, ensureCorrectReceiver_bind_ok, checkedSub_eq_some] at hrun
  obtain ⟨_, item, hitem, rfl, haccess, hreceiver, _, ⟨hcounted, rfl⟩, hrun⟩ := hrun
  obtain ⟨balanceTo, _, hbalance, hrun⟩ := bind_ok.mp hrun
  obtain ⟨rfl, rfl⟩ := balanceAfterReceiving_ok hbalance
  obtain ⟨middle, hnest, hrun⟩ := bind_unit_ok.mp hrun
  obtain ⟨hmay, left, _, rfl⟩ := nestIfSentToToken_ok hnest
  simp only [unnestIfNested_bind_ok, update_ok] at hrun
  subst hrun
  refine ⟨⟨hitem, fun hlist => ?_, hreceiver, hcounted, hmay⟩, ?_⟩
  · exact ⟨haccess hlist _ (by simp), haccess hlist _ (by simp)⟩
  · rw [storage_transferWrites]
    by_cases hsame : item.owner = to'
    · simp only [State.mapNonfungible, transferredStorage, if_pos hsame]
      rfl
    · simp only [State.mapNonfungible, transferredStorage, if_neg hsame]
      rfl

/-- What a passed check of a spender means. -/
def SpenderAllowed (handle : CollectionHandle T) (spender from' : T.CrossAccountId)
    (token : TokenId) (s : State T) : Prop :=
  T.convEq spender from' = true ∨
    (handle.collection.permissions.access = .allowList → handle.allowlisted s spender = true) ∧
      (handle.ignoresTokenRestrictions s spender = true ∨
        (∃ source, T.addressToToken from' = some source ∧
          answersYes (checkIndirectlyOwned spender source none) s = true) ∨
        s.nonfungible.allowance.get (handle.id, token) = some spender ∨
        s.nonfungible.collectionAllowance.getD (handle.id, from', spender) false = true)

section Spender

variable {spender from' : T.CrossAccountId}

theorem checkAllowed_eq :
    checkAllowed handle spender from' token =
      checkSpender handle spender from' () () (fun _ => ()) (fun _ => ()) fun s =>
        s.nonfungible.allowance.get (handle.id, token) = some spender ∨
          s.nonfungible.collectionAllowance.getD (handle.id, from', spender) false = true := by
  have hend : ∀ body : Exec T Unit, (body >>= fun _ => pure ()) = body := bind_pure
  unfold checkSpender
  simp only [hend]
  rfl

theorem checkAllowed_ok (hrun : (checkAllowed handle spender from' token).run s = .ok () s') :
    SpendsBudget s s' ∧ SpenderAllowed handle spender from' token s := by
  rw [checkAllowed_eq] at hrun
  refine (checkSpender_ok hrun).imp_right fun hallowed => ?_
  rcases hallowed with ⟨hself, _⟩ | ⟨_, hlisted, hallowed⟩
  · exact .inl hself
  · exact .inr ⟨hlisted, hallowed.imp And.left (Or.imp And.left And.left)⟩

theorem checkAllowed_holds {A : (α : Type) → Exec T α → Prop} {E : Failure → Prop}
    (hA : CheckAnalysis State.storage A E) : A Unit (checkAllowed handle spender from' token) := by
  rw [checkAllowed_eq]
  refine hA.checkSpender fun s t hstorage => ?_
  rw [State.eq_of_storage_eq hstorage]
  exact ⟨rfl, rfl, Iff.rfl⟩

end Spender

/-! ## Minting

The items of a mint are numbered from the first new token on: `data.zipIdx first`
pairs every item with its token. -/

/-- The owners of the new tokens. -/
def mintedData (collection : CollectionId) (items : List (CreateItemData T × TokenId))
    (tokenData : FiniteMap Token (ItemData T)) : FiniteMap Token (ItemData T) :=
  tokenData.insertEach items (fun item => (collection, item.2)) fun item => ⟨item.1.owner⟩

/-- A token that is found after a mint is a new one or was there before. -/
theorem get_mintedData_cases (collection : CollectionId) (data : List (CreateItemData T))
    (first : TokenId) (tokenData : FiniteMap Token (ItemData T)) (key : Token) :
    (∃ item ∈ data.zipIdx first, key = (collection, item.2) ∧
        (mintedData collection (data.zipIdx first) tokenData).get key = some ⟨item.1.owner⟩) ∨
      (∀ item ∈ data.zipIdx first, key ≠ (collection, item.2)) ∧
        (mintedData collection (data.zipIdx first) tokenData).get key = tokenData.get key :=
  FiniteMap.get_insertEach_cases tokenData _ (nodup_numbered collection data first) key

def mintedOwned (collection : CollectionId) (items : List (CreateItemData T × TokenId))
    (owned : FiniteMap (CollectionId × T.CrossAccountId × TokenId) Bool) :
    FiniteMap (CollectionId × T.CrossAccountId × TokenId) Bool :=
  owned.insertEach items (fun item => (collection, item.1.owner, item.2)) fun _ => true

def mintedChildren (s : State T) (collection : CollectionId)
    (items : List (CreateItemData T × TokenId)) (children : Children) : Children :=
  items.foldl (fun children item =>
    addChild (nestingParent s item.1.owner) (collection, item.2) children) children

/-- The storage after a mint of the numbered items. -/
def mintedStorage (s : State T) (collection : CollectionId)
    (items : List (CreateItemData T × TokenId))
    (accountBalance : FiniteMap (CollectionId × T.CrossAccountId) ℕ)
    (tokenProperties : FiniteMap Token TokenProperties) (nonfungible : NonfungibleStorage T) :
    NonfungibleStorage T :=
  { nonfungible with
    tokensMinted := nonfungible.tokensMinted.insert collection
      (nonfungible.tokensMinted.getD collection 0 + items.length)
    tokenData := mintedData collection items nonfungible.tokenData
    tokenProperties
    owned := mintedOwned collection items nonfungible.owned
    tokenChildren := mintedChildren s collection items nonfungible.tokenChildren
    accountBalance }

theorem mintedChildren_congr (hcommon : s'.common = s.common)
    {items : List (CreateItemData T × TokenId)} :
    mintedChildren s' collection items = mintedChildren s collection items := by
  funext children
  unfold mintedChildren
  simp only [nestingParent_congr hcommon]

/-- Writing one item changes the properties of its own token only. -/
theorem mintItem_ok {item : CreateItemData T} {info info' : PropertyWriterLazyCollectionInfo T}
    (hinfo : QuietCollectionInfo State.storage info)
    (hrun : (mintItem handle sender token item info).run s = .ok info' s') :
    QuietCollectionInfo State.storage info' ∧ ∃ tokenProperties,
      (∀ key ≠ (handle.id, token),
        tokenProperties.get key = s.nonfungible.tokenProperties.get key) ∧
      s'.storage = (s.mapNonfungible fun nonfungible =>
        { nonfungible with
          tokenData := nonfungible.tokenData.insert (handle.id, token) ⟨item.owner⟩
          tokenChildren := addChild (nestingParent s item.owner) (handle.id, token)
            nonfungible.tokenChildren
          tokenProperties }).storage := by
  obtain ⟨middle, hnest, hrun⟩ := bind_unit_ok.mp (update_bind_ok.mp hrun)
  have hmiddle := nestIfSentToTokenUnchecked_ok hnest
  obtain ⟨⟨s₁, hstorage, hwritten⟩, hinfo'⟩ := writeNewTokenProperties_ok hinfo hrun
  refine ⟨hinfo', ?_⟩
  rcases hwritten with rfl | ⟨properties, rfl⟩
  · refine ⟨s.nonfungible.tokenProperties, fun _ _ => rfl, ?_⟩
    rw [hstorage, hmiddle]
    rfl
  · refine ⟨s.nonfungible.tokenProperties.insert (handle.id, token) properties,
      fun key hkey => FiniteMap.get_insert_of_ne _ _ hkey, ?_⟩
    unfold setTokenPropertiesRaw
    rw [State.storage_mapNonfungible_congr hstorage, hmiddle]
    rfl

/-- The loop that writes the items changes the properties of the new tokens only. -/
theorem mintItems_ok (hinfo : QuietCollectionInfo State.storage info)
    (hrun : (mintLoop (mintItem handle sender) token data info).run s = .ok () s') :
    ∃ tokenProperties,
      (∀ key, (∀ item ∈ data.zipIdx token, key ≠ (handle.id, item.2)) →
        tokenProperties.get key = s.nonfungible.tokenProperties.get key) ∧
      s'.storage = (s.mapNonfungible fun nonfungible =>
        { nonfungible with
          tokenData := mintedData handle.id (data.zipIdx token) nonfungible.tokenData
          tokenChildren := mintedChildren s handle.id (data.zipIdx token) nonfungible.tokenChildren
          tokenProperties }).storage := by
  induction data generalizing token s info with
  | nil =>
    obtain ⟨_, rfl⟩ := pure_ok.mp hrun
    exact ⟨s.nonfungible.tokenProperties, fun _ _ => rfl, rfl⟩
  | cons head rest ih =>
    obtain ⟨info₁, s₁, hitem, hrun⟩ := bind_ok.mp hrun
    obtain ⟨hinfo₁, firstProperties, hfirst, hstorage⟩ := mintItem_ok hinfo hitem
    obtain ⟨tokenProperties, hkept, hrest⟩ := ih hinfo₁ hrun
    obtain ⟨hcommon, hnonfungible, _⟩ := State.storage_eq_iff.mp hstorage
    refine ⟨tokenProperties, fun key hkey => ?_, ?_⟩
    · rw [List.zipIdx_cons, List.forall_mem_cons] at hkey
      rw [hkept key hkey.2, hnonfungible]
      exact hfirst key hkey.1
    · rw [hrest, State.storage_mapNonfungible_congr hstorage, mintedChildren_congr hcommon]
      rfl

theorem storage_mintOwned :
    (mintOwned collection token data s).storage =
      (s.mapNonfungible fun nonfungible =>
        { nonfungible with
          owned := mintedOwned collection (data.zipIdx token) nonfungible.owned }).storage := by
  induction data generalizing token s with
  | nil => rfl
  | cons head rest ih =>
    unfold mintOwned
    rw [ih]
    rfl

/-- The same item without properties. -/
def CreateItemData.withoutProperties (item : CreateItemData T) : CreateItemData T :=
  { item with properties := [] }

/-- Every item has one owner and one piece. -/
abbrev mintForm : MintForm T where
  Item := CreateItemData T
  receivers item := [item.owner]
  properties := CreateItemData.properties
  withoutProperties := CreateItemData.withoutProperties
  toSender sender item := T.convEq sender item.owner
  Placeable s item := Nestable s item.owner
  totals _ := some []
  Within count limit := count ≤ limit
  decidableWithin _ _ := inferInstance
  tokensMinted s := s.nonfungible.tokensMinted
  accountBalance s := s.nonfungible.accountBalance
  tokenProperties s := s.nonfungible.tokenProperties
  mintItem := mintItem
  finish collection token data count balances s :=
    mintOwned collection token data (mintCounters collection count balances s)

theorem mintItems_eq_mintLoop :
    mintItems handle sender token data info =
      mintLoop (mintItem handle sender) token data info := by
  induction data generalizing token info with
  | nil => rfl
  | cons item rest ih =>
    unfold mintItems mintLoop
    simp only [ih]

theorem mintCheckNesting_eq :
    mintCheckNesting handle sender token data =
      checkEachNesting mintForm.receivers handle.id sender token data := by
  induction data generalizing token with
  | nil => rfl
  | cons item rest ih =>
    unfold mintCheckNesting checkEachNesting
    rw [ih]
    exact congrArg (· >>= fun _ => _) (bind_pure _).symm

theorem createMultipleItems_eq (data : List (CreateItemData T)) :
    createMultipleItems handle sender data = mintForm.create handle sender data := by
  have howners : data.map (·.owner) = data.flatMap mintForm.receivers := List.map_eq_flatMap
  unfold createMultipleItems
  simp only [howners, mintCheckNesting_eq, mintItems_eq_mintLoop]
  rfl

theorem createMultipleItems_ok (hrun : (createMultipleItems handle sender data).run s = .ok () s') :
    mintForm.MintChecks handle sender data s ∧ ∃ tokenProperties,
      (∀ key, (∀ item ∈ data.zipIdx (s.nonfungible.tokensMinted.getD handle.id 0 + 1),
          key ≠ (handle.id, item.2)) →
        tokenProperties.get key = s.nonfungible.tokenProperties.get key) ∧
      s'.storage = (s.mapNonfungible (mintedStorage s handle.id
        (data.zipIdx (s.nonfungible.tokensMinted.getD handle.id 0 + 1))
        (countEach handle.id (data.map (·.owner)) s.nonfungible.accountBalance)
        tokenProperties)).storage := by
  rw [createMultipleItems_eq] at hrun
  obtain ⟨balances, s₁, s₂, hprepared, hitems, rfl⟩ := MintForm.create_ok_iff.mp hrun
  obtain ⟨⟨left, _, rfl⟩, hmay⟩ := checkEachNesting_ok hprepared.nested
  obtain ⟨tokenProperties, hkept, hstorage⟩ :=
    mintItems_ok (writerAnalysis_preserves.newCollectionInfo handle sender) hitems
  refine ⟨⟨hprepared.toAdmitted, hmay⟩, tokenProperties, hkept, ?_⟩
  have hcounters : storeCounters handle.id balances s.nonfungible.accountBalance =
      countEach handle.id (data.map (·.owner)) s.nonfungible.accountBalance := by
    rw [List.map_eq_flatMap]
    exact storeCounters_of_countReceivers_ok hprepared.counted
  rw [storage_mintOwned]
  unfold mintCounters
  rw [State.storage_mapNonfungible_congr (State.storage_mapNonfungible_congr hstorage)]
  simp only [State.mapNonfungible, mintedStorage, List.length_zipIdx, ← hcounters]
  rfl

/-! ## Properties -/

theorem preserves_checkTokenIndirectOwner :
    Preserves State.storage (checkTokenIndirectOwner handle sender token) :=
  checks_preserve.checkIndirectlyOwned

end Nonfungible

end UniqueChain
