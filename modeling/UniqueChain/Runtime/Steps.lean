import UniqueChain.Fungible.Effects
import UniqueChain.Properties.Tokens
import UniqueChain.Registry.Effects

/-!
# What a step can do

The effects of all operations as one relation: `ChainStep s call s'` says that
the call passes its checks in `s`, and describes the storage it leaves, with one
constructor for each operation.  A successful call is such a step up to events,
logs and budget (`chainStep_of_step`), so an invariant of the chain is proved by
cases on `ChainStep`, and by `invariant_of_chainStep` it holds in every
reachable state.
-/

namespace UniqueChain

open Execution CollectionDispatch FiniteMap CollectionHandle

variable {T : Config} {s s' : State T}

variable {call : Call T} {handle : CollectionHandle T} {history : History T}
  {depositor from' to' : T.CrossAccountId} {token : TokenId} {P : State T → Prop}

/-! ## Non-fungible tokens -/

theorem Nonfungible.TransferChecks.of_spendsBudget (hspend : SpendsBudget s s')
    (hchecks : Nonfungible.TransferChecks handle depositor from' to' token s') :
    Nonfungible.TransferChecks handle depositor from' to' token s := by
  have hmay := hchecks.mayReceive.of_spendsBudget hspend
  obtain ⟨left, _, rfl⟩ := hspend
  exact ⟨hchecks.owned, hchecks.access, hchecks.receiver, hchecks.counted, hmay⟩

/-- The effect of each operation on an NFT collection. -/
inductive Nonfungible.Step (handle : CollectionHandle T) (s : State T) :
    NonfungibleCall T → NonfungibleStorage T → Prop
  | createMultipleItems {sender : T.CrossAccountId} {data : List (CreateItemData T)}
      {tokenProperties : FiniteMap Token TokenProperties}
      (hchecks : mintForm.MintChecks handle sender data s)
      (hkept : ∀ key, (∀ item ∈ data.zipIdx (s.nonfungible.tokensMinted.getD handle.id 0 + 1),
          key ≠ (handle.id, item.2)) →
        tokenProperties.get key = s.nonfungible.tokenProperties.get key) :
      Step handle s (.createMultipleItems sender data)
        (mintedStorage s handle.id
          (data.zipIdx (s.nonfungible.tokensMinted.getD handle.id 0 + 1))
          (countEach handle.id (data.map (·.owner)) s.nonfungible.accountBalance)
          tokenProperties s.nonfungible)
  | transfer {from' to' : T.CrossAccountId} {token : TokenId}
      (hchecks : TransferChecks handle from' from' to' token s) :
      Step handle s (.transfer from' to' token)
        (transferredStorage handle.id from' to' token (nestingParent s from')
          (nestingParent s to') s.nonfungible)
  | transferFrom {spender from' to' : T.CrossAccountId} {token : TokenId}
      (hallowed : SpenderAllowed handle spender from' token s)
      (hchecks : TransferChecks handle spender from' to' token s) :
      Step handle s (.transferFrom spender from' to' token)
        (transferredStorage handle.id from' to' token (nestingParent s from')
          (nestingParent s to') s.nonfungible)
  | burn {sender : T.CrossAccountId} {token : TokenId}
      (hchecks : BurnChecks handle sender token s) :
      Step handle s (.burn sender token)
        (burntStorage handle.id token sender (nestingParent s sender) s.nonfungible)
  | burnFrom {spender from' : T.CrossAccountId} {token : TokenId}
      (hallowed : SpenderAllowed handle spender from' token s)
      (hchecks : BurnChecks handle from' token s) :
      Step handle s (.burnFrom spender from' token)
        (burntStorage handle.id token from' (nestingParent s from') s.nonfungible)
  | setAllowance {sender : T.CrossAccountId} {token : TokenId}
      {spender : Option T.CrossAccountId} {item : ItemData T}
      (haccess : handle.collection.permissions.access = .allowList →
        ∀ user ∈ sender :: spender.toList, handle.allowlisted s user = true)
      (hitem : s.nonfungible.tokenData.get (handle.id, token) = some item)
      (hallowed : item.owner = sender ∨ handle.ignoresOwnedAmount s sender = true) :
      Step handle s (.setAllowance sender token spender)
        { s.nonfungible with
          allowance := writeAllowance (handle.id, token) spender s.nonfungible.allowance }
  | setAllowanceFrom {sender from' : T.CrossAccountId} {token : TokenId}
      {to' : Option T.CrossAccountId} {item : ItemData T}
      (haccess : handle.collection.permissions.access = .allowList →
        ∀ user ∈ sender :: from' :: to'.toList, handle.allowlisted s user = true)
      (hmirror : T.convEq sender from' = true)
      (hitem : s.nonfungible.tokenData.get (handle.id, token) = some item)
      (hallowed : item.owner = from' ∨ handle.collection.limits.ownerCanTransfer = true ∧
        (handle.isOwnerOrAdmin s sender = true ∨ handle.isOwnerOrAdmin s from' = true)) :
      Step handle s (.setAllowanceFrom sender from' token to')
        { s.nonfungible with
          allowance := writeAllowance (handle.id, token) to' s.nonfungible.allowance }
  | setAllowanceForAll {owner operator : T.CrossAccountId} {approve : Bool} :
      Step handle s (.setAllowanceForAll owner operator approve)
        { s.nonfungible with
          collectionAllowance := s.nonfungible.collectionAllowance.insert
            (handle.id, owner, operator) approve }
  | modifyTokenProperties {sender : T.CrossAccountId} {token : TokenId}
      {updates : List PropertyUpdate} {final : TokenProperties}
      (happly : (tokenFacts handle sender token s).apply updates
        (storedProperties s (handle.id, token)) = some final) :
      Step handle s (.modifyTokenProperties sender token updates)
        (if updates = [] then s.nonfungible
        else { s.nonfungible with
          tokenProperties := s.nonfungible.tokenProperties.insert (handle.id, token) final })

theorem NonfungibleCall.execute_ok {call : NonfungibleCall T}
    (hfound : dispatch s handle.id = some (.nonfungible handle))
    (hrun : (call.execute handle).run s = .ok () s') :
    ∃ nonfungible, Nonfungible.Step handle s call nonfungible ∧
      s'.storage = (s.mapNonfungible fun _ => nonfungible).storage := by
  cases call with
  | createMultipleItems sender data =>
    obtain ⟨hchecks, tokenProperties, hkept, hstorage⟩ := Nonfungible.createMultipleItems_ok hrun
    exact ⟨_, .createMultipleItems hchecks hkept, hstorage⟩
  | transfer from' to' token =>
    obtain ⟨hchecks, hstorage⟩ := Nonfungible.transferInternal_ok hrun
    exact ⟨_, .transfer hchecks, hstorage⟩
  | transferFrom spender from' to' token =>
    obtain ⟨s₁, hcheck, hrun⟩ := bind_unit_ok.mp hrun
    obtain ⟨hspend, hallowed⟩ := Nonfungible.checkAllowed_ok hcheck
    obtain ⟨hchecks, hstorage⟩ := Nonfungible.transferInternal_ok hrun
    refine ⟨_, .transferFrom hallowed (hchecks.of_spendsBudget hspend), ?_⟩
    obtain ⟨left, _, rfl⟩ := hspend
    exact hstorage
  | burn sender token =>
    obtain ⟨hchecks, hstorage⟩ := Nonfungible.burn_ok hrun
    exact ⟨_, .burn hchecks, hstorage⟩
  | burnFrom spender from' token =>
    obtain ⟨s₁, hcheck, hrun⟩ := bind_unit_ok.mp hrun
    obtain ⟨⟨left, _, rfl⟩, hallowed⟩ := Nonfungible.checkAllowed_ok hcheck
    obtain ⟨hchecks, hstorage⟩ := Nonfungible.burn_ok hrun
    exact ⟨_, .burnFrom hallowed
      ⟨hchecks.owned, hchecks.access, hchecks.childless, hchecks.counted⟩, hstorage⟩
  | setAllowance sender token spender =>
    simp only [NonfungibleCall.execute, Nonfungible.setAllowance,
      checkAccess_bind_ok, forEach_ensureCorrectReceiver_bind_ok, read_bind_ok,
      okOr_bind_ok, ensure_bind_ok, update_ok] at hrun
    obtain ⟨haccess, _, item, hitem, hallowed, rfl⟩ := hrun
    exact ⟨_, .setAllowance haccess hitem hallowed, Nonfungible.storage_setAllowanceUnchecked⟩
  | setAllowanceFrom sender from' token to' =>
    simp only [NonfungibleCall.execute, Nonfungible.setAllowanceFrom,
      checkAccess_bind_ok, forEach_ensureCorrectReceiver_bind_ok, read_bind_ok,
      okOr_bind_ok, ensure_bind_ok, update_ok] at hrun
    obtain ⟨haccess, _, hmirror, item, hitem, hallowed, rfl⟩ := hrun
    exact ⟨_, .setAllowanceFrom haccess hmirror hitem hallowed,
      Nonfungible.storage_setAllowanceUnchecked⟩
  | setAllowanceForAll owner operator approve =>
    simp only [NonfungibleCall.execute, Nonfungible.setAllowanceForAll,
      checkAccess_bind_ok, ensureCorrectReceiver_bind_ok, update_ok] at hrun
    obtain ⟨_, _, rfl⟩ := hrun
    exact ⟨_, .setAllowanceForAll, rfl⟩
  | modifyTokenProperties sender token updates =>
    obtain ⟨final, happly, hstorage⟩ :=
      (Nonfungible.modifyTokenProperties_followsRule hfound).sound _ hrun
    refine ⟨_, .modifyTokenProperties happly, ?_⟩
    rw [hstorage, Nonfungible.writtenProperties]
    split <;> rfl

/-! ## Fungible tokens -/

theorem Fungible.TransferChecks.of_spendsBudget {amount : ℕ} (hspend : SpendsBudget s s')
    (hchecks : Fungible.TransferChecks handle depositor from' to' amount s') :
    Fungible.TransferChecks handle depositor from' to' amount s := by
  have hmay := fun hmoves => (hchecks.mayReceive hmoves).of_spendsBudget hspend
  obtain ⟨left, _, rfl⟩ := hspend
  exact ⟨hchecks.access, hchecks.receiver, hchecks.covered, hmay⟩

/-- The effect of each operation on a fungible collection. -/
inductive Fungible.Step (handle : CollectionHandle T) (s : State T) :
    FungibleCall T → State T → Prop
  | createMultipleItems {depositor : T.CrossAccountId} {data : AssocMap T.CrossAccountId ℕ}
      (hchecks : MintChecks handle depositor data s) :
      Step handle s (.createMultipleItems depositor data) (mintedState handle.id data s)
  | transfer {from' to' : T.CrossAccountId} {amount : ℕ}
      (hchecks : TransferChecks handle from' from' to' amount s) :
      Step handle s (.transfer from' to' amount) (transferredState handle.id from' to' amount s)
  | transferFrom {spender from' to' : T.CrossAccountId} {amount : ℕ} {left : Option ℕ}
      (hallowed : SpenderAllowed handle spender from' amount s left)
      (haccess : T.convEq spender from' = true ∨
        (handle.collection.permissions.access = .allowList →
          handle.allowlisted s spender = true))
      (hchecks : TransferChecks handle spender from' to' amount s) :
      Step handle s (.transferFrom spender from' to' amount)
        ((transferredState handle.id from' to' amount s).mapFungible
          (storedAllowance handle.id from' spender left))
  | burn {owner : T.CrossAccountId} {amount : ℕ} (hchecks : BurnChecks handle owner amount s) :
      Step handle s (.burn owner amount) (burntState handle.id owner amount s)
  | burnFrom {spender from' : T.CrossAccountId} {amount : ℕ} {left : Option ℕ}
      (hallowed : SpenderAllowed handle spender from' amount s left)
      (haccess : T.convEq spender from' = true ∨
        (handle.collection.permissions.access = .allowList →
          handle.allowlisted s spender = true))
      (hchecks : BurnChecks handle from' amount s) :
      Step handle s (.burnFrom spender from' amount)
        ((burntState handle.id from' amount s).mapFungible
          (storedAllowance handle.id from' spender left))
  | setAllowance {owner spender : T.CrossAccountId} {amount : ℕ}
      (haccess : handle.collection.permissions.access = .allowList →
        handle.allowlisted s owner = true ∧ handle.allowlisted s spender = true) :
      Step handle s (.setAllowance owner spender amount)
        (s.mapFungible (storedAllowance handle.id owner spender (some amount)))
  | setAllowanceFrom {sender from' to' : T.CrossAccountId} {amount : ℕ}
      (haccess : handle.collection.permissions.access = .allowList →
        handle.allowlisted s sender = true ∧ handle.allowlisted s from' = true ∧
          handle.allowlisted s to' = true)
      (hmirror : T.convEq sender from' = true) :
      Step handle s (.setAllowanceFrom sender from' to' amount)
        (s.mapFungible (storedAllowance handle.id from' to' (some amount)))

theorem FungibleCall.execute_ok {call : FungibleCall T}
    (hrun : (call.execute handle).run s = .ok () s') :
    ∃ s₁, Fungible.Step handle s call s₁ ∧ s'.storage = s₁.storage := by
  cases call with
  | createMultipleItems depositor data =>
    obtain ⟨hchecks, hstorage⟩ := Fungible.createMultipleItems_ok hrun
    exact ⟨_, .createMultipleItems hchecks, hstorage⟩
  | transfer from' to' amount =>
    obtain ⟨hchecks, hstorage⟩ := Fungible.transferInternal_ok hrun
    exact ⟨_, .transfer hchecks, hstorage⟩
  | transferFrom spender from' to' amount =>
    obtain ⟨left, s₁, hcheck, hrun⟩ := bind_ok.mp hrun
    obtain ⟨hspend, hallowed, haccess⟩ := Fungible.checkAllowed_ok hcheck
    obtain ⟨s₂, htransfer, hrun⟩ := bind_unit_ok.mp hrun
    obtain ⟨hchecks, hstorage⟩ := Fungible.transferInternal_ok htransfer
    obtain rfl := update_ok.mp hrun
    refine ⟨_, .transferFrom hallowed haccess (hchecks.of_spendsBudget hspend), ?_⟩
    obtain ⟨budget, _, rfl⟩ := hspend
    rw [Fungible.storage_storeAllowance, State.storage_mapFungible_congr hstorage]
    unfold Fungible.transferredState
    split <;> rfl
  | burn owner amount =>
    obtain ⟨hchecks, hstorage⟩ := Fungible.burn_ok hrun
    exact ⟨_, .burn hchecks, hstorage⟩
  | burnFrom spender from' amount =>
    obtain ⟨left, s₁, hcheck, hrun⟩ := bind_ok.mp hrun
    obtain ⟨⟨budget, _, rfl⟩, hallowed, haccess⟩ := Fungible.checkAllowed_ok hcheck
    obtain ⟨s₂, hburn, hrun⟩ := bind_unit_ok.mp hrun
    obtain ⟨hchecks, hstorage⟩ := Fungible.burn_ok hburn
    obtain rfl := update_ok.mp hrun
    refine ⟨_, .burnFrom hallowed haccess
      ⟨hchecks.supplied, hchecks.covered, hchecks.access⟩, ?_⟩
    rw [Fungible.storage_storeAllowance, State.storage_mapFungible_congr hstorage]
    rfl
  | setAllowance owner spender amount =>
    simp only [FungibleCall.execute, Fungible.setAllowance,
      checkAccess_bind_ok, read_bind_ok, ensure_bind_ok, update_ok] at hrun
    obtain ⟨haccess, _, rfl⟩ := hrun
    exact ⟨_, .setAllowance fun hlist =>
      ⟨haccess hlist _ (by simp), haccess hlist _ (by simp)⟩, rfl⟩
  | setAllowanceFrom sender from' to' amount =>
    simp only [FungibleCall.execute, Fungible.setAllowanceFrom,
      checkAccess_bind_ok, read_bind_ok, ensure_bind_ok, update_ok] at hrun
    obtain ⟨haccess, hmirror, _, rfl⟩ := hrun
    exact ⟨_, .setAllowanceFrom (fun hlist => ⟨haccess hlist _ (by simp),
      haccess hlist _ (by simp), haccess hlist _ (by simp)⟩) hmirror, rfl⟩

/-! ## Refungible tokens -/

theorem Refungible.TransferChecks.of_spendsBudget {amount : ℕ} (hspend : SpendsBudget s s')
    (hchecks : Refungible.TransferChecks handle depositor from' to' token amount s') :
    Refungible.TransferChecks handle depositor from' to' token amount s := by
  have hmay := fun hmoves => (hchecks.mayReceive hmoves).of_spendsBudget hspend
  obtain ⟨left, _, rfl⟩ := hspend
  exact ⟨hchecks.access, hchecks.receiver, hchecks.holds, hchecks.covered, hchecks.counted, hmay⟩

/-- Pieces are held of existing tokens only. -/
def Refungible.HeldExist (refungible : RefungibleStorage T) : Prop :=
  ∀ key, refungible.balance.get key ≠ none → refungible.totalSupply.get key.1 ≠ none

/-- The effect of each operation on a refungible collection. -/
inductive Refungible.Step (handle : CollectionHandle T) (s : State T) :
    RefungibleCall T → State T → Prop
  | createMultipleItems {sender : T.CrossAccountId} {data : List (CreateItemData T)}
      {tokenProperties : FiniteMap Token TokenProperties}
      (hchecks : mintForm.MintChecks handle sender data s)
      (hkept : ∀ key, (∀ item ∈ data.zipIdx (s.refungible.tokensMinted.getD handle.id 0 + 1),
          key ≠ (handle.id, item.2)) →
        tokenProperties.get key = s.refungible.tokenProperties.get key) :
      Step handle s (.createMultipleItems sender data)
        (writeLedger (mintedStorage handle.id
            (data.zipIdx (s.refungible.tokensMinted.getD handle.id 0 + 1))
            (countEach handle.id (data.flatMap (·.users.keys)) s.refungible.accountBalance)
            tokenProperties)
          (givenChildren s handle.id
            (pieces (data.zipIdx (s.refungible.tokensMinted.getD handle.id 0 + 1)))
            s.nonfungible.tokenChildren) s)
  | transfer {from' to' : T.CrossAccountId} {token : TokenId} {amount : ℕ}
      (hchecks : TransferChecks handle from' from' to' token amount s) :
      Step handle s (.transfer from' to' token amount)
        (transferredState (handle.id, token) from' to' amount s)
  | transferFrom {spender from' to' : T.CrossAccountId} {token : TokenId} {amount : ℕ}
      {left : Option ℕ} (hallowed : SpenderAllowed handle spender from' token amount s left)
      (haccess : T.convEq spender from' = true ∨
        (handle.collection.permissions.access = .allowList →
          handle.allowlisted s spender = true))
      (hchecks : TransferChecks handle spender from' to' token amount s) :
      Step handle s (.transferFrom spender from' to' token amount)
        ((transferredState (handle.id, token) from' to' amount s).mapRefungible
          (storedAllowance handle.id from' spender token left))
  | burn {owner : T.CrossAccountId} {token : TokenId} {amount : ℕ}
      (hchecks : BurnChecks (handle.id, token) owner amount s) :
      Step handle s (.burn owner token amount) (burntState (handle.id, token) owner amount s)
  | burnFrom {spender from' : T.CrossAccountId} {token : TokenId} {amount : ℕ}
      {left : Option ℕ} (hallowed : SpenderAllowed handle spender from' token amount s left)
      (haccess : T.convEq spender from' = true ∨
        (handle.collection.permissions.access = .allowList →
          handle.allowlisted s spender = true))
      (hchecks : BurnChecks (handle.id, token) from' amount s)
      (hself : T.convEq spender from' = true → left = none) :
      Step handle s (.burnFrom spender from' token amount)
        ((burntState (handle.id, token) from' amount s).mapRefungible
          (storedAllowance handle.id from' spender token left))
  | repartition {owner : T.CrossAccountId} {token : TokenId} {amount : ℕ}
      (hmax : amount ≤ maxRefungiblePieces) (hpos : 0 < amount)
      (hall : (totalPieces s (handle.id, token)).getD u128Max =
        balanceOf s (handle.id, token) owner) :
      Step handle s (.repartition owner token amount)
        (repartitionedState (handle.id, token) owner amount s)
  | setAllowance {sender spender : T.CrossAccountId} {token : TokenId} {amount : ℕ}
      (haccess : handle.collection.permissions.access = .allowList →
        handle.allowlisted s sender = true ∧ handle.allowlisted s spender = true)
      (hcovered : amount ≤ balanceOf s (handle.id, token) sender ∨
        handle.ignoresOwnedAmount s sender = true ∧ tokenExists s (handle.id, token) = true) :
      Step handle s (.setAllowance sender spender token amount)
        (s.mapRefungible (storedAllowance handle.id sender spender token (some amount)))
  | setAllowanceFrom {sender from' to' : T.CrossAccountId} {token : TokenId} {amount : ℕ}
      (haccess : handle.collection.permissions.access = .allowList →
        handle.allowlisted s sender = true ∧ handle.allowlisted s from' = true ∧
          handle.allowlisted s to' = true)
      (hmirror : T.convEq sender from' = true)
      (hcovered : amount ≤ balanceOf s (handle.id, token) from' ∨
        (handle.collection.limits.ownerCanTransfer = true ∧
          (handle.isOwnerOrAdmin s sender = true ∨ handle.isOwnerOrAdmin s from' = true)) ∧
          tokenExists s (handle.id, token) = true) :
      Step handle s (.setAllowanceFrom sender from' to' token amount)
        (s.mapRefungible (storedAllowance handle.id from' to' token (some amount)))
  | setAllowanceForAll {owner spender : T.CrossAccountId} {approve : Bool} :
      Step handle s (.setAllowanceForAll owner spender approve)
        (s.mapRefungible fun refungible =>
          { refungible with
            collectionAllowance := refungible.collectionAllowance.insert
              (handle.id, owner, spender) approve })
  | modifyTokenProperties {sender : T.CrossAccountId} {token : TokenId}
      {updates : List PropertyUpdate} {tokenProperties : FiniteMap Token TokenProperties}
      (hkept : ∀ key ≠ (handle.id, token),
        tokenProperties.get key = s.refungible.tokenProperties.get key)
      (happly : HeldExist s.refungible → ∃ final, (tokenFacts handle sender token s).apply updates
          (storedProperties s (handle.id, token)) = some final ∧
        tokenProperties = if updates = [] then s.refungible.tokenProperties
          else s.refungible.tokenProperties.insert (handle.id, token) final) :
      Step handle s (.modifyTokenProperties sender token updates)
        (s.mapRefungible fun refungible => { refungible with tokenProperties })

theorem Refungible.step_of_modifyTokenProperties_ok
    {sender : T.CrossAccountId} {updates : List PropertyUpdate}
    (hfound : dispatch s handle.id = some (.refungible handle))
    (hrun : (Refungible.modifyTokenProperties handle sender token updates).run s = .ok () s') :
    ∃ s₁, Refungible.Step handle s (.modifyTokenProperties sender token updates) s₁ ∧
      s'.storage = s₁.storage := by
  have hwritten : ∃ tokenProperties : FiniteMap Token TokenProperties,
      (∀ key ≠ (handle.id, token),
        tokenProperties.get key = s.refungible.tokenProperties.get key) ∧
      s'.storage = (s.mapRefungible fun refungible =>
        { refungible with tokenProperties }).storage := by
    rcases Refungible.modifyTokenProperties_ok hrun with hstorage | ⟨properties, hstorage⟩
    · exact ⟨s.refungible.tokenProperties, fun _ _ => rfl, hstorage⟩
    · exact ⟨_, fun key hkey => get_insert_of_ne _ _ hkey, hstorage⟩
  obtain ⟨tokenProperties, hkept, hstorage⟩ := hwritten
  refine ⟨_, .modifyTokenProperties hkept fun hheld => ?_, hstorage⟩
  obtain ⟨final, happly, hstorage'⟩ :=
    (Refungible.modifyTokenProperties_followsRule hheld hfound).sound _ hrun
  refine ⟨final, happly, ?_⟩
  have hproperties : s'.refungible.tokenProperties = tokenProperties := by
    rw [(State.storage_eq_iff.mp hstorage).2.2.2.1]
    rfl
  rw [← hproperties]
  unfold Refungible.writtenProperties at hstorage'
  split at hstorage'
  · rename_i hnil
    rw [(State.storage_eq_iff.mp hstorage').2.2.2.1, if_pos hnil]
  · rename_i hupdates
    rw [(State.storage_eq_iff.mp hstorage').2.2.2.1, if_neg hupdates]
    rfl

theorem RefungibleCall.execute_ok {call : RefungibleCall T}
    (hfound : dispatch s handle.id = some (.refungible handle))
    (hrun : (call.execute handle).run s = .ok () s') :
    ∃ s₁, Refungible.Step handle s call s₁ ∧ s'.storage = s₁.storage := by
  cases call with
  | createMultipleItems sender data =>
    obtain ⟨hchecks, tokenProperties, hkept, hstorage⟩ := Refungible.createMultipleItems_ok hrun
    exact ⟨_, .createMultipleItems hchecks hkept, hstorage⟩
  | transfer from' to' token amount =>
    obtain ⟨hchecks, hstorage⟩ := Refungible.transferInternal_ok hrun
    exact ⟨_, .transfer hchecks, hstorage⟩
  | transferFrom spender from' to' token amount =>
    obtain ⟨left, s₁, hcheck, hrun⟩ := bind_ok.mp hrun
    obtain ⟨hspend, hallowed, haccess, _⟩ := Refungible.checkAllowed_ok hcheck
    obtain ⟨s₂, htransfer, hrun⟩ := bind_unit_ok.mp hrun
    obtain ⟨hchecks, hstorage⟩ := Refungible.transferInternal_ok htransfer
    obtain rfl := update_ok.mp hrun
    refine ⟨_, .transferFrom hallowed haccess (hchecks.of_spendsBudget hspend), ?_⟩
    obtain ⟨budget, _, rfl⟩ := hspend
    rw [Refungible.storage_storeAllowance, State.storage_mapRefungible_congr
      (hstorage.trans Refungible.storage_transferredState_setBudget)]
  | burn owner token amount =>
    obtain ⟨hchecks, hstorage⟩ := Refungible.burn_ok hrun
    exact ⟨_, .burn hchecks, hstorage⟩
  | burnFrom spender from' token amount =>
    obtain ⟨left, s₁, hcheck, hrun⟩ := bind_ok.mp hrun
    obtain ⟨⟨budget, _, rfl⟩, hallowed, haccess, hself⟩ := Refungible.checkAllowed_ok hcheck
    obtain ⟨s₂, hburn, hrun⟩ := bind_unit_ok.mp hrun
    obtain ⟨hchecks, hstorage⟩ := Refungible.burn_ok hburn
    obtain rfl := update_ok.mp hrun
    refine ⟨_, .burnFrom hallowed haccess
      ⟨hchecks.holds, hchecks.supplied, hchecks.covered, hchecks.last, hchecks.counted⟩ hself, ?_⟩
    rw [Refungible.storage_storeAllowance, State.storage_mapRefungible_congr
      (hstorage.trans Refungible.storage_burntState_setBudget)]
  | repartition owner token amount =>
    simp only [RefungibleCall.execute, Refungible.repartition, ensure_bind_ok, read_bind_ok,
      update_bind_ok, update_ok] at hrun
    obtain ⟨hmax, hpos, hall, rfl⟩ := hrun
    refine ⟨_, .repartition hmax hpos hall, ?_⟩
    unfold Refungible.repartitionLogs
    split
    · rfl
    · split <;> rfl
  | setAllowance sender spender token amount =>
    simp only [RefungibleCall.execute, Refungible.setAllowance,
      checkAccess_bind_ok, ensureCorrectReceiver_bind_ok, read_bind_ok,
      ensure_bind_ok, update_ok] at hrun
    obtain ⟨haccess, _, hcovered, rfl⟩ := hrun
    exact ⟨_, .setAllowance (fun hlist =>
      ⟨haccess hlist _ (by simp), haccess hlist _ (by simp)⟩) hcovered, rfl⟩
  | setAllowanceFrom sender from' to' token amount =>
    simp only [RefungibleCall.execute, Refungible.setAllowanceFrom,
      checkAccess_bind_ok, ensureCorrectReceiver_bind_ok, read_bind_ok,
      ensure_bind_ok, update_ok] at hrun
    obtain ⟨haccess, _, hmirror, hcovered, rfl⟩ := hrun
    exact ⟨_, .setAllowanceFrom (fun hlist => ⟨haccess hlist _ (by simp),
      haccess hlist _ (by simp), haccess hlist _ (by simp)⟩) hmirror hcovered, rfl⟩
  | setAllowanceForAll owner spender approve =>
    simp only [RefungibleCall.execute, Refungible.setAllowanceForAll,
      checkAccess_bind_ok, ensureCorrectReceiver_bind_ok, update_ok] at hrun
    obtain ⟨_, _, rfl⟩ := hrun
    exact ⟨_, .setAllowanceForAll, rfl⟩
  | modifyTokenProperties sender token updates =>
    exact Refungible.step_of_modifyTokenProperties_ok hfound hrun

/-! ## All calls -/

/-- The storage of the pallet `common` after a collection is created. -/
def addCollection (collection : Collection T.AccountId) (properties : CollectionProperties)
    (permissions : PropertiesPermissionMap) (adminAmount : FiniteMap CollectionId ℕ)
    (isAdmin : FiniteMap (CollectionId × T.CrossAccountId) Bool) (common : CommonStorage T) :
    CommonStorage T :=
  { common with
    createdCollectionCount := common.createdCollectionCount + 1
    collectionById := common.collectionById.insert (common.createdCollectionCount + 1) collection
    collectionProperties := common.collectionProperties.insert
      (common.createdCollectionCount + 1) properties
    collectionPropertyPermissions := common.collectionPropertyPermissions.insert
      (common.createdCollectionCount + 1) permissions
    adminAmount
    isAdmin }

/-- The effect of each call. -/
inductive ChainStep (s : State T) : Call T → State T → Prop
  | nonfungible {handle : CollectionHandle T} {call : NonfungibleCall T}
      {nonfungible : NonfungibleStorage T}
      (hfound : dispatch s handle.id = some (.nonfungible handle))
      (hstep : Nonfungible.Step handle s call nonfungible) :
      ChainStep s (.nonfungible handle.id call) (s.mapNonfungible fun _ => nonfungible)
  | fungible {handle : CollectionHandle T} {call : FungibleCall T} {s' : State T}
      (hfound : dispatch s handle.id = some (.fungible handle))
      (hstep : Fungible.Step handle s call s') : ChainStep s (.fungible handle.id call) s'
  | refungible {handle : CollectionHandle T} {call : RefungibleCall T} {s' : State T}
      (hfound : dispatch s handle.id = some (.refungible handle))
      (hstep : Refungible.Step handle s call s') : ChainStep s (.refungible handle.id call) s'
  | native {call : NativeCall T} {balances : T.Balances} :
      ChainStep s (.native call) (s.setBalances balances)
  | createCollection {sender : T.CrossAccountId} {issuer : CollectionIssuer T}
      {data : CreateCollectionData T.CrossAccountId} {collection : Collection T.AccountId}
      {properties : CollectionProperties} {permissions : PropertiesPermissionMap}
      {adminAmount : FiniteMap CollectionId ℕ}
      {isAdmin : FiniteMap (CollectionId × T.CrossAccountId) Bool} {balances : T.Balances}
      (hwidth : s.common.createdCollectionCount + 1 ≤ u32Max)
      (hmode : collection.mode = data.mode)
      (hlimits : CollectionLimits.Tightens {} collection.limits) :
      ChainStep s (.createCollection sender issuer data)
        ((s.setBalances balances).mapCommon
          (addCollection collection properties permissions adminAmount isAdmin))
  | destroyCollection {sender : T.CrossAccountId} {handle : CollectionHandle T} {s' : State T}
      (hnative : handle.id ≠ nativeFungibleCollectionId)
      (hfound : s.common.collectionById.get handle.id = some handle.collection)
      (hstep : Destroyed handle s s') : ChainStep s (.destroyCollection sender handle.id) s'
  | settings {handle : CollectionHandle T} {call : SettingsCall T} {common : CommonStorage T}
      (hfound : s.common.collectionById.get handle.id = some handle.collection)
      (hstep : SettingsStep handle s.common common) :
      ChainStep s (.settings handle.id call) (s.mapCommon fun _ => common)
  | sponsor {collection : CollectionId} {withdrawal : Withdrawal T} {blockNumber : ℕ}
      {unique : UniqueStorage T} :
      ChainStep s (.sponsor collection withdrawal blockNumber) (s.mapUnique fun _ => unique)

theorem Call.execute_ok (hrun : call.execute.run s = .ok () s') :
    ∃ s₁, ChainStep s call s₁ ∧ s'.storage = s₁.storage := by
  cases call with
  | nonfungible collection call =>
    obtain ⟨handle, hfound, hexecuted⟩ := Call.nonfungible_ok.mp hrun
    obtain rfl := (dispatch_eq_nonfungible.mp hfound).2.1
    obtain ⟨nonfungible, hstep, hstorage⟩ := NonfungibleCall.execute_ok hfound hexecuted
    exact ⟨_, .nonfungible hfound hstep, hstorage⟩
  | fungible collection call =>
    obtain ⟨handle, hfound, hexecuted⟩ := Call.fungible_ok.mp hrun
    obtain rfl := (dispatch_eq_fungible.mp hfound).2.1
    obtain ⟨s₁, hstep, hstorage⟩ := FungibleCall.execute_ok hexecuted
    exact ⟨s₁, .fungible hfound hstep, hstorage⟩
  | refungible collection call =>
    obtain ⟨handle, hfound, hexecuted⟩ := Call.refungible_ok.mp hrun
    obtain rfl := (dispatch_eq_refungible.mp hfound).2.1
    obtain ⟨s₁, hstep, hstorage⟩ := RefungibleCall.execute_ok hfound hexecuted
    exact ⟨s₁, .refungible hfound hstep, hstorage⟩
  | native call =>
    obtain ⟨balances, hstorage⟩ := NativeCall.execute_ok hrun
    exact ⟨_, .native, hstorage⟩
  | createCollection sender issuer data =>
    obtain ⟨hwidth, collection, properties, permissions, adminAmount, isAdmin, balances, hmode,
      hlimits, hstorage⟩ := createCollection_ok hrun
    exact ⟨_, .createCollection hwidth hmode hlimits, hstorage⟩
  | destroyCollection sender collection =>
    obtain ⟨hnative, handle, hfound, s₁, hstep, hstorage⟩ := destroyCollection_ok hrun
    obtain rfl := hfound.id_eq
    exact ⟨s₁, .destroyCollection hnative hfound.stored hstep, hstorage⟩
  | settings collection call =>
    obtain ⟨handle, hfound, hrun⟩ := Call.settings_ok.mp hrun
    obtain ⟨common, hstep, hstorage⟩ := SettingsCall.execute_ok hrun
    obtain rfl := hfound.id_eq
    exact ⟨_, .settings hfound.stored hstep, hstorage⟩
  | sponsor collection withdrawal blockNumber =>
    obtain ⟨unique, rfl⟩ := sponsor_ok hrun
    exact ⟨_, .sponsor, rfl⟩

/-! ## What an operation leaves alone -/

/-- Outside the storages of fungible and refungible tokens, only the index of children may
have changed. -/
structure Frame (s s' : State T) : Prop where
  common : s'.common = s.common
  balances : s'.balances = s.balances
  unique : s'.unique = s.unique
  nonfungible : ∃ tokenChildren, s'.nonfungible = { s.nonfungible with tokenChildren }

theorem Frame.mapFungible {f : FungibleStorage T → FungibleStorage T} (hframe : Frame s s') :
    Frame s (s'.mapFungible f) :=
  ⟨hframe.common, hframe.balances, hframe.unique, hframe.nonfungible⟩

theorem Frame.mapRefungible {f : RefungibleStorage T → RefungibleStorage T}
    (hframe : Frame s s') : Frame s (s'.mapRefungible f) :=
  ⟨hframe.common, hframe.balances, hframe.unique, hframe.nonfungible⟩

/-- An operation on a fungible collection changes the fungible storage and the
index of children only. -/
theorem Fungible.Step.frame {call : FungibleCall T}
    (hstep : Fungible.Step handle s call s') : Frame s s' ∧ s'.refungible = s.refungible := by
  have htransferred : ∀ {from' to' : T.CrossAccountId} {amount : ℕ},
      let after := Fungible.transferredState handle.id from' to' amount s
      Frame s after ∧ after.refungible = s.refungible := by
    intro from' to' amount
    unfold Fungible.transferredState
    split
    · exact ⟨⟨rfl, rfl, rfl, _, rfl⟩, rfl⟩
    · exact ⟨⟨rfl, rfl, rfl, s.nonfungible.tokenChildren, rfl⟩, rfl⟩
  cases hstep with
  | createMultipleItems hchecks => exact ⟨⟨rfl, rfl, rfl, _, rfl⟩, rfl⟩
  | transfer hchecks => exact htransferred
  | transferFrom hallowed haccess hchecks => exact htransferred.imp .mapFungible id
  | burn hchecks => exact ⟨⟨rfl, rfl, rfl, _, rfl⟩, rfl⟩
  | burnFrom hallowed haccess hchecks => exact ⟨⟨rfl, rfl, rfl, _, rfl⟩, rfl⟩
  | _ => exact ⟨⟨rfl, rfl, rfl, s.nonfungible.tokenChildren, rfl⟩, rfl⟩

/-- An operation on a refungible collection changes the refungible storage and
the index of children only. -/
theorem Refungible.Step.frame {call : RefungibleCall T}
    (hstep : Refungible.Step handle s call s') : Frame s s' ∧ s'.fungible = s.fungible := by
  have htransferred : ∀ {token : Token} {from' to' : T.CrossAccountId} {amount : ℕ},
      let after := Refungible.transferredState token from' to' amount s
      Frame s after ∧ after.fungible = s.fungible := by
    intro token from' to' amount
    unfold Refungible.transferredState
    split
    · exact ⟨⟨rfl, rfl, rfl, _, rfl⟩, rfl⟩
    · exact ⟨⟨rfl, rfl, rfl, s.nonfungible.tokenChildren, rfl⟩, rfl⟩
  have hburnt : ∀ {token : Token} {owner : T.CrossAccountId} {amount : ℕ},
      let after := Refungible.burntState token owner amount s
      Frame s after ∧ after.fungible = s.fungible := by
    intro token owner amount
    unfold Refungible.burntState
    simp only
    split <;> exact ⟨⟨rfl, rfl, rfl, _, rfl⟩, rfl⟩
  cases hstep with
  | createMultipleItems hchecks hkept => exact ⟨⟨rfl, rfl, rfl, _, rfl⟩, rfl⟩
  | transfer hchecks => exact htransferred
  | transferFrom hallowed haccess hchecks => exact htransferred.imp .mapRefungible id
  | burn hchecks => exact hburnt
  | burnFrom hallowed haccess hchecks hself => exact hburnt.imp .mapRefungible id
  | _ => exact ⟨⟨rfl, rfl, rfl, s.nonfungible.tokenChildren, rfl⟩, rfl⟩

/-! ## What a call can do to the storage of one pallet -/

/-- The storage of non-fungible tokens is changed by operations on them, by the
destruction of a collection without tokens, and in the index of children. -/
inductive Nonfungible.StorageStep (s : State T) (call : Call T) : NonfungibleStorage T → Prop
  | operation {handle : CollectionHandle T} {operation : NonfungibleCall T}
      {nonfungible : NonfungibleStorage T} (hcall : call = .nonfungible handle.id operation)
      (hfound : dispatch s handle.id = some (.nonfungible handle))
      (hstep : Nonfungible.Step handle s operation nonfungible) :
      StorageStep s call nonfungible
  | cleared {id : CollectionId} (hempty : Nonfungible.collectionHasTokens s id = false) :
      StorageStep s call (Nonfungible.clearCollection id s.nonfungible)
  | children {tokenChildren : Children} :
      StorageStep s call { s.nonfungible with tokenChildren }

/-- The storage of fungible tokens is changed by operations on them and by the
destruction of a collection without tokens. -/
inductive Fungible.StorageStep (s : State T) (call : Call T) : FungibleStorage T → Prop
  | operation {handle : CollectionHandle T} {operation : FungibleCall T} {s' : State T}
      (hcall : call = .fungible handle.id operation)
      (hfound : dispatch s handle.id = some (.fungible handle))
      (hstep : Fungible.Step handle s operation s') : StorageStep s call s'.fungible
  | cleared {id : CollectionId} (hempty : Fungible.collectionHasTokens s id = false) :
      StorageStep s call (Fungible.clearCollection id s.fungible)
  | unchanged : StorageStep s call s.fungible

/-- The storage of refungible tokens is changed by operations on them and by the
destruction of a collection without tokens. -/
inductive Refungible.StorageStep (s : State T) (call : Call T) : RefungibleStorage T → Prop
  | operation {handle : CollectionHandle T} {operation : RefungibleCall T} {s' : State T}
      (hcall : call = .refungible handle.id operation)
      (hfound : dispatch s handle.id = some (.refungible handle))
      (hstep : Refungible.Step handle s operation s') : StorageStep s call s'.refungible
  | cleared {id : CollectionId} (hempty : Refungible.collectionHasTokens s id = false) :
      StorageStep s call (Refungible.clearCollection id s.refungible)
  | unchanged : StorageStep s call s.refungible

/-- The storage of the pallet `common` is changed by operations on collections. -/
inductive CommonStep (s : State T) (call : Call T) : CommonStorage T → Prop
  | settings {handle : CollectionHandle T} {common : CommonStorage T}
      (hfound : s.common.collectionById.get handle.id = some handle.collection)
      (hstep : SettingsStep handle s.common common) : CommonStep s call common
  | created {collection : Collection T.AccountId}
      {properties : CollectionProperties} {permissions : PropertiesPermissionMap}
      {adminAmount : FiniteMap CollectionId ℕ}
      {isAdmin : FiniteMap (CollectionId × T.CrossAccountId) Bool}
      (hlimits : CollectionLimits.Tightens {} collection.limits) :
      CommonStep s call
        (addCollection collection properties permissions adminAmount isAdmin s.common)
  | destroyed {handle : CollectionHandle T}
      (hfound : s.common.collectionById.get handle.id = some handle.collection) :
      CommonStep s call (forgetCollection handle.id s.common)
  | unchanged : CommonStep s call s.common

/-- What a call can do to the storage of each pallet. -/
structure PalletSteps (s : State T) (call : Call T) (s' : State T) : Prop where
  nonfungible : Nonfungible.StorageStep s call s'.nonfungible
  fungible : Fungible.StorageStep s call s'.fungible
  refungible : Refungible.StorageStep s call s'.refungible
  common : CommonStep s call s'.common

theorem ChainStep.pallets (hstep : ChainStep s call s') : PalletSteps s call s' := by
  cases hstep with
  | nonfungible hfound hstep =>
    exact ⟨.operation rfl hfound hstep, .unchanged, .unchanged, .unchanged⟩
  | fungible hfound hstep =>
    obtain ⟨⟨hcommon, _, _, children, hnonfungible⟩, hrefungible⟩ := hstep.frame
    exact ⟨hnonfungible ▸ .children, .operation rfl hfound hstep, hrefungible ▸ .unchanged,
      hcommon ▸ .unchanged⟩
  | refungible hfound hstep =>
    obtain ⟨⟨hcommon, _, _, children, hnonfungible⟩, hfungible⟩ := hstep.frame
    exact ⟨hnonfungible ▸ .children, hfungible ▸ .unchanged, .operation rfl hfound hstep,
      hcommon ▸ .unchanged⟩
  | native => exact ⟨.children, .unchanged, .unchanged, .unchanged⟩
  | createCollection hwidth hmode hlimits =>
    exact ⟨.children, .unchanged, .unchanged, .created hlimits⟩
  | destroyCollection hnative hfound hstep =>
    cases hstep with
    | nonfungible hmode hempty =>
      exact ⟨.cleared hempty, .unchanged, .unchanged, .destroyed hfound⟩
    | fungible hmode hempty =>
      exact ⟨.children, .cleared hempty, .unchanged, .destroyed hfound⟩
    | refungible hmode hempty =>
      exact ⟨.children, .unchanged, .cleared hempty, .destroyed hfound⟩
  | settings hfound hstep => exact ⟨.children, .unchanged, .unchanged, .settings hfound hstep⟩
  | sponsor => exact ⟨.children, .unchanged, .unchanged, .unchanged⟩

/-- What is stored of a collection is changed by calls about it only. -/
theorem ChainStep.collectionById_eq {collection : CollectionId} (hstep : ChainStep s call s')
    (hcreate : ∀ sender issuer data, call = .createCollection sender issuer data →
      collection ≠ s.common.createdCollectionCount + 1)
    (hsettings : ∀ operation, call ≠ .settings collection operation)
    (hdestroy : ∀ sender, call ≠ .destroyCollection sender collection) :
    s'.common.collectionById.get collection = s.common.collectionById.get collection := by
  cases hstep with
  | fungible hfound hoperation => rw [hoperation.frame.1.common]
  | refungible hfound hoperation => rw [hoperation.frame.1.common]
  | createCollection hwidth hmode hlimits =>
    exact get_insert_of_ne _ _ (hcreate _ _ _ rfl)
  | @destroyCollection sender handle _ hnative hfound hdestroyed =>
    have hne : collection ≠ handle.id := by
      rintro rfl
      exact hdestroy sender rfl
    cases hdestroyed with
    | nonfungible hmode hempty => exact get_erase_of_ne _ hne
    | fungible hmode hempty => exact get_erase_of_ne _ hne
    | refungible hmode hempty => exact get_erase_of_ne _ hne
  | @settings handle operation common hfound hchange =>
    have hne : collection ≠ handle.id := by
      rintro rfl
      exact hsettings operation rfl
    cases hchange with
    | unchanged => rfl
    | collection hmode hlimits => exact get_insert_of_ne _ _ hne
    | allowlist => rfl
    | admins => rfl
    | permissions hkeeps => rfl
  | _ => rfl

/-! ## Runs -/

theorem chainStep_of_step {extrinsic : Extrinsic T} (hstep : step s extrinsic = some s') :
    ∃ s₁, ChainStep (s.setBudget extrinsic.budget) extrinsic.call s₁ ∧ s'.storage = s₁.storage :=
  Call.execute_ok (step_eq_some.mp hstep)

/-- A property that depends on the storage only. -/
def OfStorage (P : State T → Prop) : Prop :=
  ∀ {s s' : State T}, s'.storage = s.storage → P s → P s'

theorem OfStorage.nonfungible (P : NonfungibleStorage T → Prop) :
    OfStorage fun s : State T => P s.nonfungible := by
  intro s s' hstorage hs
  show P s'.nonfungible
  rwa [(State.storage_eq_iff.mp hstorage).2.1]

theorem OfStorage.fungible (P : FungibleStorage T → Prop) :
    OfStorage fun s : State T => P s.fungible := by
  intro s s' hstorage hs
  show P s'.fungible
  rwa [(State.storage_eq_iff.mp hstorage).2.2.1]

theorem OfStorage.refungible (P : RefungibleStorage T → Prop) :
    OfStorage fun s : State T => P s.refungible := by
  intro s s' hstorage hs
  show P s'.refungible
  rwa [(State.storage_eq_iff.mp hstorage).2.2.2.1]

theorem OfStorage.common (P : CommonStorage T → Prop) :
    OfStorage fun s : State T => P s.common := by
  intro s s' hstorage hs
  show P s'.common
  rwa [(State.storage_eq_iff.mp hstorage).1]

theorem OfStorage.and {P Q : State T → Prop} (hfirst : OfStorage P) (hsecond : OfStorage Q) :
    OfStorage fun s => P s ∧ Q s :=
  fun hstorage hboth => ⟨hfirst hstorage hboth.1, hsecond hstorage hboth.2⟩

/-- What holds at genesis and is kept by every step that meets the condition
`Allowed` holds at the end of every run whose steps all meet it. -/
theorem Reaches.invariant (Allowed : State T → Extrinsic T → Prop)
    {balances : T.Balances} (hstorage : OfStorage P) (hgenesis : P (genesis balances))
    (hkeeps : ∀ s extrinsic s', P s → Allowed s extrinsic →
      ChainStep (s.setBudget extrinsic.budget) extrinsic.call s' → P s')
    (hrun : Reaches balances history s)
    (hallowed : ∀ event ∈ history, Allowed event.state event.call) : P s := by
  refine Run.invariant Allowed hgenesis (fun s extrinsic s' hbefore hallows hstep => ?_)
    hrun hallowed
  obtain ⟨s₁, hchain, hsame⟩ := chainStep_of_step hstep
  exact hstorage hsame (hkeeps s extrinsic s₁ hbefore hallows hchain)

/-- The same with an invariant `Base` of all reachable states at hand. -/
theorem Reaches.invariant_of_base (Base : State T → Prop)
    (Allowed : State T → Extrinsic T → Prop) {balances : T.Balances}
    (hbaseStorage : OfStorage Base) (hbase : ∀ {s}, Reachable s → Base s) (hstorage : OfStorage P)
    (hgenesis : P (genesis balances))
    (hkeeps : ∀ s extrinsic s', Base (s.setBudget extrinsic.budget) →
      P (s.setBudget extrinsic.budget) → Allowed s extrinsic →
      ChainStep (s.setBudget extrinsic.budget) extrinsic.call s' → P s')
    (hrun : Reaches balances history s)
    (hallowed : ∀ event ∈ history, Allowed event.state event.call) : P s := by
  refine Run.invariant_of_base Allowed (fun hrun => hbase ⟨balances, _, hrun⟩) hgenesis
    (fun s extrinsic s' hbefore _ hs hallows hstep => ?_) hrun hallowed
  obtain ⟨s₁, hchain, hsame⟩ := chainStep_of_step hstep
  exact hstorage hsame (hkeeps s extrinsic s₁ (hbaseStorage State.storage_setBudget hbefore)
    (hstorage State.storage_setBudget hs) hallows hchain)

/-- What holds in a state and is kept by every step holds after every run from it. -/
theorem invariant_of_run (hstorage : OfStorage P)
    (hstart : P s) (hkeeps : ∀ s call s', P s → ChainStep s call s' → P s')
    (hrun : Run step s history s') : P s' := by
  refine Run.invariant (fun _ _ => True) hstart
    (fun s extrinsic s' hbefore _ hstep => ?_) hrun fun _ _ => trivial
  obtain ⟨s₁, hchain, hsame⟩ := chainStep_of_step hstep
  exact hstorage hsame (hkeeps _ _ s₁ (hstorage State.storage_setBudget hbefore) hchain)

/-- What holds at genesis and is kept by every step holds in every reachable
state. -/
theorem Reachable.invariant (hstorage : OfStorage P) (hgenesis : ∀ balances, P (genesis balances))
    (hkeeps : ∀ s call s', P s → ChainStep s call s' → P s') (hreachable : Reachable s) : P s := by
  obtain ⟨balances, history, hrun⟩ := hreachable
  exact invariant_of_run hstorage (hgenesis balances) hkeeps hrun

end UniqueChain
