import UniqueChain.Model.State

/-!
# Collection handles

A handle is a collection read from storage together with its identifier.  This
file has the checks every pallet makes through a handle, and the dispatch from
an identifier to the kind of collection behind it.
-/

namespace UniqueChain

open FiniteMap
open Execution (read update ensure okOr fail)

/-- A collection that was loaded from storage. -/
structure CollectionHandle (T : Config) where
  id : CollectionId
  collection : Collection T.AccountId

variable {T : Config}

variable {handle : CollectionHandle T} {id : CollectionId} {owners : List T.CrossAccountId}
  {users : List T.CrossAccountId} {s : State T}

namespace CollectionHandle

variable (handle : CollectionHandle T)

/-- The owner counts under every cross account of theirs. -/
def isOwnerOrAdmin (s : State T) (user : T.CrossAccountId) : Bool :=
  T.asSub user = handle.collection.owner || s.common.isAdmin.getD (handle.id, user) false

/-- The user is the owner or an admin, and these may transfer any token. -/
def ignoresTokenRestrictions (s : State T) (user : T.CrossAccountId) : Bool :=
  handle.collection.limits.ownerCanTransfer && handle.isOwnerOrAdmin s user

/-- Whether a user may dispose of the tokens of others. -/
def ignoresOwnedAmount (s : State T) (user : T.CrossAccountId) : Bool :=
  handle.collection.limits.ownerCanTransfer && handle.isOwnerOrAdmin s user

/-- The user is in the allow list. -/
def allowlisted (s : State T) (user : T.CrossAccountId) : Bool :=
  s.common.allowlist.getD (handle.id, user) false

/-- Refuses collections of other chains. -/
def checkIsInternal : Exec T Unit :=
  ensure (handle.collection.flags.external = false) CommonError.collectionIsExternal

/-- Refuses all but the owner. -/
def checkIsOwner (user : T.CrossAccountId) : Exec T Unit :=
  ensure (T.asSub user = handle.collection.owner) CommonError.noPermission

/-- Refuses all but the owner and the admins. -/
def checkIsOwnerOrAdmin (user : T.CrossAccountId) : Exec T Unit := do
  let s ← read
  ensure (handle.isOwnerOrAdmin s user) CommonError.noPermission

/-- Refuses accounts that are not on the allow list. -/
def checkAllowlist (user : T.CrossAccountId) : Exec T Unit := do
  let s ← read
  ensure (handle.allowlisted s user) CommonError.addressNotInAllowlist

/-- The check every operation makes in allow-list mode, of all the given users. -/
def checkAccess (users : List T.CrossAccountId) : Exec T Unit :=
  if handle.collection.permissions.access = .allowList then
    Execution.forEach handle.checkAllowlist users
  else
    pure ()

/-- The sender may mint to the given owners. -/
def checkMintAuthority (sender : T.CrossAccountId) (owners : List T.CrossAccountId) :
    Exec T Unit := do
  let s ← read
  if handle.isOwnerOrAdmin s sender then
    pure ()
  else do
    ensure (handle.collection.permissions.mintMode = true) CommonError.publicMintingNotAllowed
    Execution.forEach handle.checkAllowlist (sender :: owners)

/-- Stores the collection of the handle. -/
def save : Exec T Unit :=
  update (·.mapCommon fun common =>
    { common with collectionById := common.collectionById.insert handle.id handle.collection })

end CollectionHandle

section

variable {t : State T} {user : T.CrossAccountId} (hcommon : t.common = s.common)

@[simp] theorem CollectionHandle.isOwnerOrAdmin_setBudget {budget : ℕ} :
    handle.isOwnerOrAdmin (s.setBudget budget) user = handle.isOwnerOrAdmin s user := rfl

include hcommon

theorem CollectionHandle.isOwnerOrAdmin_congr :
    handle.isOwnerOrAdmin t user = handle.isOwnerOrAdmin s user := by
  rw [isOwnerOrAdmin, isOwnerOrAdmin, hcommon]

theorem CollectionHandle.allowlisted_congr :
    handle.allowlisted t user = handle.allowlisted s user := by
  rw [allowlisted, allowlisted, hcommon]

end

/-- The zero Ethereum address is reserved. -/
def ensureCorrectReceiver (receiver : T.CrossAccountId) : Exec T Unit :=
  ensure (T.zeroAccount ≠ receiver) CommonError.addressIsZero

/-- Loads a collection. -/
def tryGet (id : CollectionId) : Exec T (CollectionHandle T) := do
  let s ← read
  let collection ← okOr (s.common.collectionById.get id) CommonError.collectionNotFound
  pure ⟨id, collection⟩

/-! ## Counting the receivers of a mint -/

/-- The counters of all receivers after a mint.  A counter is read from storage
when its account is met first, and goes up each time the account is met. -/
def countReceivers (stored : T.CrossAccountId → ℕ) (limit : ℕ) :
    List T.CrossAccountId → AssocMap T.CrossAccountId ℕ → Exec T (AssocMap T.CrossAccountId ℕ)
  | [], balances => pure balances
  | owner :: rest, balances => do
    let balance ← okOr (checkedAdd u32Max ((balances.get owner).getD (stored owner)) 1)
      DispatchError.overflow
    ensure (balance ≤ limit) CommonError.accountTokenLimitExceeded
    countReceivers stored limit rest (balances.insert owner balance)

/-- Store the counters. -/
def storeCounters (collection : CollectionId) (balances : AssocMap T.CrossAccountId ℕ)
    (accountBalance : FiniteMap (CollectionId × T.CrossAccountId) ℕ) :
    FiniteMap (CollectionId × T.CrossAccountId) ℕ :=
  accountBalance.insertEach balances.entries (fun entry => (collection, entry.1)) Prod.snd

/-- Counting changes nothing but the counters. -/
theorem countReceivers_state {stored : T.CrossAccountId → ℕ} {limit : ℕ}
    {balances result : AssocMap T.CrossAccountId ℕ} {s s' : State T}
    (hrun : (countReceivers stored limit owners balances).run s = .ok result s') : s = s' := by
  induction owners generalizing balances with
  | nil => exact (Execution.pure_ok.mp hrun).2
  | cons head rest ih =>
    simp only [countReceivers, Execution.okOr_bind_ok, Execution.ensure_bind_ok] at hrun
    obtain ⟨_, _, _, hrun⟩ := hrun
    exact ih hrun

/-- The counters after each of the listed accounts is counted once. -/
def countEach (collection : CollectionId) (owners : List T.CrossAccountId)
    (accountBalance : FiniteMap (CollectionId × T.CrossAccountId) ℕ) :
    FiniteMap (CollectionId × T.CrossAccountId) ℕ :=
  owners.foldl (fun accountBalance owner =>
    accountBalance.insert (collection, owner) (accountBalance.getD (collection, owner) 0 + 1))
    accountBalance

section StoredCounters

variable {collection other : CollectionId} {balances result : AssocMap T.CrossAccountId ℕ}
  {accountBalance : FiniteMap (CollectionId × T.CrossAccountId) ℕ} {s s' : State T} {limit : ℕ}

theorem getD_countEach (other : CollectionId) (account : T.CrossAccountId) :
    (countEach collection owners accountBalance).getD (other, account) 0 =
      accountBalance.getD (other, account) 0 +
        if other = collection then owners.count account else 0 := by
  induction owners generalizing accountBalance with
  | nil => simp [countEach]
  | cons head rest ih =>
    refine ih.trans ?_
    rw [getD_insert, List.count_cons]
    by_cases hother : other = collection
    · by_cases hhead : account = head
      · simp [hother, hhead]
        omega
      · simp [hother, hhead, Ne.symm hhead]
    · simp [hother]

theorem get_countEach_of_ne (hother : other ≠ collection) (account : T.CrossAccountId) :
    (countEach collection owners accountBalance).get (other, account) =
      accountBalance.get (other, account) := by
  induction owners generalizing accountBalance with
  | nil => rfl
  | cons head rest ih =>
    exact ih.trans (get_insert_of_ne _ _ fun heq => hother (Prod.mk.inj heq).1)

theorem get_storeCounters (account : T.CrossAccountId) :
    (storeCounters collection balances accountBalance).get (collection, account) =
      (balances.get account).or (accountBalance.get (collection, account)) := by
  have hkey : Function.Injective fun user : T.CrossAccountId => (collection, user) :=
    fun _ _ heq => (Prod.mk.inj heq).2
  exact AssocMap.get_insertEach hkey _ balances.nodup_keys accountBalance account

theorem get_storeCounters_of_ne (hother : other ≠ collection) (account : T.CrossAccountId) :
    (storeCounters collection balances accountBalance).get (other, account) =
      accountBalance.get (other, account) := by
  unfold storeCounters
  exact get_insertEach_of_forall_ne fun _ _ heq => hother (Prod.mk.inj heq).1

theorem getD_storeCounters (other : CollectionId) (account : T.CrossAccountId) :
    (storeCounters collection balances accountBalance).getD (other, account) 0 =
      if other = collection then
        (balances.get account).getD (accountBalance.getD (collection, account) 0)
      else accountBalance.getD (other, account) 0 := by
  unfold FiniteMap.getD
  split
  · rename_i hother
    rw [hother, get_storeCounters]
    cases balances.get account <;> rfl
  · rename_i hother
    rw [get_storeCounters_of_ne hother]

/-- A counter may be put into storage at once. -/
theorem storeCounters_insert {account : T.CrossAccountId} {balance : ℕ} :
    storeCounters collection (balances.insert account balance) accountBalance =
      (storeCounters collection balances accountBalance).insert (collection, account) balance := by
  refine ext_get ?_
  rintro ⟨other, user⟩
  rw [get_insert]
  by_cases hother : other = collection
  · subst hother
    rw [get_storeCounters, get_storeCounters, AssocMap.get_insert]
    by_cases huser : user = account
    · simp [huser]
    · simp [huser]
  · rw [get_storeCounters_of_ne hother, get_storeCounters_of_ne hother, if_neg]
    exact fun heq => hother (Prod.mk.inj heq).1

/-- Counting in a map and storing the map counts each account. -/
theorem storeCounters_of_countReceivers_ok
    (hrun : (countReceivers (fun owner => accountBalance.getD (collection, owner) 0) limit owners
      balances).run s = .ok result s') :
    storeCounters collection result accountBalance =
      countEach collection owners (storeCounters collection balances accountBalance) := by
  induction owners generalizing balances with
  | nil =>
    obtain ⟨rfl, rfl⟩ := Execution.pure_ok.mp hrun
    rfl
  | cons head rest ih =>
    simp only [countReceivers, Execution.okOr_bind_ok, Execution.ensure_bind_ok,
      checkedAdd_eq_some] at hrun
    obtain ⟨_, ⟨_, rfl⟩, _, hrun⟩ := hrun
    rw [ih hrun, storeCounters_insert]
    have hcurrent : (storeCounters collection balances accountBalance).getD
        (collection, head) 0 =
        (balances.get head).getD (accountBalance.getD (collection, head) 0) := by
      rw [getD_storeCounters, if_pos rfl]
    rw [← hcurrent]
    rfl

end StoredCounters

/-! ## What the checks say when they pass -/

section Checks

open Execution

variable {handle : CollectionHandle T} {user : T.CrossAccountId} {s s' : State T} {value : Unit}
  {receivers : List T.CrossAccountId}

@[simp] theorem CollectionHandle.checkIsInternal_ok :
    handle.checkIsInternal.run s = .ok value s' ↔
      handle.collection.flags.external = false ∧ s = s' := by
  simp [CollectionHandle.checkIsInternal]

@[simp] theorem CollectionHandle.checkIsOwner_ok :
    (handle.checkIsOwner user).run s = .ok value s' ↔
      T.asSub user = handle.collection.owner ∧ s = s' := by
  simp [CollectionHandle.checkIsOwner]

@[simp] theorem CollectionHandle.checkIsOwnerOrAdmin_ok :
    (handle.checkIsOwnerOrAdmin user).run s = .ok value s' ↔
      handle.isOwnerOrAdmin s user = true ∧ s = s' := by
  simp [CollectionHandle.checkIsOwnerOrAdmin]

@[simp] theorem CollectionHandle.checkAllowlist_ok :
    (handle.checkAllowlist user).run s = .ok value s' ↔
      handle.allowlisted s user = true ∧ s = s' := by
  simp [CollectionHandle.checkAllowlist]

theorem CollectionHandle.forEach_checkAllowlist_ok :
    (forEach handle.checkAllowlist users).run s = .ok value s' ↔
      (∀ user ∈ users, handle.allowlisted s user = true) ∧ s = s' :=
  forEach_ok_of_check (fun user s => handle.allowlisted s user = true)
    fun _ _ _ => CollectionHandle.checkAllowlist_ok

@[simp] theorem CollectionHandle.checkAccess_ok :
    (handle.checkAccess users).run s = .ok value s' ↔
      (handle.collection.permissions.access = .allowList →
        ∀ user ∈ users, handle.allowlisted s user = true) ∧ s = s' := by
  unfold CollectionHandle.checkAccess
  split
  · rename_i haccess
    simp only [forEach_checkAllowlist_ok, haccess, true_implies]
  · rename_i haccess
    simp [haccess]

@[simp] theorem CollectionHandle.checkMintAuthority_ok :
    (handle.checkMintAuthority user owners).run s = .ok value s' ↔
      (handle.isOwnerOrAdmin s user = true ∨
        handle.collection.permissions.mintMode = true ∧
          ∀ owner ∈ user :: owners, handle.allowlisted s owner = true) ∧ s = s' := by
  simp only [CollectionHandle.checkMintAuthority, read_bind_ok]
  by_cases hadmin : handle.isOwnerOrAdmin s user = true
  · simp [hadmin]
  · simp only [hadmin, Bool.false_eq_true, if_false, false_or, ensure_bind_ok,
      forEach_checkAllowlist_ok, and_assoc]

@[simp] theorem forEach_ensureCorrectReceiver_ok :
    (forEach ensureCorrectReceiver receivers).run s = .ok value s' ↔
      (∀ receiver ∈ receivers, T.zeroAccount ≠ receiver) ∧ s = s' :=
  forEach_ok_of_check (fun receiver _ => T.zeroAccount ≠ receiver) fun _ _ _ => by
    simp [ensureCorrectReceiver]

@[simp] theorem ensureCorrectReceiver_ok :
    (ensureCorrectReceiver user).run s = .ok value s' ↔ T.zeroAccount ≠ user ∧ s = s' := by
  simp [ensureCorrectReceiver]

section Sequences

variable {α : Type} {next : Unit → Exec T α} {result : α}

@[simp high] theorem CollectionHandle.checkIsInternal_bind_ok :
    (handle.checkIsInternal >>= next).run s = .ok result s' ↔
      handle.collection.flags.external = false ∧ (next ()).run s = .ok result s' :=
  bind_ok_of_check CollectionHandle.checkIsInternal_ok

@[simp high] theorem CollectionHandle.checkIsOwner_bind_ok :
    (handle.checkIsOwner user >>= next).run s = .ok result s' ↔
      T.asSub user = handle.collection.owner ∧ (next ()).run s = .ok result s' :=
  bind_ok_of_check CollectionHandle.checkIsOwner_ok

@[simp high] theorem CollectionHandle.checkIsOwnerOrAdmin_bind_ok :
    (handle.checkIsOwnerOrAdmin user >>= next).run s = .ok result s' ↔
      handle.isOwnerOrAdmin s user = true ∧ (next ()).run s = .ok result s' :=
  bind_ok_of_check CollectionHandle.checkIsOwnerOrAdmin_ok

@[simp high] theorem CollectionHandle.checkAccess_bind_ok :
    (handle.checkAccess users >>= next).run s = .ok result s' ↔
      (handle.collection.permissions.access = .allowList →
        ∀ user ∈ users, handle.allowlisted s user = true) ∧ (next ()).run s = .ok result s' :=
  bind_ok_of_check CollectionHandle.checkAccess_ok

@[simp high] theorem CollectionHandle.checkMintAuthority_bind_ok :
    (handle.checkMintAuthority user owners >>= next).run s = .ok result s' ↔
      (handle.isOwnerOrAdmin s user = true ∨
        handle.collection.permissions.mintMode = true ∧
          ∀ owner ∈ user :: owners, handle.allowlisted s owner = true) ∧
        (next ()).run s = .ok result s' :=
  bind_ok_of_check CollectionHandle.checkMintAuthority_ok

@[simp high] theorem ensureCorrectReceiver_bind_ok :
    (ensureCorrectReceiver user >>= next).run s = .ok result s' ↔
      T.zeroAccount ≠ user ∧ (next ()).run s = .ok result s' :=
  bind_ok_of_check ensureCorrectReceiver_ok

@[simp high] theorem forEach_ensureCorrectReceiver_bind_ok :
    (forEach ensureCorrectReceiver receivers >>= next).run s = .ok result s' ↔
      (∀ receiver ∈ receivers, T.zeroAccount ≠ receiver) ∧ (next ()).run s = .ok result s' :=
  bind_ok_of_check forEach_ensureCorrectReceiver_ok

end Sequences

@[simp] theorem tryGet_ok :
    (tryGet id).run s = .ok handle s' ↔
      handle.id = id ∧ s.common.collectionById.get id = some handle.collection ∧ s = s' := by
  obtain ⟨id', collection⟩ := handle
  simp only [tryGet, bind_ok, read_ok, okOr_ok, pure_ok, CollectionHandle.mk.injEq]
  constructor
  · rintro ⟨_, _, ⟨rfl, rfl⟩, found, _, ⟨hfound, rfl⟩, ⟨rfl, rfl⟩, rfl⟩
    exact ⟨rfl, hfound, rfl⟩
  · rintro ⟨rfl, hfound, rfl⟩
    exact ⟨s, s, ⟨rfl, rfl⟩, collection, s, ⟨hfound, rfl⟩, ⟨rfl, rfl⟩, rfl⟩

end Checks

/-! ## Dispatch -/

/-- A handle of known kind. -/
inductive CollectionDispatch (T : Config) where
  | fungible (handle : CollectionHandle T)
  | nonfungible (handle : CollectionHandle T)
  | refungible (handle : CollectionHandle T)
  | nativeFungible

namespace CollectionDispatch

/-- The pallet of a collection by its mode. -/
def ofCollection (id : CollectionId) (collection : Collection T.AccountId) : CollectionDispatch T :=
  match collection.mode with
  | .fungible _ => .fungible ⟨id, collection⟩
  | .nft => .nonfungible ⟨id, collection⟩
  | .reFungible => .refungible ⟨id, collection⟩

/-- `none` stands for the error `collectionNotFound`. -/
def dispatch (s : State T) (id : CollectionId) : Option (CollectionDispatch T) :=
  if id = nativeFungibleCollectionId then
    some .nativeFungible
  else
    (s.common.collectionById.get id).map (ofCollection id)

theorem dispatch_congr {t : State T} (hcommon : t.common = s.common) :
    dispatch t id = dispatch s id := by
  rw [dispatch, dispatch, hcommon]

theorem dispatch_eq_some {kind : CollectionDispatch T} :
    dispatch s id = some kind ↔
      (id = nativeFungibleCollectionId ∧ kind = .nativeFungible) ∨
        (id ≠ nativeFungibleCollectionId ∧ ∃ collection,
          s.common.collectionById.get id = some collection ∧
          kind = ofCollection id collection) := by
  unfold dispatch
  by_cases hnative : id = nativeFungibleCollectionId
  · simp [hnative, eq_comm]
  · simp [hnative, eq_comm]

/-- The kind of a handle is the mode of its collection. -/
theorem dispatch_eq_of_mode
    {kind : CollectionHandle T → CollectionDispatch T} (IsMode : CollectionMode → Prop)
    (hkind : ∀ collection handle, ofCollection id collection = kind handle ↔
      handle = ⟨id, collection⟩ ∧ IsMode collection.mode)
    (hnative : ∀ handle, kind handle ≠ .nativeFungible) :
    dispatch s id = some (kind handle) ↔
      id ≠ nativeFungibleCollectionId ∧ handle.id = id ∧
        s.common.collectionById.get id = some handle.collection ∧
        IsMode handle.collection.mode := by
  rw [dispatch_eq_some]
  constructor
  · rintro (⟨_, heq⟩ | ⟨hid, collection, hstored, heq⟩)
    · exact absurd heq (hnative handle)
    · obtain ⟨rfl, hmode⟩ := (hkind collection handle).mp heq.symm
      exact ⟨hid, rfl, hstored, hmode⟩
  · rintro ⟨hid, rfl, hstored, hmode⟩
    exact .inr ⟨hid, handle.collection, hstored, ((hkind _ handle).mpr ⟨rfl, hmode⟩).symm⟩

theorem dispatch_eq_nonfungible :
    dispatch s id = some (.nonfungible handle) ↔
      id ≠ nativeFungibleCollectionId ∧ handle.id = id ∧
        s.common.collectionById.get id = some handle.collection ∧
        handle.collection.mode = .nft := by
  refine dispatch_eq_of_mode (· = .nft) (fun collection handle => ?_) (by simp)
  unfold ofCollection
  cases hmode : collection.mode <;> simp [eq_comm]

theorem dispatch_eq_refungible :
    dispatch s id = some (.refungible handle) ↔
      id ≠ nativeFungibleCollectionId ∧ handle.id = id ∧
        s.common.collectionById.get id = some handle.collection ∧
        handle.collection.mode = .reFungible := by
  refine dispatch_eq_of_mode (· = .reFungible) (fun collection handle => ?_) (by simp)
  unfold ofCollection
  cases hmode : collection.mode <;> simp [eq_comm]

theorem dispatch_eq_fungible :
    dispatch s id = some (.fungible handle) ↔
      id ≠ nativeFungibleCollectionId ∧ handle.id = id ∧
        s.common.collectionById.get id = some handle.collection ∧
        ∃ decimals, handle.collection.mode = .fungible decimals := by
  refine dispatch_eq_of_mode (fun mode => ∃ decimals, mode = .fungible decimals)
    (fun collection handle => ?_) (by simp)
  unfold ofCollection
  cases hmode : collection.mode <;> simp [eq_comm]

end CollectionDispatch

end UniqueChain
