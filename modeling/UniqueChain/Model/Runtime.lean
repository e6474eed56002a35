import UniqueChain.Library.Transition
import UniqueChain.Model.Registry

/-!
# Calls and runs

The operations of all pallets as one type of calls, the execution of a call,
and the transition system they make: a call that fails leaves the state as it
was, as an extrinsic does.
-/

namespace UniqueChain

open Execution (read fail)

variable {T : Config}

/-- The operations of `pallet-nonfungible`. -/
inductive NonfungibleCall (T : Config) where
  | createMultipleItems (sender : T.CrossAccountId) (data : List (Nonfungible.CreateItemData T))
  | transfer (from' to' : T.CrossAccountId) (token : TokenId)
  | transferFrom (spender from' to' : T.CrossAccountId) (token : TokenId)
  | burn (sender : T.CrossAccountId) (token : TokenId)
  | burnFrom (spender from' : T.CrossAccountId) (token : TokenId)
  | setAllowance (sender : T.CrossAccountId) (token : TokenId) (spender : Option T.CrossAccountId)
  | setAllowanceFrom (sender from' : T.CrossAccountId) (token : TokenId)
      (to' : Option T.CrossAccountId)
  | setAllowanceForAll (owner operator : T.CrossAccountId) (approve : Bool)
  | modifyTokenProperties (sender : T.CrossAccountId) (token : TokenId)
      (updates : List PropertyUpdate)

/-- The operations of `pallet-fungible`. -/
inductive FungibleCall (T : Config) where
  | createMultipleItems (depositor : T.CrossAccountId) (data : AssocMap T.CrossAccountId ℕ)
  | transfer (from' to' : T.CrossAccountId) (amount : ℕ)
  | transferFrom (spender from' to' : T.CrossAccountId) (amount : ℕ)
  | burn (owner : T.CrossAccountId) (amount : ℕ)
  | burnFrom (spender from' : T.CrossAccountId) (amount : ℕ)
  | setAllowance (owner spender : T.CrossAccountId) (amount : ℕ)
  | setAllowanceFrom (sender from' to' : T.CrossAccountId) (amount : ℕ)

/-- The operations of `pallet-refungible`. -/
inductive RefungibleCall (T : Config) where
  | createMultipleItems (sender : T.CrossAccountId) (data : List (Refungible.CreateItemData T))
  | transfer (from' to' : T.CrossAccountId) (token : TokenId) (amount : ℕ)
  | transferFrom (spender from' to' : T.CrossAccountId) (token : TokenId) (amount : ℕ)
  | burn (owner : T.CrossAccountId) (token : TokenId) (amount : ℕ)
  | burnFrom (spender from' : T.CrossAccountId) (token : TokenId) (amount : ℕ)
  | repartition (owner : T.CrossAccountId) (token : TokenId) (amount : ℕ)
  | setAllowance (sender spender : T.CrossAccountId) (token : TokenId) (amount : ℕ)
  | setAllowanceFrom (sender from' to' : T.CrossAccountId) (token : TokenId) (amount : ℕ)
  | setAllowanceForAll (owner spender : T.CrossAccountId) (approve : Bool)
  | modifyTokenProperties (sender : T.CrossAccountId) (token : TokenId)
      (updates : List PropertyUpdate)

/-- An operation on the tokens of a collection. -/
inductive TokenCall (T : Config) where
  | nonfungible (call : NonfungibleCall T)
  | fungible (call : FungibleCall T)
  | refungible (call : RefungibleCall T)

/-- The operations on the native currency. -/
inductive NativeCall (T : Config) where
  | transfer (from' to' : T.CrossAccountId) (amount : ℕ)
  | transferFrom (spender from' to' : T.CrossAccountId) (amount : ℕ)

/-- The operations on one collection's settings. -/
inductive SettingsCall (T : Config) where
  | changeOwner (caller newOwner : T.CrossAccountId)
  | toggleAllowlist (sender user : T.CrossAccountId) (allowed : Bool)
  | toggleAdmin (sender user : T.CrossAccountId) (admin : Bool)
  | updateLimits (user : T.CrossAccountId) (limits : CollectionLimits)
  | updatePermissions (user : T.CrossAccountId) (permissions : CollectionPermissions)
  | setTransfersEnabledFlag (sender : T.CrossAccountId) (value : Bool)
  | setSponsor (sender : T.CrossAccountId) (sponsor : T.AccountId)
  | forceSetSponsor (sponsor : T.AccountId)
  | confirmSponsorship (sender : T.AccountId)
  | removeSponsor (sender : T.CrossAccountId)
  | forceRemoveSponsor
  | setTokenPropertyPermissions (sender : T.CrossAccountId)
      (entries : List PropertyKeyPermission)

/-- What an extrinsic asks for. -/
inductive Call (T : Config) where
  | nonfungible (collection : CollectionId) (call : NonfungibleCall T)
  | fungible (collection : CollectionId) (call : FungibleCall T)
  | refungible (collection : CollectionId) (call : RefungibleCall T)
  | native (call : NativeCall T)
  | createCollection (sender : T.CrossAccountId) (issuer : CollectionIssuer T)
      (data : CreateCollectionData T.CrossAccountId)
  | destroyCollection (sender : T.CrossAccountId) (collection : CollectionId)
  | settings (collection : CollectionId) (call : SettingsCall T)
  | sponsor (collection : CollectionId) (withdrawal : Withdrawal T) (blockNumber : ℕ)

/-! ## Execution -/

variable (handle : CollectionHandle T)

def NonfungibleCall.execute : NonfungibleCall T → Exec T Unit
  | .createMultipleItems sender data => Nonfungible.createMultipleItems handle sender data
  | .transfer from' to' token => Nonfungible.transfer handle from' to' token
  | .transferFrom spender from' to' token =>
    Nonfungible.transferFrom handle spender from' to' token
  | .burn sender token => Nonfungible.burn handle sender token
  | .burnFrom spender from' token => Nonfungible.burnFrom handle spender from' token
  | .setAllowance sender token spender => Nonfungible.setAllowance handle sender token spender
  | .setAllowanceFrom sender from' token to' =>
    Nonfungible.setAllowanceFrom handle sender from' token to'
  | .setAllowanceForAll owner operator approve =>
    Nonfungible.setAllowanceForAll handle owner operator approve
  | .modifyTokenProperties sender token updates =>
    Nonfungible.modifyTokenProperties handle sender token updates

def FungibleCall.execute : FungibleCall T → Exec T Unit
  | .createMultipleItems depositor data => Fungible.createMultipleItems handle depositor data
  | .transfer from' to' amount => Fungible.transfer handle from' to' amount
  | .transferFrom spender from' to' amount =>
    Fungible.transferFrom handle spender from' to' amount
  | .burn owner amount => Fungible.burn handle owner amount
  | .burnFrom spender from' amount => Fungible.burnFrom handle spender from' amount
  | .setAllowance owner spender amount => Fungible.setAllowance handle owner spender amount
  | .setAllowanceFrom sender from' to' amount =>
    Fungible.setAllowanceFrom handle sender from' to' amount

def RefungibleCall.execute : RefungibleCall T → Exec T Unit
  | .createMultipleItems sender data => Refungible.createMultipleItems handle sender data
  | .transfer from' to' token amount => Refungible.transfer handle from' to' token amount
  | .transferFrom spender from' to' token amount =>
    Refungible.transferFrom handle spender from' to' token amount
  | .burn owner token amount => Refungible.burn handle owner token amount
  | .burnFrom spender from' token amount => Refungible.burnFrom handle spender from' token amount
  | .repartition owner token amount => Refungible.repartition handle owner token amount
  | .setAllowance sender spender token amount =>
    Refungible.setAllowance handle sender spender token amount
  | .setAllowanceFrom sender from' to' token amount =>
    Refungible.setAllowanceFrom handle sender from' to' token amount
  | .setAllowanceForAll owner spender approve =>
    Refungible.setAllowanceForAll handle owner spender approve
  | .modifyTokenProperties sender token updates =>
    Refungible.modifyTokenProperties handle sender token updates

def TokenCall.execute : TokenCall T → Exec T Unit
  | .nonfungible call => call.execute handle
  | .fungible call => call.execute handle
  | .refungible call => call.execute handle

def NativeCall.execute : NativeCall T → Exec T Unit
  | .transfer from' to' amount => NativeFungible.transfer from' to' amount
  | .transferFrom spender from' to' amount => NativeFungible.transferFrom spender from' to' amount

def SettingsCall.execute : SettingsCall T → Exec T Unit
  | .changeOwner caller newOwner => UniqueChain.changeOwner handle caller newOwner
  | .toggleAllowlist sender user allowed => UniqueChain.toggleAllowlist handle sender user allowed
  | .toggleAdmin sender user admin => UniqueChain.toggleAdmin handle sender user admin
  | .updateLimits user limits => UniqueChain.updateLimits handle user limits
  | .updatePermissions user permissions => UniqueChain.updatePermissions handle user permissions
  | .setTransfersEnabledFlag sender value =>
    UniqueChain.setTransfersEnabledFlag handle sender value
  | .setSponsor sender sponsor => UniqueChain.setSponsor handle sender sponsor
  | .forceSetSponsor sponsor => UniqueChain.forceSetSponsor handle sponsor
  | .confirmSponsorship sender => UniqueChain.confirmSponsorship handle sender
  | .removeSponsor sender => UniqueChain.removeSponsor handle sender
  | .forceRemoveSponsor => UniqueChain.forceRemoveSponsor handle
  | .setTokenPropertyPermissions sender entries =>
    UniqueChain.setTokenPropertyPermissions handle sender entries

/-- Dispatch a call to its collection.  A call of one kind reaches only
collections of that kind. -/
def Call.execute : Call T → Exec T Unit
  | .nonfungible collection call => do
    let s ← read
    match CollectionDispatch.dispatch s collection with
    | some (.nonfungible handle) => call.execute handle
    | _ => fail CommonError.collectionNotFound
  | .fungible collection call => do
    let s ← read
    match CollectionDispatch.dispatch s collection with
    | some (.fungible handle) => call.execute handle
    | _ => fail CommonError.collectionNotFound
  | .refungible collection call => do
    let s ← read
    match CollectionDispatch.dispatch s collection with
    | some (.refungible handle) => call.execute handle
    | _ => fail CommonError.collectionNotFound
  | .native call => call.execute
  | .createCollection sender issuer data => UniqueChain.createCollection sender issuer data
  | .destroyCollection sender collection => UniqueChain.destroyCollection sender collection
  | .settings collection call => do
    let handle ← tryGet collection
    call.execute handle
  | .sponsor collection withdrawal blockNumber =>
    UniqueChain.sponsor collection withdrawal blockNumber

/-! ## Runs -/

/-- A call with the nesting budget it is given. -/
structure Extrinsic (T : Config) where
  call : Call T
  budget : ℕ

/-- The state after a successful call. -/
def step (s : State T) (extrinsic : Extrinsic T) : Option (State T) :=
  match extrinsic.call.execute.run (s.setBudget extrinsic.budget) with
  | .ok _ s' => some s'
  | .error _ _ => none

theorem step_eq_some {s s' : State T} {extrinsic : Extrinsic T} :
    step s extrinsic = some s' ↔
      extrinsic.call.execute.run (s.setBudget extrinsic.budget) = .ok () s' := by
  unfold step
  split <;> simp_all

/-- The successful calls of a run, the latest first, each with the state it was
made in. -/
abbrev History (T : Config) := List (CallRecord (State T) (Extrinsic T))

/-- A run from a genesis with the given balances. -/
def Reaches (balances : T.Balances) (history : History T) (s : State T) : Prop :=
  Run step (genesis balances) history s

/-- Some run ends in the state. -/
def Reachable (s : State T) : Prop := ∃ balances history, Reaches balances history s

theorem Reachable.step {s s' : State T} {extrinsic : Extrinsic T}
    (hreachable : Reachable s) (hstep : UniqueChain.step s extrinsic = some s') : Reachable s' := by
  obtain ⟨balances, history, hrun⟩ := hreachable
  exact ⟨balances, _, hrun.accepted hstep⟩

/-! ## Dispatch of a successful call -/

/-- The handle a call finds for its collection. -/
structure FoundHandle (s : State T) (collection : CollectionId) (handle : CollectionHandle T) :
    Prop where
  id_eq : handle.id = collection
  stored : s.common.collectionById.get collection = some handle.collection

section Dispatch

open Execution CollectionDispatch

variable {s s' : State T} {collection : CollectionId}

-- an operation runs on the handle that is found if the collection is of its kind
theorem Call.nonfungible_ok {call : NonfungibleCall T} :
    (Call.nonfungible collection call).execute.run s = .ok () s' ↔
      ∃ handle, dispatch s collection = some (.nonfungible handle) ∧
        (call.execute handle).run s = .ok () s' := by
  rw [Call.execute, read_bind_ok]
  rcases dispatch s collection with _ | _ | _ | _ <;> simp [fail_ok]

theorem Call.fungible_ok {call : FungibleCall T} :
    (Call.fungible collection call).execute.run s = .ok () s' ↔
      ∃ handle, dispatch s collection = some (.fungible handle) ∧
        (call.execute handle).run s = .ok () s' := by
  rw [Call.execute, read_bind_ok]
  rcases dispatch s collection with _ | _ | _ | _ <;> simp [fail_ok]

theorem Call.refungible_ok {call : RefungibleCall T} :
    (Call.refungible collection call).execute.run s = .ok () s' ↔
      ∃ handle, dispatch s collection = some (.refungible handle) ∧
        (call.execute handle).run s = .ok () s' := by
  rw [Call.execute, read_bind_ok]
  rcases dispatch s collection with _ | _ | _ | _ <;> simp [fail_ok]

theorem Call.settings_ok {call : SettingsCall T} :
    (Call.settings collection call).execute.run s = .ok () s' ↔
      ∃ handle, FoundHandle s collection handle ∧ (call.execute handle).run s = .ok () s' := by
  simp only [Call.execute, bind_ok, tryGet_ok]
  constructor
  · rintro ⟨handle, _, ⟨hid, hstored, rfl⟩, hrun⟩
    exact ⟨handle, ⟨hid, hstored⟩, hrun⟩
  · rintro ⟨handle, hfound, hrun⟩
    exact ⟨handle, s, ⟨hfound.id_eq, hfound.stored, rfl⟩, hrun⟩

end Dispatch

end UniqueChain
