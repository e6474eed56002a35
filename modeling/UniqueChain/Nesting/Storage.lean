import UniqueChain.Nesting.Checks
import UniqueChain.Nesting.Effects

/-!
# What the walks read and write

The walks up the nesting tree read storage and budget, and write the budget.
Everything else is the same after a walk, and so are the storage, the events and
the logs after a check that consists of walks.
-/

namespace UniqueChain

open Execution

variable {T : Config} {s s' : State T}

variable {handle : CollectionHandle T} {account : T.CrossAccountId} {sender : T.CrossAccountId}
  {child : Token} {token : Token} {under : TokenId}

/-- Everything but events, logs and budget. -/
def State.storage (s : State T) :
    CommonStorage T × NonfungibleStorage T × FungibleStorage T × RefungibleStorage T ×
      T.Balances × UniqueStorage T :=
  (s.common, s.nonfungible, s.fungible, s.refungible, s.balances, s.unique)

theorem State.storage_eq_iff :
    s'.storage = s.storage ↔ s'.common = s.common ∧ s'.nonfungible = s.nonfungible ∧
      s'.fungible = s.fungible ∧ s'.refungible = s.refungible ∧ s'.balances = s.balances ∧
      s'.unique = s.unique := by
  simp [State.storage]

/-- The same state with other events and logs. -/
def State.withRecords (events : List (Event T)) (logs : List Log) (s : State T) : State T :=
  { s with events, logs }

theorem State.eq_of_storage_eq (hstorage : s'.storage = s.storage) :
    s' = (s.withRecords s'.events s'.logs).setBudget s'.budget := by
  rw [State.storage_eq_iff] at hstorage
  cases s
  cases s'
  simp_all [State.withRecords, State.setBudget]

theorem State.eq_withRecords (hstorage : s'.storage = s.storage) (hbudget : s'.budget = s.budget) :
    s' = s.withRecords s'.events s'.logs := by
  refine (State.eq_of_storage_eq hstorage).trans ?_
  rw [hbudget]
  rfl

@[simp] theorem State.storage_depositEvent {event : Event T} :
    (s.depositEvent event).storage = s.storage := rfl

@[simp] theorem State.storage_depositLog {address : H160} {event : LogEvent} :
    (s.depositLog address event).storage = s.storage := rfl

section

variable (hstorage : s'.storage = s.storage)

include hstorage

theorem State.storage_mapNonfungible_congr {f : NonfungibleStorage T → NonfungibleStorage T} :
    (s'.mapNonfungible f).storage = (s.mapNonfungible f).storage := by
  simp only [State.storage_eq_iff] at hstorage
  simp [State.storage, hstorage]

theorem State.storage_mapFungible_congr {f : FungibleStorage T → FungibleStorage T} :
    (s'.mapFungible f).storage = (s.mapFungible f).storage := by
  simp only [State.storage_eq_iff] at hstorage
  simp [State.storage, hstorage]

theorem State.storage_mapRefungible_congr {f : RefungibleStorage T → RefungibleStorage T} :
    (s'.mapRefungible f).storage = (s.mapRefungible f).storage := by
  simp only [State.storage_eq_iff] at hstorage
  simp [State.storage, hstorage]

theorem State.storage_mapUnique_congr {f : UniqueStorage T → UniqueStorage T} :
    (s'.mapUnique f).storage = (s.mapUnique f).storage := by
  simp only [State.storage_eq_iff] at hstorage
  simp [State.storage, hstorage]

theorem State.storage_setChildren_congr {children : Children} :
    (s'.setChildren children).storage = (s.setChildren children).storage := by
  simp only [State.storage_eq_iff] at hstorage
  simp [State.storage, State.setChildren, hstorage]

end

@[simp] theorem State.storage_setBudget {budget : ℕ} : (s.setBudget budget).storage = s.storage :=
  rfl

theorem preservesOnError_withTransaction {α : Type} {body : Exec T α} :
    PreservesOnError State.storage (Exec.withTransaction body) :=
  .transactional fun _ _ => rfl

/-- A view that shows neither the budget nor events nor the logs of changed properties. -/
class IgnoresRecords {ν : Type} (view : State T → ν) : Prop where
  setBudget : ∀ budget s, view (s.setBudget budget) = view s
  depositEvent : ∀ event s, view (s.depositEvent event) = view s
  tokenChanged : ∀ address token s, view (s.depositLog address (.tokenChanged token)) = view s

instance : IgnoresRecords (State.storage : State T → _) where
  setBudget _ _ := rfl
  depositEvent _ _ := rfl
  tokenChanged _ _ _ := rfl

instance : IgnoresRecords (State.common : State T → _) where
  setBudget _ _ := rfl
  depositEvent _ _ := rfl
  tokenChanged _ _ _ := rfl

/-! ## Storage is kept

The walks keep every view that does not show the budget. -/

section Walks

variable {ν : Type} {view : State T → ν} [IgnoresRecords view]

theorem preserves_findTopmostOwner : Preserves view (findTopmostOwner token : Exec T _) := by
  refine .bind .read fun s => .bind (.update (IgnoresRecords.setBudget _)) fun _ => ?_
  split
  all_goals first | exact .fail | exact .pure

theorem preserves_getCheckedTopmostOwner {forNest : Option Token} :
    Preserves view (getCheckedTopmostOwner token forNest : Exec T _) := by
  refine .bind .read fun s => .bind .ensure fun _ =>
    .bind (.update (IgnoresRecords.setBudget _)) fun _ => ?_
  split
  · exact .pure
  · exact .fail

/-- The checks of the operations keep storage. -/
theorem checks_preserve :
    CheckAnalysis (T := T) State.storage (fun _ body => Preserves view body) fun _ => True where
  toCompositional := compositional_preserves
  dispatch _ _ := trivial
  common _ _ hstorage := (State.storage_eq_iff.mp hstorage).1
  read_bind _ hnext := .bind .read hnext
  findTopmostOwner _ := preserves_findTopmostOwner
  getCheckedTopmostOwner _ _ := preserves_getCheckedTopmostOwner

end Walks

/-- The index after an account is left with `balance` of a token: a holding that is used up
is no longer entered. -/
def debitedChildren (parent : Option Token) (token : Token) (balance : ℕ) (children : Children) :
    Children :=
  if balance = 0 then removeChild parent token children else children

/-! ## Answers of a check -/

/-- A check that answers yes. -/
def answersYes (check : Exec T Bool) (s : State T) : Bool :=
  match check.run s with
  | .ok answer _ => answer
  | .error _ _ => false

/-- The answer of a check, or the error it fails with. -/
def answer (check : Exec T Bool) (s : State T) : Except Failure Bool :=
  match check.run s with
  | .ok answer _ => .ok answer
  | .error error _ => .error error

theorem answersYes_iff {check : Exec T Bool} :
    answersYes check s = true ↔ answer check s = .ok true := by
  unfold answersYes answer
  cases check.run s <;> simp

/-! ## Spenders -/

section Spender

variable {α : Type} {spender from' : T.CrossAccountId} {self nested : α}
  {privileged approved : State T → α} {Approved : State T → Prop} [DecidablePred Approved]

/-- The check of a spender in all three pallets, and what it returns in each case. -/
def checkSpender (handle : CollectionHandle T) (spender from' : T.CrossAccountId) (self nested : α)
    (privileged approved : State T → α) (Approved : State T → Prop) [DecidablePred Approved] :
    Exec T α :=
  if T.convEq spender from' then
    pure self
  else do
    handle.checkAccess [spender]
    let s ← read
    if handle.ignoresTokenRestrictions s spender then
      pure (privileged s)
    else
      match T.addressToToken from' with
      | some source => do
        let owned ← checkIndirectlyOwned spender source none
        ensure (owned = true) CommonError.approvedValueTooLow
        pure nested
      | none => do
        ensure (Approved s) CommonError.approvedValueTooLow
        pure (approved s)

theorem checkSpender_ok {result : α}
    (hrun : (checkSpender handle spender from' self nested privileged approved Approved).run s =
      .ok result s') :
    SpendsBudget s s' ∧ (T.convEq spender from' = true ∧ result = self ∨
      T.convEq spender from' ≠ true ∧
      (handle.collection.permissions.access = .allowList → handle.allowlisted s spender = true) ∧
        (handle.ignoresTokenRestrictions s spender = true ∧ result = privileged s ∨
          (∃ source, T.addressToToken from' = some source ∧
            answersYes (checkIndirectlyOwned spender source none) s = true) ∧ result = nested ∨
          Approved s ∧ result = approved s)) := by
  rcases ite_ok.mp hrun with ⟨hself, hrun⟩ | ⟨hother, hrun⟩
  · obtain ⟨rfl, rfl⟩ := pure_ok.mp hrun
    exact ⟨.refl s, .inl ⟨hself, rfl⟩⟩
  simp only [CollectionHandle.checkAccess_bind_ok, read_bind_ok] at hrun
  obtain ⟨haccess, hrun⟩ := hrun
  have hlisted : handle.collection.permissions.access = .allowList →
      handle.allowlisted s spender = true := fun hlist => haccess hlist _ (by simp)
  rcases ite_ok.mp hrun with ⟨hprivileged, hrun⟩ | ⟨_, hrun⟩
  · obtain ⟨rfl, rfl⟩ := pure_ok.mp hrun
    exact ⟨.refl s, .inr ⟨hother, hlisted, .inl ⟨hprivileged, rfl⟩⟩⟩
  cases hsource : T.addressToToken from' with
  | some source =>
    rw [hsource] at hrun
    obtain ⟨owned, middle, howned, hrun⟩ := bind_ok.mp hrun
    simp only [ensure_bind_ok, pure_ok] at hrun
    obtain ⟨rfl, rfl, rfl⟩ := hrun
    have hyes : answersYes (checkIndirectlyOwned spender source none) s = true := by
      rw [answersYes, howned]
    exact ⟨(checkIndirectlyOwned_ok howned).1,
      .inr ⟨hother, hlisted, .inr (.inl ⟨⟨source, rfl, hyes⟩, rfl⟩)⟩⟩
  | none =>
    rw [hsource] at hrun
    simp only [ensure_bind_ok, pure_ok] at hrun
    obtain ⟨happroved, rfl, rfl⟩ := hrun
    exact ⟨.refl s, .inr ⟨hother, hlisted, .inr (.inr ⟨happroved, rfl⟩)⟩⟩

theorem CheckAnalysis.checkSpender {A : (α : Type) → Exec T α → Prop} {E : Failure → Prop}
    (hA : CheckAnalysis State.storage A E)
    (hread : ∀ s t, t.storage = s.storage → privileged t = privileged s ∧
      approved t = approved s ∧ (Approved t ↔ Approved s)) :
    A α (UniqueChain.checkSpender handle spender from' self nested privileged approved
      Approved) := by
  refine Compositional.ite (hA.pure _) (hA.bind hA.checkAccess fun _ _ =>
    hA.read_bind (fun s t hstorage => ?_) fun s => Compositional.ite (hA.pure _) ?_)
  · obtain ⟨hprivileged, happroved, hiff⟩ := hread s t hstorage
    simp only [CollectionHandle.ignoresTokenRestrictions, hprivileged, happroved, hiff,
      CollectionHandle.isOwnerOrAdmin_congr (hA.common s t hstorage)]
    congr!
  · split
    · exact hA.bind hA.checkIndirectlyOwned fun _ _ => hA.bind hA.ensure fun _ _ => hA.pure _
    · exact hA.bind hA.ensure fun _ _ => hA.pure _

end Spender

end UniqueChain
