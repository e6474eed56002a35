import UniqueChain.Model.PropertyWriter
import UniqueChain.Nesting.Simulation

/-!
# The lazy property writer and the eager rule

The writer of token properties evaluates four conditions only when it needs them
and remembers their values.  `WriterFacts` are these values, known beforehand,
and `WriterFacts.apply` is the rule the writer implements: it takes the updates
one after the other and checks every condition of every update.

The two are related by `Memo`, the invariant of the writer's loop: each lazy
value, evaluated now or already remembered, is the corresponding fact.  One
round of the loop takes the same decision as one step of the rule
(`writeTokenProperty_of_accepts`, `writeTokenProperty_fails`), and the loop
follows by induction over the updates.
-/

namespace UniqueChain

open Execution

variable {T : Config}

variable {updates : List PropertyUpdate} {info : PropertyWriterInfo T} {final : TokenProperties}

/-! ## The eager rule -/

/-- What decides whether an update of a token is accepted. -/
structure WriterFacts where
  permissions : PropertiesPermissionMap
  isCollectionAdmin : Bool
  tokenExists : Bool
  isTokenOwner : Bool

namespace WriterFacts

variable (facts : WriterFacts)

/-- The permission of a key; a key without one may not be written at all. -/
def permission (key : PropertyKey) : PropertyPermission :=
  (facts.permissions.get key).getD ⟨false, false, false⟩

/-- The sender has the permission, as an admin or as the owner of the token. -/
def grants (permission : PropertyPermission) : Bool :=
  (permission.collectionAdmin && facts.isCollectionAdmin) ||
    (permission.tokenOwner && facts.isTokenOwner)

/-- The update is accepted, given the properties the earlier updates have left. -/
def accepts (copy : TokenProperties) (update : PropertyUpdate) : Bool :=
  facts.tokenExists &&
    ((facts.permission update.1).mutable || (copy.get update.1).isNone) &&
    facts.grants (facts.permission update.1)

/-- The properties after a list of updates, if all of them are accepted. -/
def apply : List PropertyUpdate → TokenProperties → Option TokenProperties
  | [], copy => some copy
  | update :: rest, copy =>
    if facts.accepts copy update then
      match applyUpdate update copy with
      | .ok next => apply rest next
      | .error _ => none
    else
      none

end WriterFacts

/-! ## Remembered values -/

/-- The lazy value is `value`, in all states that satisfy `same`. -/
def LazyValue.Holds {α : Type} (same : State T → Prop) (value : α) : LazyValue T α → Prop
  | .pending compute => ∀ s, same s → compute.run s = .ok value s
  | .inProgress => False
  | .computed stored => stored = value

theorem LazyValue.Holds.run_value {α : Type} {same : State T → Prop} {value : α}
    {lazy : LazyValue T α} (hlazy : lazy.Holds same value) {s : State T} (hs : same s) :
    lazy.value.run s = .ok value s := by
  cases lazy with
  | pending compute =>
    rw [LazyValue.value_pending]
    exact hlazy s hs
  | inProgress => exact hlazy.elim
  | computed stored => exact pure_ok.mpr ⟨hlazy, rfl⟩

/-- What the owner check answers, in a state that has the storage and the budget
of `start`.  The check consumes budget, so it is made once at most, and the loop
goes on only after a positive answer. -/
def OwnerMemo (start : State T) (owner : Except Failure Bool) (s : State T) :
    LazyValue T (Except Failure Bool) → Prop
  | .pending compute => s.budget = start.budget ∧
      ∀ s, s.storage = start.storage → s.budget = start.budget →
        ∃ s', compute.run s = .ok owner s' ∧ s'.storage = start.storage
  | .inProgress => False
  | .computed stored => stored = owner ∧ owner = .ok true

/-- The lazy values of a writer are the facts, in a run that began at `start`. -/
structure Memo (facts : WriterFacts) (owner : Except Failure Bool) (start : State T)
    (copy : TokenProperties) (info : PropertyWriterInfo T) (s : State T) : Prop where
  storage : s.storage = start.storage
  isCollectionAdmin : info.collection.isCollectionAdmin.Holds
    (fun s => s.common = start.common) facts.isCollectionAdmin
  propertyPermissions : info.collection.propertyPermissions.Holds
    (fun s => s.common = start.common) facts.permissions
  isTokenExist : info.token.isTokenExist.Holds
    (fun s => s.storage = start.storage) facts.tokenExists
  storedProperties : info.token.storedProperties.Holds
    (fun s => s.storage = start.storage) copy
  isTokenOwner : OwnerMemo start owner s info.token.isTokenOwner

/-! ## One round of the loop -/

section Round

variable {facts : WriterFacts} {owner : Except Failure Bool} {start s : State T}
  {copy : TokenProperties} {info : PropertyWriterInfo T} {permission : PropertyPermission}
  {key : PropertyKey}

namespace Memo

section

variable (hmemo : Memo facts owner start copy info s)

include hmemo

theorem common : s.common = start.common :=
  (State.storage_eq_iff.mp hmemo.storage).1

theorem forcePropertyPermissions :
    ∃ info', info.forcePropertyPermissions.run s = .ok (facts.permissions, info') s ∧
      Memo facts owner start copy info' s := by
  unfold PropertyWriterInfo.forcePropertyPermissions
  rw [run_bind_of_ok (hmemo.propertyPermissions.run_value hmemo.common)]
  exact ⟨_, rfl, { hmemo with propertyPermissions := rfl }⟩

theorem forceIsCollectionAdmin :
    ∃ info', info.forceIsCollectionAdmin.run s = .ok (facts.isCollectionAdmin, info') s ∧
      Memo facts owner start copy info' s := by
  unfold PropertyWriterInfo.forceIsCollectionAdmin
  rw [run_bind_of_ok (hmemo.isCollectionAdmin.run_value hmemo.common)]
  exact ⟨_, rfl, { hmemo with isCollectionAdmin := rfl }⟩

theorem forceIsTokenExist :
    ∃ info', info.forceIsTokenExist.run s = .ok (facts.tokenExists, info') s ∧
      Memo facts owner start copy info' s := by
  unfold PropertyWriterInfo.forceIsTokenExist
  rw [run_bind_of_ok (hmemo.isTokenExist.run_value hmemo.storage)]
  exact ⟨_, rfl, { hmemo with isTokenExist := rfl }⟩

theorem forceStoredProperties :
    ∃ info', info.forceStoredProperties.run s = .ok (copy, info') s ∧
      Memo facts owner start copy info' s := by
  unfold PropertyWriterInfo.forceStoredProperties
  rw [run_bind_of_ok (hmemo.storedProperties.run_value hmemo.storage)]
  exact ⟨_, rfl, { hmemo with storedProperties := rfl }⟩

/-- The owner check answers yes, and the answer is remembered. -/
theorem forceIsTokenOwner (howner : owner = .ok true) :
    ∃ info' s', info.forceIsTokenOwner.run s = .ok (true, info') s' ∧
      Memo facts owner start copy info' s' := by
  have hvalue : ∃ s', info.token.isTokenOwner.value.run s = .ok owner s' ∧
      s'.storage = start.storage := by
    have hstored := hmemo.isTokenOwner
    cases hlazy : info.token.isTokenOwner with
    | pending compute =>
      rw [hlazy] at hstored
      rw [LazyValue.value_pending]
      exact hstored.2 s hmemo.storage hstored.1
    | inProgress =>
      rw [hlazy] at hstored
      exact hstored.elim
    | computed stored =>
      rw [hlazy] at hstored
      exact ⟨s, pure_ok.mpr ⟨hstored.1, rfl⟩, hmemo.storage⟩
  obtain ⟨s', hvalue, hstorage⟩ := hvalue
  unfold PropertyWriterInfo.forceIsTokenOwner
  rw [run_bind_of_ok hvalue]
  subst howner
  exact ⟨_, s', rfl, { hmemo with storage := hstorage, isTokenOwner := ⟨rfl, rfl⟩ }⟩

/-- The owner check does not answer yes. -/
theorem forceIsTokenOwner_refuses (howner : owner ≠ .ok true) :
    Fails info.forceIsTokenOwner s ∨
      ∃ info' s', info.forceIsTokenOwner.run s = .ok (false, info') s' := by
  have hstored := hmemo.isTokenOwner
  unfold PropertyWriterInfo.forceIsTokenOwner
  cases hlazy : info.token.isTokenOwner with
  | computed stored =>
    rw [hlazy] at hstored
    exact absurd hstored.2 howner
  | inProgress =>
    rw [hlazy] at hstored
    exact hstored.elim
  | pending compute =>
    rw [hlazy] at hstored
    obtain ⟨s', hrun, _⟩ := hstored.2 s hmemo.storage hstored.1
    rw [LazyValue.value_pending]
    cases owner with
    | error error =>
      exact .inl (Fails.bind_of_ok hrun fails_fail)
    | ok isOwner =>
      cases isOwner with
      | true => exact absurd rfl howner
      | false =>
        rw [run_bind_of_ok hrun]
        exact .inr ⟨_, s', rfl⟩

theorem isPermittedAsAdmin (permitted : Bool) :
    ∃ info', (UniqueChain.isPermittedAsAdmin permitted info).run s =
        .ok (permitted && facts.isCollectionAdmin, info') s ∧
      Memo facts owner start copy info' s := by
  cases permitted with
  | false => exact ⟨info, rfl, hmemo⟩
  | true => exact hmemo.forceIsCollectionAdmin

section

variable (howner : facts.isTokenOwner = true ↔ owner = .ok true)

include howner

theorem isPermitted (hgrants : facts.grants permission = true) :
    ∃ info' s',
    (UniqueChain.isPermitted permission.collectionAdmin permission.tokenOwner info).run s
        = .ok (true, info') s' ∧ Memo facts owner start copy info' s' := by
  obtain ⟨info', hrun, hmemo'⟩ := hmemo.isPermittedAsAdmin permission.collectionAdmin
  unfold UniqueChain.isPermitted
  rw [run_bind_of_ok hrun]
  simp only [WriterFacts.grants, Bool.or_eq_true] at hgrants
  cases hadmin : permission.collectionAdmin && facts.isCollectionAdmin with
  | true => exact ⟨info', s, rfl, hmemo'⟩
  | false =>
    rw [hadmin, Bool.and_eq_true] at hgrants
    obtain ⟨hpermitted, hisOwner⟩ := hgrants.resolve_left Bool.false_ne_true
    simp only [hpermitted, if_true, Bool.false_eq_true, if_false]
    exact hmemo'.forceIsTokenOwner (howner.mp hisOwner)

theorem isPermitted_refuses (hgrants : facts.grants permission = false) :
    Fails (UniqueChain.isPermitted permission.collectionAdmin permission.tokenOwner info) s ∨
      ∃ info' s', (UniqueChain.isPermitted permission.collectionAdmin permission.tokenOwner
        info).run s = .ok (false, info') s' := by
  obtain ⟨info', hrun, hmemo'⟩ := hmemo.isPermittedAsAdmin permission.collectionAdmin
  simp only [WriterFacts.grants, Bool.or_eq_false_iff] at hgrants
  rw [hgrants.1] at hrun
  unfold UniqueChain.isPermitted Fails
  rw [run_bind_of_ok hrun]
  cases hpermitted : permission.tokenOwner with
  | false => exact .inr ⟨info', s, rfl⟩
  | true =>
    rw [hpermitted, Bool.true_and] at hgrants
    have hrefuses : owner ≠ .ok true := fun heq => by
      rw [howner.mpr heq] at hgrants
      exact Bool.noConfusion hgrants.2
    exact hmemo'.forceIsTokenOwner_refuses hrefuses

omit howner in
/-- A remembered owner check stands for the existence of the token. -/
theorem tokenExistDueToOwnerCheckSuccess :
    ∃ exist info', (UniqueChain.tokenExistDueToOwnerCheckSuccess info).run s =
        .ok (exist, info') s ∧ Memo facts owner start copy info' s ∧
      (exist = true → owner = .ok true) := by
  have hstored := hmemo.isTokenOwner
  unfold UniqueChain.tokenExistDueToOwnerCheckSuccess PropertyWriterInfo.forceIsTokenOwner
  cases hlazy : info.token.isTokenOwner with
  | pending compute => exact ⟨false, info, rfl, hmemo, by simp⟩
  | inProgress => exact ⟨false, info, rfl, hmemo, by simp⟩
  | computed stored =>
    rw [hlazy] at hstored
    obtain ⟨rfl, rfl⟩ := hstored
    exact ⟨true, _, rfl, { hmemo with isTokenOwner := ⟨rfl, rfl⟩ }, fun _ => rfl⟩

theorem checkTokenPermissions
    (hgrants : facts.grants permission = true) (hexists : facts.tokenExists = true) :
    ∃ info' s', (UniqueChain.checkTokenPermissions permission.collectionAdmin
        permission.tokenOwner info).run s = .ok info' s' ∧
      Memo facts owner start copy info' s' := by
  obtain ⟨info₁, s₁, hpermitted, hmemo₁⟩ := hmemo.isPermitted howner hgrants
  obtain ⟨exist, info₂, hexist, hmemo₂, _⟩ := hmemo₁.tokenExistDueToOwnerCheckSuccess
  cases exist with
  | true =>
    exact ⟨info₂, s₁, bind_ok.mpr ⟨_, s₁, hpermitted, ensure_bind_ok.mpr ⟨rfl,
      bind_ok.mpr ⟨_, s₁, hexist, rfl⟩⟩⟩, hmemo₂⟩
  | false =>
    obtain ⟨info₃, hforce, hmemo₃⟩ := hmemo₂.forceIsTokenExist
    exact ⟨info₃, s₁, bind_ok.mpr ⟨_, s₁, hpermitted, ensure_bind_ok.mpr ⟨rfl,
      bind_ok.mpr ⟨_, s₁, hexist, bind_ok.mpr ⟨_, s₁, hforce,
        ensure_bind_ok.mpr ⟨hexists, rfl⟩⟩⟩⟩⟩, hmemo₃⟩

theorem checkTokenPermissions_fails (hinferred : owner = .ok true → facts.tokenExists = true)
    (hrefused : facts.grants permission = false ∨ facts.tokenExists = false) :
    Fails (UniqueChain.checkTokenPermissions permission.collectionAdmin
      permission.tokenOwner info) s := by
  unfold UniqueChain.checkTokenPermissions
  cases hgrants : facts.grants permission with
  | false =>
    rcases hmemo.isPermitted_refuses howner hgrants with hfails | ⟨info₁, s₁, hrun⟩
    · exact hfails.bind
    · exact .bind_of_ok hrun (fails_ensure Bool.false_ne_true).bind
  | true =>
    rw [hgrants] at hrefused
    have hmissing := hrefused.resolve_left Bool.noConfusion
    obtain ⟨info₁, s₁, hpermitted, hmemo₁⟩ := hmemo.isPermitted howner hgrants
    obtain ⟨exist, info₂, hexist, hmemo₂, hchecked⟩ := hmemo₁.tokenExistDueToOwnerCheckSuccess
    obtain ⟨info₃, hforce, _⟩ := hmemo₂.forceIsTokenExist
    refine .bind_of_ok hpermitted (.ensure_bind (.bind_of_ok hexist ?_))
    cases exist with
    | true =>
      rw [hinferred (hchecked rfl)] at hmissing
      exact Bool.noConfusion hmissing
    | false =>
      rw [hmissing] at hforce
      exact .bind_of_ok hforce (fails_ensure Bool.false_ne_true).bind

end

theorem checkMutable (hmutable : permission.mutable = true ∨ copy.get key = none) :
    ∃ info', (UniqueChain.checkMutable permission key info).run s = .ok info' s ∧
      Memo facts owner start copy info' s := by
  unfold UniqueChain.checkMutable
  cases hflag : permission.mutable with
  | true => exact ⟨info, rfl, hmemo⟩
  | false =>
    rw [hflag] at hmutable
    obtain ⟨info', hforce, hmemo'⟩ := hmemo.forceStoredProperties
    exact ⟨info', bind_ok.mpr ⟨_, s, hforce,
      ensure_bind_ok.mpr ⟨hmutable.resolve_left Bool.false_ne_true, rfl⟩⟩, hmemo'⟩

theorem checkMutable_fails (himmutable : permission.mutable = false) (hset : copy.get key ≠ none) :
    Fails (UniqueChain.checkMutable permission key info) s := by
  obtain ⟨info', hforce, _⟩ := hmemo.forceStoredProperties
  unfold UniqueChain.checkMutable
  rw [himmutable]
  exact .bind_of_ok hforce (fails_ensure hset).bind

end

end Memo

/-- The code takes another permission for a key that has none; it grants as
little. -/
theorem WriterFacts.getD_none_eq (facts : WriterFacts) (key : PropertyKey) :
    (facts.permissions.get key).getD PropertyPermission.none = facts.permission key ∨
      ((facts.permissions.get key).getD PropertyPermission.none = PropertyPermission.none ∧
        facts.permission key = ⟨false, false, false⟩) := by
  unfold WriterFacts.permission
  cases facts.permissions.get key with
  | none => exact .inr ⟨rfl, rfl⟩
  | some permission => exact .inl rfl

variable {collection : CollectionId} {token : TokenId} {update : PropertyUpdate}

section

variable (hmemo : Memo facts owner start copy info s)

include hmemo

section

variable (howner : facts.isTokenOwner = true ↔ owner = .ok true)

include howner

/-- An accepted update is carried out on the copy. -/
theorem writeTokenProperty_of_accepts
    (haccepts : facts.accepts copy update = true) {next : TokenProperties}
    (happly : applyUpdate update copy = .ok next) :
    ∃ info' s', (writeTokenProperty collection token update info).run s = .ok info' s' ∧
      Memo facts owner start next info' s' ∧
      info'.token.storedProperties = .computed next := by
  simp only [WriterFacts.accepts, Bool.and_eq_true, Bool.or_eq_true, Option.isNone_iff_eq_none]
    at haccepts
  obtain ⟨⟨hexists, hmutable⟩, hgrants⟩ := haccepts
  have hpermission : (facts.permissions.get update.1).getD PropertyPermission.none =
      facts.permission update.1 := by
    rcases facts.getD_none_eq update.1 with heq | ⟨_, hnone⟩
    · exact heq
    · rw [hnone] at hgrants
      exact Bool.noConfusion hgrants
  obtain ⟨info₁, hforce, hmemo₁⟩ := hmemo.forcePropertyPermissions
  obtain ⟨info₂, hcheck, hmemo₂⟩ := hmemo₁.checkMutable hmutable
  obtain ⟨info₃, s₃, hpermitted, hmemo₃⟩ := hmemo₂.checkTokenPermissions howner hgrants hexists
  obtain ⟨info₄, hstored, hmemo₄⟩ := hmemo₃.forceStoredProperties
  have hrun : (writeTokenProperty collection token update info).run s =
      .ok (info₄.setStoredProperties next)
        (s₃.depositEvent (propertyEvent collection token update)) := by
    unfold writeTokenProperty
    rw [run_bind_of_ok hforce]
    simp only [hpermission]
    rw [run_bind_of_ok hcheck, run_bind_of_ok hpermitted, run_bind_of_ok hstored]
    simp only [happly]
    rfl
  exact ⟨_, _, hrun, { hmemo₄ with storage := hmemo₄.storage, storedProperties := rfl }, rfl⟩

/-- An update that is not accepted, or that the container refuses, stops the
writer. -/
theorem writeTokenProperty_fails (hinferred : owner = .ok true → facts.tokenExists = true)
    (hrefused : facts.accepts copy update = false ∨ ∃ error, applyUpdate update copy =
      .error error) : Fails (writeTokenProperty collection token update info) s := by
  obtain ⟨info₁, hforce, hmemo₁⟩ := hmemo.forcePropertyPermissions
  refine .bind_of_ok hforce ?_
  simp only
  generalize hp : (facts.permissions.get update.1).getD PropertyPermission.none = permission
  by_cases hmutable : permission.mutable = true ∨ copy.get update.1 = none
  swap
  · rw [not_or, Bool.not_eq_true] at hmutable
    exact (hmemo₁.checkMutable_fails hmutable.1 hmutable.2).bind
  obtain ⟨info₂, hcheck, hmemo₂⟩ := hmemo₁.checkMutable hmutable
  refine .bind_of_ok hcheck ?_
  by_cases hpermitted : facts.grants permission = true ∧ facts.tokenExists = true
  swap
  · rw [not_and_or, Bool.not_eq_true, Bool.not_eq_true] at hpermitted
    exact (hmemo₂.checkTokenPermissions_fails howner hinferred hpermitted).bind
  obtain ⟨hgrants, hexists⟩ := hpermitted
  obtain ⟨info₃, s₃, hpermitted, hmemo₃⟩ := hmemo₂.checkTokenPermissions howner hgrants hexists
  obtain ⟨info₄, hstored, _⟩ := hmemo₃.forceStoredProperties
  refine .bind_of_ok hpermitted (.bind_of_ok hstored ?_)
  -- All checks have passed, so it is the container that refuses.
  have haccepts : facts.accepts copy update = true := by
    have hpermission : permission = facts.permission update.1 := by
      rcases facts.getD_none_eq update.1 with heq | ⟨hnone, _⟩
      · rw [← hp, heq]
      · rw [hp] at hnone
        rw [hnone] at hgrants
        exact Bool.noConfusion hgrants
    rw [hpermission] at hmutable hgrants
    simp only [WriterFacts.accepts, Bool.and_eq_true, Bool.or_eq_true,
      Option.isNone_iff_eq_none]
    exact ⟨⟨hexists, hmutable⟩, hgrants⟩
  rw [haccepts] at hrefused
  obtain ⟨error, herror⟩ := hrefused.resolve_left Bool.noConfusion
  rw [herror]
  exact Fails.bind ⟨_, _, rfl⟩

/-! ## The loop -/

/-- The loop ends well where the rule does, with the properties of the rule. -/
theorem writeTokenPropertyLoop_of_apply (happly : facts.apply updates copy = some final) :
    ∃ info' s', (writeTokenPropertyLoop collection token updates info).run s = .ok info' s' ∧
      Memo facts owner start final info' s' ∧
      info'.token.storedProperties =
        if updates = [] then info.token.storedProperties else .computed final := by
  induction updates generalizing copy info s with
  | nil =>
    cases happly
    exact ⟨info, s, rfl, hmemo, rfl⟩
  | cons update rest ih =>
    unfold WriterFacts.apply at happly
    cases haccepts : facts.accepts copy update with
    | false => simp [haccepts] at happly
    | true =>
      cases hnext : applyUpdate update copy with
      | error error => simp [haccepts, hnext] at happly
      | ok next =>
        simp only [haccepts, hnext, if_true] at happly
        obtain ⟨info₁, s₁, hwrite, hmemo₁, hstored₁⟩ :=
          writeTokenProperty_of_accepts hmemo howner haccepts hnext
        obtain ⟨info', s', hloop, hmemo', hstored'⟩ := ih hmemo₁ happly
        refine ⟨info', s', bind_ok.mpr ⟨info₁, s₁, hwrite, hloop⟩, hmemo', ?_⟩
        rw [hstored', if_neg (List.cons_ne_nil _ _)]
        split
        · rename_i hrest
          rw [hrest] at happly
          cases happly
          exact hstored₁
        · rfl

/-- Where the rule refuses the updates, so does the loop. -/
theorem writeTokenPropertyLoop_fails (hinferred : owner = .ok true → facts.tokenExists = true)
    (happly : facts.apply updates copy = none) :
    Fails (writeTokenPropertyLoop collection token updates info) s := by
  induction updates generalizing copy info s with
  | nil => cases happly
  | cons update rest ih =>
    unfold WriterFacts.apply at happly
    cases haccepts : facts.accepts copy update with
    | false =>
      exact (writeTokenProperty_fails hmemo howner hinferred (.inl haccepts)).bind
    | true =>
      cases hnext : applyUpdate update copy with
      | error error =>
        exact (writeTokenProperty_fails hmemo howner hinferred (.inr ⟨error, hnext⟩)).bind
      | ok next =>
        simp only [haccepts, hnext, if_true] at happly
        obtain ⟨info₁, s₁, hwrite, hmemo₁, _⟩ :=
          writeTokenProperty_of_accepts hmemo howner haccepts hnext
        exact .bind_of_ok hwrite (ih hmemo₁ happly)

end

end

end Round

/-! ## The writer -/

/-- What is remembered of the collection serves all tokens of a mint. -/
structure CollectionMemo (permissions : PropertiesPermissionMap) (isCollectionAdmin : Bool)
    (common : CommonStorage T) (info : PropertyWriterLazyCollectionInfo T) : Prop where
  isCollectionAdmin : info.isCollectionAdmin.Holds (fun s => s.common = common) isCollectionAdmin
  propertyPermissions : info.propertyPermissions.Holds (fun s => s.common = common) permissions

theorem Memo.collection {facts : WriterFacts} {owner : Except Failure Bool} {start s : State T}
    {copy : TokenProperties} (hmemo : Memo facts owner start copy info s) :
    CollectionMemo facts.permissions facts.isCollectionAdmin start.common info.collection :=
  ⟨hmemo.isCollectionAdmin, hmemo.propertyPermissions⟩

theorem CollectionMemo.new (handle : CollectionHandle T) (sender : T.CrossAccountId) (s : State T) :
    CollectionMemo (s.common.collectionPropertyPermissions.getD handle.id PropertiesMap.new)
      (handle.isOwnerOrAdmin s sender) s.common (.new handle sender) where
  isCollectionAdmin := by
    intro s' hcommon
    simp only [read_bind_ok, pure_ok, and_true]
    unfold CollectionHandle.isOwnerOrAdmin
    rw [hcommon]
  propertyPermissions := by
    intro s' hcommon
    simp only [read_bind_ok, pure_ok, and_true]
    rw [hcommon]

section Writer

variable {setTokenPropertiesRaw : Token → TokenProperties → State T → State T}
  {collection : CollectionId} {token : TokenId} {s : State T}

variable (setTokenPropertiesRaw collection token) in
/-- The writer writes the properties of the rule, unless there is no update. -/
theorem internalWriteTokenProperties_of_apply {facts : WriterFacts}
    {owner : Except Failure Bool} {copy final : TokenProperties} {compute : Exec T TokenProperties}
    (hmemo : Memo facts owner s copy info s)
    (hpending : info.token.storedProperties = .pending compute)
    (howner : facts.isTokenOwner = true ↔ owner = .ok true)
    (happly : facts.apply updates copy = some final) :
    ∃ info' s₁, s₁.storage = s.storage ∧
      (internalWriteTokenProperties setTokenPropertiesRaw collection token info updates).run s =
        .ok info' (if updates = [] then s₁ else setTokenPropertiesRaw (collection, token)
          final s₁) ∧
      CollectionMemo facts.permissions facts.isCollectionAdmin s.common info' := by
  obtain ⟨info', s₁, hloop, hmemo', hstored⟩ := writeTokenPropertyLoop_of_apply hmemo howner happly
  unfold internalWriteTokenProperties
  rw [run_bind_of_ok hloop]
  simp only [hstored]
  cases updates with
  | nil =>
    simp only [if_true, hpending]
    exact ⟨info'.collection, s₁, hmemo'.storage, rfl, hmemo'.collection⟩
  | cons update rest =>
    simp only [if_neg (List.cons_ne_nil update rest)]
    exact ⟨info'.collection, s₁.depositLog T.contractAddress (.tokenChanged token),
      hmemo'.storage, rfl, hmemo'.collection⟩

theorem internalWriteTokenProperties_fails {facts : WriterFacts} {owner : Except Failure Bool}
    {copy : TokenProperties} (hmemo : Memo facts owner s copy info s)
    (howner : facts.isTokenOwner = true ↔ owner = .ok true)
    (hinferred : owner = .ok true → facts.tokenExists = true)
    (happly : facts.apply updates copy = none) :
    Fails (internalWriteTokenProperties setTokenPropertiesRaw collection token info updates) s :=
  (writeTokenPropertyLoop_fails hmemo howner hinferred happly).bind

/-! ### New tokens -/

/-- The facts about a token that is being minted. -/
def newTokenFacts (permissions : PropertiesPermissionMap)
    (isCollectionAdmin mintTargetIsSender : Bool) : WriterFacts :=
  ⟨permissions, isCollectionAdmin, true, mintTargetIsSender⟩

/-- The updates that give a new token its properties. -/
def propertyUpdates (properties : List Property) : List PropertyUpdate :=
  properties.map fun property => (property.key, some property.value)

variable {permissions : PropertiesPermissionMap} {isCollectionAdmin mintTargetIsSender : Bool}
  {info : PropertyWriterLazyCollectionInfo T} {properties : List Property}

theorem memo_newToken (hinfo : CollectionMemo permissions isCollectionAdmin s.common info) :
    Memo (newTokenFacts permissions isCollectionAdmin mintTargetIsSender)
      (.ok mintTargetIsSender) s Properties.new
      ⟨info, { isTokenExist := .pending (pure true)
               isTokenOwner := .pending (pure (.ok mintTargetIsSender))
               storedProperties := .pending (pure Properties.new) }⟩ s where
  storage := rfl
  isCollectionAdmin := hinfo.isCollectionAdmin
  propertyPermissions := hinfo.propertyPermissions
  isTokenExist := fun _ _ => rfl
  storedProperties := fun _ _ => rfl
  isTokenOwner := ⟨rfl, fun s' hstorage _ => ⟨s', rfl, hstorage⟩⟩

variable (setTokenPropertiesRaw collection token) in
theorem writeNewTokenProperties_of_apply
    (hinfo : CollectionMemo permissions isCollectionAdmin s.common info)
    (happly : (newTokenFacts permissions isCollectionAdmin mintTargetIsSender).apply
      (propertyUpdates properties) Properties.new = some final) :
    ∃ info' s₁, s₁.storage = s.storage ∧
      (writeNewTokenProperties setTokenPropertiesRaw collection info mintTargetIsSender token
        properties).run s = .ok info'
          (if properties = [] then s₁ else setTokenPropertiesRaw (collection, token) final s₁) ∧
      CollectionMemo permissions isCollectionAdmin s.common info' := by
  obtain ⟨info', s₁, hstorage, hrun, hinfo'⟩ := internalWriteTokenProperties_of_apply
    setTokenPropertiesRaw collection token (memo_newToken hinfo) rfl (by simp [newTokenFacts])
    happly
  simp only [propertyUpdates, List.map_eq_nil_iff] at hrun
  exact ⟨info', s₁, hstorage, hrun, hinfo'⟩

variable (setTokenPropertiesRaw collection token) in
theorem writeNewTokenProperties_fails
    (hinfo : CollectionMemo permissions isCollectionAdmin s.common info)
    (happly : (newTokenFacts permissions isCollectionAdmin mintTargetIsSender).apply
      (propertyUpdates properties) Properties.new = none) :
    Fails (writeNewTokenProperties setTokenPropertiesRaw collection info mintTargetIsSender token
      properties) s :=
  internalWriteTokenProperties_fails (memo_newToken hinfo) (by simp [newTokenFacts])
    (fun _ => rfl) happly

/-! ### Existing tokens -/

/-- A check that keeps storage and does not notice events and logs gives the same
answer until budget is consumed. -/
theorem attempt_eq_answer {check : Exec T Bool} (hkeeps : Preserves State.storage check)
    (hcommutes : ∀ events logs, Commutes (State.withRecords events logs) check) {s' : State T}
    (hstorage : s'.storage = s.storage) (hbudget : s'.budget = s.budget) :
    ∃ reached, (attempt check).run s' = .ok (answer check s) reached ∧
      reached.storage = s.storage := by
  have hview := hkeeps s
  rw [State.eq_withRecords hstorage hbudget]
  simp only [attempt, answer, (hcommutes s'.events s'.logs).run_eq s]
  cases hrun : check.run s with
  | ok value reached =>
    rw [hrun] at hview
    exact ⟨_, rfl, hview⟩
  | error error reached =>
    rw [hrun] at hview
    exact ⟨_, rfl, hview⟩

/-- The facts about a token that is said to exist or not. -/
def existingTokenFacts (handle : CollectionHandle T) (sender : T.CrossAccountId) (s : State T)
    (tokenExists isTokenOwner : Bool) : WriterFacts :=
  ⟨s.common.collectionPropertyPermissions.getD handle.id PropertiesMap.new,
    handle.isOwnerOrAdmin s sender, tokenExists, isTokenOwner⟩

/-- The operation writes what the rule gives, and fails without a trace where the
rule gives nothing. -/
structure FollowsRule (operation : Exec T Unit) (s : State T) (rule : Option TokenProperties)
    (written : TokenProperties → State T) : Prop where
  sound : ∀ s', operation.run s = .ok () s' →
    ∃ final, rule = some final ∧ s'.storage = (written final).storage
  complete : ∀ final, rule = some final →
    ∃ s', operation.run s = .ok () s' ∧ s'.storage = (written final).storage
  unchanged : ∀ error s', operation.run s = .error error s' → s'.storage = s.storage

theorem FollowsRule.of_cases {operation : Exec T Unit} {rule : Option TokenProperties}
    {written : TokenProperties → State T} (hcomplete : ∀ final, rule = some final →
      ∃ s', operation.run s = .ok () s' ∧ s'.storage = (written final).storage)
    (hfails : rule = none → Fails operation s)
    (hunchanged : ∀ error s', operation.run s = .error error s' → s'.storage = s.storage) :
    FollowsRule operation s rule written := by
  refine ⟨fun s' hrun => ?_, hcomplete, hunchanged⟩
  cases hrule : rule with
  | none => exact absurd (hfails hrule) (not_fails_of_ok hrun)
  | some final =>
    obtain ⟨reached, hreached, hstorage⟩ := hcomplete final hrule
    rw [hrun] at hreached
    cases hreached
    exact ⟨final, rfl, hstorage⟩

section Existing

variable {tokenExists : State T → TokenId → Bool} {check : TokenId → Exec T Bool}
  {getTokenPropertiesRaw : State T → Token → Option TokenProperties}
  {handle : CollectionHandle T} {sender : T.CrossAccountId} {updates : List PropertyUpdate}

/-- How a pallet looks at one of its tokens depends on storage only, and a token that is owned
exists. -/
structure ExistingToken (setTokenPropertiesRaw : Token → TokenProperties → State T → State T)
    (tokenExists : State T → TokenId → Bool) (check : TokenId → Exec T Bool)
    (getTokenPropertiesRaw : State T → Token → Option TokenProperties)
    (collection : CollectionId) (token : TokenId) (s : State T) : Prop where
  keeps : Preserves State.storage (check token)
  commutes : ∀ events logs, Commutes (State.withRecords events logs) (check token)
  exists_congr : ∀ s', s'.storage = s.storage → tokenExists s' token = tokenExists s token
  stored_congr : ∀ s', s'.storage = s.storage →
    getTokenPropertiesRaw s' (collection, token) = getTokenPropertiesRaw s (collection, token)
  set_congr : ∀ final s', s'.storage = s.storage →
    (setTokenPropertiesRaw (collection, token) final s').storage =
      (setTokenPropertiesRaw (collection, token) final s).storage
  inferred : answersYes (check token) s = true → tokenExists s token = true

variable (htoken : ExistingToken setTokenPropertiesRaw tokenExists check getTokenPropertiesRaw
  handle.id token s)

include htoken

variable (sender) in
theorem ExistingToken.memo :
    Memo (existingTokenFacts handle sender s (tokenExists s token) (answersYes (check token) s))
      (answer (check token) s) s
      ((getTokenPropertiesRaw s (handle.id, token)).getD Properties.new)
      ⟨.new handle sender,
        { isTokenExist := .pending do
            let s ← read
            pure (tokenExists s token)
          isTokenOwner := .pending (attempt (check token))
          storedProperties := .pending do
            let s ← read
            pure ((getTokenPropertiesRaw s (handle.id, token)).getD Properties.new) }⟩ s where
  storage := rfl
  isCollectionAdmin := (CollectionMemo.new handle sender s).isCollectionAdmin
  propertyPermissions := (CollectionMemo.new handle sender s).propertyPermissions
  isTokenExist := by
    intro s' hstorage
    simp [htoken.exists_congr s' hstorage, existingTokenFacts]
  storedProperties := by
    intro s' hstorage
    simp [htoken.stored_congr s' hstorage]
  isTokenOwner := ⟨rfl, fun _ => attempt_eq_answer htoken.keeps htoken.commutes⟩

/-- The updates of an existing token follow the rule. -/
theorem ExistingToken.followsRule :
    FollowsRule
      (Exec.withTransaction (writeExistingTokenProperties setTokenPropertiesRaw tokenExists check
        getTokenPropertiesRaw handle sender token updates)) s
      ((existingTokenFacts handle sender s (tokenExists s token)
        (answersYes (check token) s)).apply updates
          ((getTokenPropertiesRaw s (handle.id, token)).getD Properties.new))
      (fun final => if updates = [] then s
        else setTokenPropertiesRaw (handle.id, token) final s) := by
  refine .of_cases (fun final happly => ?_) (fun happly => ?_) (preservesOnError_withTransaction s)
  · obtain ⟨info', s₁, hstorage, hrun, _⟩ := internalWriteTokenProperties_of_apply
      setTokenPropertiesRaw handle.id token (htoken.memo sender) rfl answersYes_iff happly
    refine ⟨_, transactional_ok.mpr (bind_ok.mpr ⟨info', _, hrun, rfl⟩), ?_⟩
    split
    · exact hstorage
    · exact htoken.set_congr final s₁ hstorage
  · refine Fails.transactional (Fails.bind ?_)
    exact internalWriteTokenProperties_fails (htoken.memo sender) answersYes_iff
      (fun howner => htoken.inferred (answersYes_iff.mpr howner)) happly

end Existing

end Writer

end UniqueChain
