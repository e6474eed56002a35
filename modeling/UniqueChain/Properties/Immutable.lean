import UniqueChain.Runtime.Tokens

/-!
# Immutable properties

A property whose permission is immutable keeps its value until its token is
burnt, and the permission stays as long as the collection exists.

## Strategy

A token that exists after a step existed before it, with the same properties or
properties changed by the rule of the writer (`TokensStep`), and the rule never
touches a key that is set and immutable (`WriterFacts.apply_keeps`).  A token that
exists at the end of a run existed all along, and the invariant `ValueKept` follows
its value through the run.
-/

namespace UniqueChain

open CollectionDispatch FiniteMap

variable {T : Config} {s s' : State T} {call : Call T}

variable {key : PropertyKey} {token : Token} {value : PropertyValue}

/-! ## The rule keeps immutable values -/

/-- An update changes no other key. -/
theorem get_of_applyUpdate_ok {update : PropertyUpdate} {copy next : TokenProperties}
    (happly : applyUpdate update copy = .ok next) (hkey : key ≠ update.1) :
    next.get key = copy.get key := by
  unfold applyUpdate at happly
  unfold Properties.get PropertiesMap.get
  cases hvalue : update.2 with
  | some value =>
    rw [hvalue] at happly
    cases hset : Properties.trySet update.1 value copy with
    | error error => simp [hset, Except.map] at happly
    | ok result =>
      simp only [hset, Except.map, Except.ok.injEq] at happly
      subst happly
      rw [Properties.map_of_trySet_ok hset, get_insert_of_ne _ _ hkey]
  | none =>
    rw [hvalue] at happly
    cases hremove : Properties.remove update.1 copy with
    | error error => simp [hremove, Except.map] at happly
    | ok result =>
      simp only [hremove, Except.map, Except.ok.injEq] at happly
      subst happly
      rw [Properties.map_of_remove_ok hremove, get_erase_of_ne _ hkey]

theorem WriterFacts.apply_keeps {facts : WriterFacts} {updates : List PropertyUpdate}
    {copy final : TokenProperties} {permission : PropertyPermission}
    (hpermission : facts.permissions.get key = some permission)
    (himmutable : permission.mutable = false) (hvalue : copy.get key = some value)
    (happly : facts.apply updates copy = some final) : final.get key = some value := by
  -- the copy changes along the list, its value at `key` does not
  induction updates generalizing copy with
  | nil =>
    cases happly
    exact hvalue
  | cons update rest ih =>
    unfold WriterFacts.apply at happly
    split at happly
    · rename_i haccepts
      have hkey : key ≠ update.1 := by
        rintro rfl
        have hfixed : (facts.permission update.1).mutable = false := by
          unfold WriterFacts.permission
          rw [hpermission]
          exact himmutable
        simp [WriterFacts.accepts, hfixed, hvalue] at haccepts
      cases hnext : applyUpdate update copy with
      | error error => simp [hnext] at happly
      | ok next =>
        rw [hnext] at happly
        exact ih ((get_of_applyUpdate_ok hnext hkey).trans hvalue) happly
    · cases happly

theorem PropertyChange.keeps {permissions : PropertiesPermissionMap}
    {before after : TokenProperties} {permission : PropertyPermission}
    (hchange : PropertyChange permissions before after)
    (hpermission : permissions.get key = some permission)
    (himmutable : permission.mutable = false) (hvalue : before.get key = some value) :
    after.get key = some value := by
  cases hchange with
  | unchanged => exact hvalue
  | updated hpermissions happly =>
    subst hpermissions
    exact WriterFacts.apply_keeps hpermission himmutable hvalue happly

/-! ## Runs -/

variable {collection : CollectionId} {key : PropertyKey} {permission : PropertyPermission}
  {view : TokenView T}

/-- The identifier was given out and its key has the permission. -/
structure PermissionKept (collection : CollectionId) (key : PropertyKey)
    (permission : PropertyPermission) (s : State T) : Prop where
  registered : collection ≤ s.common.createdCollectionCount
  permission : (permissionsOf s collection).get key = some permission

theorem PermissionKept.step (himmutable : permission.mutable = false)
    (hkept : PermissionKept collection key permission s) (hstep : ChainStep s call s') :
    PermissionKept collection key permission s' := by
  have hcommon := hstep.pallets.common
  refine ⟨Nat.le_trans hkept.registered hcommon.createdCollectionCount_le, ?_⟩
  have hbefore := hkept.permission
  unfold permissionsOf at hbefore ⊢
  generalize s'.common = common at hcommon
  cases hcommon with
  | settings hfound hstep =>
    cases hstep with
    | unchanged => exact hbefore
    | collection hmode hlimits => exact hbefore
    | allowlist => exact hbefore
    | admins => exact hbefore
    | permissions hkeeps =>
      rename_i handle permissions
      by_cases hid : collection = handle.id
      · subst hid
        simp only [getD_insert, if_true]
        exact hkeeps key permission hbefore himmutable
      · simp only [getD_insert, if_neg hid]
        exact hbefore
  | created hlimits =>
    have hne : collection ≠ s.common.createdCollectionCount + 1 :=
      Nat.ne_of_lt (Nat.lt_succ_of_le hkept.registered)
    simp only [addCollection, getD_insert, if_neg hne]
    exact hbefore
  | destroyed hfound => exact hbefore
  | unchanged => exact hbefore

/-- The token has the value, if it exists, and its number was given out. -/
structure ValueKept (view : TokenView T) (token : Token) (key : PropertyKey)
    (value : PropertyValue) (s : State T) : Prop where
  numbered : CollectionExists s token.1 → token.2 ≤ view.minted s token.1
  value : view.Exists s token → (view.stored s token).get key = some value

theorem ValueKept.step (himmutable : permission.mutable = false)
    (hpermission : PermissionKept token.1 key permission s)
    (hkept : ValueKept view token key value s) (hstep : ChainStep s call s')
    (htokens : TokensStep view s s') : ValueKept view token key value s' := by
  refine ⟨fun hexists => ?_, fun hexists => ?_⟩
  · have hexisted := hstep.pallets.common.existed hpermission.registered hexists
    exact Nat.le_trans (hkept.numbered hexisted) (htokens.minted_le token.1 hexists)
  · rcases htokens.traced token hexists with ⟨hexisted, hchange⟩ | ⟨hcollection, hnew⟩
    · exact hchange.keeps hpermission.permission himmutable (hkept.value hexisted)
    · exact absurd (Nat.lt_of_lt_of_le hnew (hkept.numbered hcollection)) (Nat.lt_irrefl _)

theorem PermissionKept.ofStorage : OfStorage (T := T)
    (PermissionKept collection key permission) := by
  intro s s' hstorage hkept
  have hcommon := (State.storage_eq_iff.mp hstorage).1
  refine ⟨?_, ?_⟩
  · rw [hcommon]
    exact hkept.registered
  · unfold permissionsOf
    rw [hcommon]
    exact hkept.permission

theorem ValueKept.ofStorage : OfStorage (ValueKept view token key value) := by
  intro s s' hstorage hkept
  obtain ⟨hexists, hminted, hstored⟩ := view.ofStorage hstorage
  refine ⟨?_, ?_⟩
  · unfold CollectionExists
    rw [(State.storage_eq_iff.mp hstorage).1, hminted]
    exact hkept.numbered
  · rw [hexists, hstored]
    exact hkept.value

theorem permissionKept_of_run {history : History T} (himmutable : permission.mutable = false)
    (hkept : PermissionKept collection key permission s) (hrun : Run step s history s') :
    PermissionKept collection key permission s' :=
  invariant_of_run PermissionKept.ofStorage hkept
    (fun _ _ _ hbefore hstep => hbefore.step himmutable hstep) hrun

/-- The value is kept in a run through states that satisfy `Base`. -/
theorem valueKept_of_run {history : History T} (Base : State T → Prop) (hstorage : OfStorage Base)
    (hbase : ∀ s call s', Base s → ChainStep s call s' → Base s')
    (htokens : ∀ s call s', Base s → ChainStep s call s' → TokensStep view s s')
    (himmutable : permission.mutable = false) (hstart : Base s)
    (hpermission : PermissionKept token.1 key permission s)
    (hvalue : ValueKept view token key value s) (hrun : Run step s history s') :
    ValueKept view token key value s' := by
  have hkept : Base s' ∧ PermissionKept token.1 key permission s' ∧
      ValueKept view token key value s' := by
    refine invariant_of_run
      (P := fun s => Base s ∧ PermissionKept token.1 key permission s ∧
        ValueKept view token key value s)
      (fun hsame ⟨hbefore, hbefore', hbefore''⟩ => ⟨hstorage hsame hbefore,
        PermissionKept.ofStorage hsame hbefore', ValueKept.ofStorage hsame hbefore''⟩)
      ⟨hstart, hpermission, hvalue⟩ (fun s call s' hbefore hstep => ?_) hrun
    obtain ⟨hs, hpermission, hvalue⟩ := hbefore
    exact ⟨hbase s call s' hs hstep, hpermission.step himmutable hstep,
      hvalue.step himmutable hpermission hstep (htokens s call s' hs hstep)⟩
  exact hkept.2.2

/-- Once the permission of a key is immutable it stays as it is while the
collection exists, and a value that a token then has under this key is there as
long as the token exists, whatever calls are made. -/
theorem immutable_properties_kept (hreachable : Reachable s) {history : History T}
    (hrun : Run step s history s') (hexists : CollectionExists s collection)
    (hpermission : (permissionsOf s collection).get key = some permission)
    (himmutable : permission.mutable = false) :
    (CollectionExists s' collection →
      (permissionsOf s' collection).get key = some permission) ∧
    (∀ token value,
      (Nonfungible.storedProperties s (collection, token)).get key = some value →
      Nonfungible.tokenExists s' (collection, token) = true →
        (Nonfungible.storedProperties s' (collection, token)).get key = some value) ∧
    (∀ token value,
      (Refungible.storedProperties s (collection, token)).get key = some value →
      Refungible.tokenExists s' (collection, token) = true →
        (Refungible.storedProperties s' (collection, token)).get key = some value) := by
  have hkept : PermissionKept collection key permission s :=
    ⟨registered_of_reachable hreachable collection hexists, hpermission⟩
  refine ⟨fun _ => (permissionKept_of_run himmutable hkept hrun).permission,
    fun token value hvalue hafter => ?_, fun token value hvalue hafter => ?_⟩
  · have hledger := Nonfungible.ledger_of_reachable hreachable
    have hdescribed : s.nonfungible.tokenProperties.get (collection, token) ≠ none := by
      intro hnone
      unfold Nonfungible.storedProperties at hvalue
      rw [hnone] at hvalue
      cases hvalue
    have hbefore : ValueKept Nonfungible.tokenView (collection, token) key value s :=
      ⟨fun _ => (hledger.numbered collection token (hledger.described _ hdescribed)).2,
        fun _ => hvalue⟩
    refine (valueKept_of_run (fun _ => True) (fun _ h => h) (fun _ _ _ h _ => h)
      (fun _ _ _ _ hstep => Nonfungible.tokensStep_of_chainStep hstep) himmutable trivial hkept
      hbefore hrun).value ?_
    exact Option.isSome_iff_ne_none.mp hafter
  · have hledger := Refungible.ledger_of_reachable hreachable
    have hdescribed : s.refungible.tokenProperties.get (collection, token) ≠ none := by
      intro hnone
      unfold Refungible.storedProperties at hvalue
      rw [hnone] at hvalue
      cases hvalue
    have hbefore : ValueKept Refungible.tokenView (collection, token) key value s :=
      ⟨fun _ => (hledger.numbered collection token (hledger.described _ hdescribed)).2,
        fun _ => hvalue⟩
    refine (valueKept_of_run (fun s => Refungible.Ledger s.refungible)
      (OfStorage.refungible Refungible.Ledger)
      (fun _ _ _ hledger hstep => hstep.pallets.refungible.ledger hledger)
      (fun _ _ _ hledger hstep => Refungible.tokensStep_of_chainStep hledger hstep) himmutable
      hledger hkept hbefore hrun).value ?_
    exact Option.isSome_iff_ne_none.mp hafter

namespace ImmutableExample

def exampleKey : PropertyKey := ⟨[0x62], by decide⟩

/-- A token gets a property that nobody can change afterwards. -/
def calls : List (Extrinsic reference) :=
  [reference.create .nft,
    ⟨.settings 1 (.setTokenPropertyPermissions .alice [⟨exampleKey, ⟨false, true, true⟩⟩]), 5⟩,
    ⟨.nonfungible 1 (.createMultipleItems .alice [⟨.alice, [⟨exampleKey, [1]⟩]⟩]), 5⟩]

def state : State reference := reference.stateOf calls rfl

def later : Extrinsic reference := ⟨.nonfungible 1 (.transfer .alice .bob 1), 5⟩

end ImmutableExample

open ImmutableExample in
theorem immutable_properties_kept_example :
    ∃ s', step state later = some s' ∧
      (Nonfungible.storedProperties s' (1, 1)).get exampleKey = some [1] := by
  have hlater : step state later = some ((step state later).get rfl) := (Option.some_get _).symm
  have hexists : CollectionExists state 1 := Option.isSome_iff_ne_none.mp rfl
  have hpermission : (permissionsOf state 1).get exampleKey = some ⟨false, true, true⟩ := rfl
  have hkept := immutable_properties_kept (reference.reachable_stateOf calls rfl)
    (Run.start.accepted hlater) hexists hpermission rfl
  exact ⟨_, hlater, hkept.2.1 1 [1] rfl rfl⟩

end UniqueChain
