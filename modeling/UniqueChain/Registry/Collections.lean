import UniqueChain.Runtime.Steps

/-!
# Identifiers of collections

Identifiers are given out in order and never again: an existing collection has an
identifier up to the number of collections created so far, and a new one takes
the next.  So a collection that exists after a step, under an identifier that was
already given out, existed before it.
-/

namespace UniqueChain

open CollectionDispatch FiniteMap

variable {T : Config} {s s' : State T} {collection : CollectionId} {call : Call T}

variable {handle : CollectionHandle T} {common : CommonStorage T}

/-- The collection exists. -/
def CollectionExists (s : State T) (collection : CollectionId) : Prop :=
  s.common.collectionById.get collection ≠ none

theorem CollectionExists.of_nonfungible
    (hfound : dispatch s handle.id = some (.nonfungible handle)) :
    CollectionExists s handle.id := by
  unfold CollectionExists
  rw [(dispatch_eq_nonfungible.mp hfound).2.2.1]
  exact Option.some_ne_none _

theorem CollectionExists.of_refungible (hfound : dispatch s handle.id = some (.refungible handle)) :
    CollectionExists s handle.id := by
  unfold CollectionExists
  rw [(dispatch_eq_refungible.mp hfound).2.2.1]
  exact Option.some_ne_none _

/-- Every existing collection has an identifier that was given out. -/
def Registered (common : CommonStorage T) : Prop :=
  ∀ collection, common.collectionById.get collection ≠ none →
    collection ≤ common.createdCollectionCount

section Settings

variable {handle : CollectionHandle T} {common : CommonStorage T}

theorem SettingsStep.createdCollectionCount_eq (hstep : SettingsStep handle s.common common) :
    common.createdCollectionCount = s.common.createdCollectionCount := by
  cases hstep <;> rfl

theorem SettingsStep.exists_iff (hstep : SettingsStep handle s.common common)
    (hfound : s.common.collectionById.get handle.id = some handle.collection) :
    common.collectionById.get collection ≠ none ↔ CollectionExists s collection := by
  unfold CollectionExists
  cases hstep with
  | collection hmode hlimits =>
    simp only
    grind
  | _ => exact Iff.rfl

end Settings

theorem CommonStep.createdCollectionCount_le (hstep : CommonStep s call common) :
    s.common.createdCollectionCount ≤ common.createdCollectionCount := by
  cases hstep with
  | settings hfound hstep =>
    exact Nat.le_of_eq hstep.createdCollectionCount_eq.symm
  | created hlimits => exact Nat.le_succ _
  | destroyed hfound => exact Nat.le_refl _
  | unchanged => exact Nat.le_refl _

/-- A collection with an identifier that was given out before the step existed
before it, if it exists after it. -/
theorem CommonStep.existed (hstep : CommonStep s call common)
    (hbound : collection ≤ s.common.createdCollectionCount)
    (hexists : common.collectionById.get collection ≠ none) : CollectionExists s collection := by
  cases hstep with
  | settings hfound hstep => exact (hstep.exists_iff hfound).mp hexists
  | created hlimits =>
    have hne : collection ≠ s.common.createdCollectionCount + 1 := by
      rintro rfl
      exact absurd hbound (Nat.not_succ_le_self _)
    simp only [addCollection, get_insert_of_ne _ _ hne] at hexists
    exact hexists
  | destroyed hfound =>
    unfold CollectionExists
    simp only [forgetCollection] at hexists
    grind
  | unchanged => exact hexists

theorem CommonStep.registered (hregistered : Registered s.common)
    (hstep : CommonStep s call common) : Registered common := by
  intro collection hexists
  by_cases hbound : collection ≤ s.common.createdCollectionCount
  · exact Nat.le_trans hbound hstep.createdCollectionCount_le
  · cases hstep with
    | settings hfound hstep =>
      rw [hstep.createdCollectionCount_eq]
      exact hregistered collection ((hstep.exists_iff hfound).mp hexists)
    | created hlimits =>
      simp only [addCollection] at hexists ⊢
      have hbefore := hregistered collection
      grind
    | destroyed hfound =>
      have hbefore := hregistered collection
      simp only [forgetCollection] at hexists ⊢
      grind
    | unchanged => exact hregistered collection hexists

/-- The mode of an existing collection. -/
def modeOf (s : State T) (collection : CollectionId) : Option CollectionMode :=
  (s.common.collectionById.get collection).map (·.mode)

theorem modeOf_congr (hcommon : s'.common = s.common) :
    modeOf s' collection = modeOf s collection := by
  unfold modeOf
  rw [hcommon]

theorem modeOf_of_get {data : Collection T.AccountId}
    (hget : s.common.collectionById.get collection = some data) :
    modeOf s collection = some data.mode := by
  unfold modeOf
  rw [hget, Option.map_some]

theorem Destroyed.modeOf_eq_none
    (hdestroyed : Destroyed handle s s') : modeOf s' handle.id = none := by
  have hgone : s'.common.collectionById.get handle.id = none := by
    cases hdestroyed <;> exact get_erase_self _ _
  unfold modeOf
  rw [hgone, Option.map_none]

/-- A collection keeps its mode for life: a step changes the mode under an
identifier only if it gives out the identifier, or destroys the collection. -/
theorem ChainStep.modeOf_cases (hstep : ChainStep s call s') (collection : CollectionId) :
    modeOf s' collection = modeOf s collection ∨
      collection = s.common.createdCollectionCount + 1 ∨
      ∃ handle, collection = handle.id ∧
        s.common.collectionById.get handle.id = some handle.collection ∧ Destroyed handle s s' := by
  cases hstep with
  | fungible hfound hoperation => exact .inl (modeOf_congr hoperation.frame.1.common)
  | refungible hfound hoperation => exact .inl (modeOf_congr hoperation.frame.1.common)
  | createCollection hwidth hmode hlimits =>
    by_cases hnew : collection = s.common.createdCollectionCount + 1
    · exact .inr (.inl hnew)
    · left
      simp only [modeOf, State.mapCommon, State.setBalances, addCollection,
        get_insert_of_ne _ _ hnew]
  | @destroyCollection sender handle s' hnative hfound hdestroyed =>
    by_cases hgone : collection = handle.id
    · exact .inr (.inr ⟨handle, hgone, hfound, hdestroyed⟩)
    · left
      have hget : s'.common.collectionById = s.common.collectionById.erase handle.id := by
        cases hdestroyed <;> rfl
      unfold modeOf
      rw [hget, get_erase_of_ne _ hgone]
  | @settings handle call common hfound hsettings =>
    left
    cases hsettings with
    | @collection data hmode hlimits =>
      by_cases hchanged : collection = handle.id
      · subst hchanged
        rw [modeOf_of_get hfound, ← hmode]
        exact modeOf_of_get (get_insert_self _ _ _)
      · simp only [modeOf, State.mapCommon, get_insert_of_ne _ _ hchanged]
    | _ => rfl
  | _ => exact .inl rfl

theorem registered_of_reachable (hreachable : Reachable s) : Registered s.common :=
  hreachable.invariant (OfStorage.common Registered)
    (fun _ _ hget => absurd rfl hget)
    fun _ _ _ hregistered hstep => hstep.pallets.common.registered hregistered

end UniqueChain
