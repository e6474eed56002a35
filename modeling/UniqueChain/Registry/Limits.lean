import UniqueChain.Model.Reference
import UniqueChain.Registry.Collections

/-!
# Limits only tighten

The limits of a collection are merged field by field, each new value checked
against the effective old one.  A merge is tighter than what it is merged into
(`clampLimits_tightens`), every other change of a collection keeps the fields the
order speaks of, and an identifier is never given out again, so the order holds
between any two states of a run in which the collection exists.
-/

namespace UniqueChain

open FiniteMap

variable {T : Config} {s s' : State T} {collection : CollectionId} {call : Call T}

variable {common : CommonStorage T}

/-- A step leaves an existing collection its limits, or tighter ones. -/
theorem CommonStep.tightens {after : Collection T.AccountId}
    (hstep : CommonStep s call common) (hbound : collection ≤ s.common.createdCollectionCount)
    (hafter : common.collectionById.get collection = some after) :
    ∃ before, s.common.collectionById.get collection = some before ∧
      before.limits.Tightens after.limits := by
  cases hstep with
  | @settings handle _ hfound hstep =>
    cases hstep with
    | @collection data hmode hlimits =>
      by_cases hchanged : collection = handle.id
      · subst hchanged
        rw [get_insert_self] at hafter
        cases hafter
        exact ⟨handle.collection, hfound, hlimits⟩
      · rw [get_insert_of_ne _ _ hchanged] at hafter
        exact ⟨after, hafter, .refl _⟩
    | _ => exact ⟨after, hafter, .refl _⟩
  | created hlimits =>
    have hne : collection ≠ s.common.createdCollectionCount + 1 := by
      rintro rfl
      exact absurd hbound (Nat.not_succ_le_self _)
    simp only [addCollection, get_insert_of_ne _ _ hne] at hafter
    exact ⟨after, hafter, .refl _⟩
  | @destroyed handle hfound =>
    have hne : collection ≠ handle.id := by
      rintro rfl
      simp [forgetCollection] at hafter
    simp only [forgetCollection, get_erase_of_ne _ hne] at hafter
    exact ⟨after, hafter, .refl _⟩
  | unchanged => exact ⟨after, hafter, .refl _⟩

/-- The limits of every collection are at least as tight as the chain defaults. -/
def WithinDefaults (common : CommonStorage T) : Prop :=
  ∀ collection data, common.collectionById.get collection = some data →
    CollectionLimits.Tightens {} data.limits

theorem CommonStep.withinDefaults (hregistered : Registered s.common)
    (hdefaults : WithinDefaults s.common) (hstep : CommonStep s call common) :
    WithinDefaults common := by
  intro collection data hdata
  by_cases hbound : collection ≤ s.common.createdCollectionCount
  · obtain ⟨before, hbefore, htightens⟩ := hstep.tightens hbound hdata
    exact (hdefaults collection before hbefore).trans htightens
  · -- An identifier that was not given out belongs to nothing, unless the step gives it out.
    have hnone : s.common.collectionById.get collection = none := by
      by_contra hsome
      exact hbound (hregistered collection hsome)
    cases hstep with
    | settings hfound hstep =>
      have hsome := (hstep.exists_iff hfound).mp (by rw [hdata]; exact Option.some_ne_none _)
      exact absurd hnone hsome
    | created hlimits =>
      by_cases hnew : collection = s.common.createdCollectionCount + 1
      · subst hnew
        simp only [addCollection, get_insert_self] at hdata
        cases hdata
        exact hlimits
      · simp only [addCollection, get_insert_of_ne _ _ hnew, hnone] at hdata
        cases hdata
    | destroyed hfound =>
      simp only [forgetCollection, get_erase, hnone, ite_self] at hdata
      cases hdata
    | unchanged =>
      rw [hnone] at hdata
      cases hdata

theorem withinDefaults_of_reachable (hreachable : Reachable s) : WithinDefaults s.common :=
  (hreachable.invariant
    (OfStorage.and (OfStorage.common Registered) (OfStorage.common WithinDefaults))
    (fun _ => ⟨fun _ hget => absurd rfl hget, fun _ _ hget => nomatch hget⟩)
    fun _ _ _ hbefore hstep => ⟨hstep.pallets.common.registered hbefore.1,
      hstep.pallets.common.withinDefaults hbefore.1 hbefore.2⟩).2

/-- Since `limits`, the collection has only got tighter ones, if it still exists. -/
structure TightSince (limits : CollectionLimits) (collection : CollectionId)
    (common : CommonStorage T) : Prop where
  bound : collection ≤ common.createdCollectionCount
  tightens : ∀ data, common.collectionById.get collection = some data →
    limits.Tightens data.limits

theorem CommonStep.tightSince {limits : CollectionLimits}
    (hstep : CommonStep s call common) (htight : TightSince limits collection s.common) :
    TightSince limits collection common where
  bound := htight.bound.trans hstep.createdCollectionCount_le
  tightens data hdata := by
    obtain ⟨before, hbefore, htightens⟩ := hstep.tightens htight.bound hdata
    exact (htight.tightens before hbefore).trans htightens

/-- Whatever happens to a collection, what its owner gave up stays given up, and
its token limit never grows and is never zero. -/
theorem limits_tighten_of_run {history : History T} {before after : Collection T.AccountId}
    (hreachable : Reachable s) (hrun : Run step s history s')
    (hbefore : s.common.collectionById.get collection = some before)
    (hafter : s'.common.collectionById.get collection = some after) :
    (before.limits.ownerCanDestroy = false → after.limits.ownerCanDestroy = false) ∧
      (before.limits.ownerCanTransfer? = some false → after.limits.ownerCanTransfer = false) ∧
      after.limits.tokenLimit ≤ before.limits.tokenLimit ∧
      0 < before.limits.tokenLimit ∧ 0 < after.limits.tokenLimit := by
  have hsince : TightSince before.limits collection s.common := by
    refine ⟨registered_of_reachable hreachable collection ?_, fun data hdata => ?_⟩
    · rw [hbefore]
      exact Option.some_ne_none _
    · rw [hbefore] at hdata
      cases hdata
      exact .refl _
  have htightens := (invariant_of_run
    (OfStorage.common (TightSince before.limits collection)) hsince
    (fun _ _ _ htight hstep => hstep.pallets.common.tightSince htight) hrun).tightens after hafter
  have hpos : 0 < before.limits.tokenLimit :=
    (withinDefaults_of_reachable hreachable collection before hbefore).tokenLimit_pos (by decide)
  refine ⟨htightens.ownerCanDestroy, fun hgivenUp => ?_, htightens.tokenLimit_le, hpos,
    htightens.tokenLimit_pos hpos⟩
  unfold CollectionLimits.ownerCanTransfer
  rw [htightens.ownerCanTransfer hgivenUp]
  rfl

namespace LimitsExample

/-- A collection whose owner may not destroy it, and then gives up transfers. -/
def calls : List (Extrinsic reference) :=
  [⟨.createCollection .alice (.user .alice)
      { mode := .nft, limits :=
        some { ownerCanDestroy? := some false, tokenLimit? := some 9 } }, 5⟩,
    ⟨.settings 1 (.updateLimits .alice { ownerCanTransfer? := some false }), 5⟩]

def state : State reference := reference.stateOf calls rfl

def later : Extrinsic reference :=
  ⟨.settings 1 (.updateLimits .alice { tokenLimit? := some 4 }), 5⟩

end LimitsExample

open LimitsExample in
theorem limits_tighten_example :
    ∃ s' before after, step state later = some s' ∧
      state.common.collectionById.get 1 = some before ∧
      s'.common.collectionById.get 1 = some after ∧ before.limits.tokenLimit = 9 ∧
      after.limits.ownerCanDestroy = false ∧ after.limits.ownerCanTransfer = false ∧
      after.limits.tokenLimit ≤ 9 ∧ 0 < after.limits.tokenLimit := by
  have hlater : step state later = some ((step state later).get rfl) := (Option.some_get _).symm
  have hbefore : state.common.collectionById.get 1 =
      some ((state.common.collectionById.get 1).get rfl) := (Option.some_get _).symm
  have hafter : ((step state later).get rfl).common.collectionById.get 1 =
      some ((((step state later).get rfl).common.collectionById.get 1).get rfl) :=
    (Option.some_get _).symm
  have htight := limits_tighten_of_run (reference.reachable_stateOf calls rfl)
    (Run.start.accepted hlater) hbefore hafter
  exact ⟨_, _, _, hlater, hbefore, hafter, rfl, htight.1 rfl, htight.2.1 rfl, htight.2.2.1,
    htight.2.2.2.2⟩

end UniqueChain
