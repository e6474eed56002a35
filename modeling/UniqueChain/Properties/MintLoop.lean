import UniqueChain.Properties.Writer
import UniqueChain.Properties.WriterFrame

/-!
# The loop that mints items

A mint writes its items one after the other.  Each item is placed with its owners
and then gets its properties from the writer, which remembers between two items
what it knows of the collection.  Both pallets run the same loop, so it is
analysed once.

## Strategy

Whether an item can be placed depends only on the collections that exist, and
whether its properties are accepted only on the rule for new tokens.  Neither is
changed by the items before it (`ItemStep`), so the loop succeeds exactly if every
item passes on its own.  A mint whose items have no properties passes the second
half for free, and comparing the two gives the rule for whole mints.
-/

namespace UniqueChain

open Execution CollectionDispatch

variable {T : Config} {s s' : State T} {handle : CollectionHandle T} {token : TokenId}
  {sender : T.CrossAccountId}

/-- The properties of a new token by the rule. -/
def newTokenRule (handle : CollectionHandle T) (sender : T.CrossAccountId) (s : State T)
    (mintTargetIsSender : Bool) (properties : List Property) : Option TokenProperties :=
  (newTokenFacts (s.common.collectionPropertyPermissions.getD handle.id PropertiesMap.new)
    (handle.isOwnerOrAdmin s sender) mintTargetIsSender).apply (propertyUpdates properties)
    Properties.new

@[simp] theorem newTokenRule_nil {mintTargetIsSender : Bool} :
    newTokenRule handle sender s mintTargetIsSender [] = some Properties.new := rfl

theorem newTokenRule_congr (hcommon : s'.common = s.common) :
    newTokenRule handle sender s' = newTokenRule handle sender s := by
  unfold newTokenRule CollectionHandle.isOwnerOrAdmin
  rw [hcommon]

/-! ## The loop -/

section Loop

variable {ι : Type}

/-- Take `step` for every item, with the numbers `token`, `token + 1`, …. -/
def mintLoop (step : TokenId → ι → PropertyWriterLazyCollectionInfo T →
      Exec T (PropertyWriterLazyCollectionInfo T)) :
    TokenId → List ι → PropertyWriterLazyCollectionInfo T → Exec T Unit
  | _, [], _ => pure ()
  | token, item :: rest, info => do
    let info ← step token item info
    mintLoop step (token + 1) rest info

/-- The loop has every compositional property that its steps have. -/
theorem mintLoop_holds {A : (α : Type) → Exec T α → Prop} {E : Failure → Prop}
    (hA : Compositional A E) {items : List ι} {info : PropertyWriterLazyCollectionInfo T}
    {step : TokenId → ι → PropertyWriterLazyCollectionInfo T →
      Exec T (PropertyWriterLazyCollectionInfo T)}
    (hstep : ∀ token, ∀ item ∈ items, ∀ info : PropertyWriterLazyCollectionInfo T, info.All A →
      Yields A (fun info => info.All A) (step token item info))
    (hinfo : info.All A) : A Unit (mintLoop step token items info) := by
  induction items generalizing token info with
  | nil => exact hA.pure ()
  | cons item rest ih =>
    obtain ⟨hholds, hreturns⟩ := hstep token item List.mem_cons_self info hinfo
    refine hA.bind hholds fun info' hinfo' => ih (fun token item hitem => ?_) (hreturns _ hinfo')
    exact hstep token item (List.mem_cons_of_mem _ hitem)

/-- The step of a mint: items that are `Placeable` and have properties by the
`rule` pass, and only the properties of the item's own token are written. -/
structure ItemStep (collection : CollectionId) (common : CommonStorage T)
    (Known : PropertyWriterLazyCollectionInfo T → Prop)
    (stored : State T → Token → Option TokenProperties) (Placeable : ι → Prop)
    (rule : ι → Option TokenProperties) (properties : ι → List Property)
    (step : TokenId → ι → PropertyWriterLazyCollectionInfo T →
      Exec T (PropertyWriterLazyCollectionInfo T)) : Prop where
  passes : ∀ token {item info s final}, Known info → s.common = common → Placeable item →
    rule item = some final →
      ∃ info' s', (step token item info).run s = .ok info' s' ∧ Known info' ∧
        s'.common = common ∧
        stored s' (collection, token) =
          (if properties item = [] then stored s (collection, token) else some final) ∧
        ∀ key ≠ (collection, token), stored s' key = stored s key
  fails : ∀ {token item info s}, Known info → s.common = common →
    ¬ (Placeable item ∧ (rule item).isSome) → Fails (step token item info) s

variable {collection : CollectionId} {common : CommonStorage T}
  {Known : PropertyWriterLazyCollectionInfo T → Prop}
  {stored : State T → Token → Option TokenProperties} {Placeable : ι → Prop}
  {rule : ι → Option TokenProperties} {properties : ι → List Property}
  {step : TokenId → ι → PropertyWriterLazyCollectionInfo T →
    Exec T (PropertyWriterLazyCollectionInfo T)}
  {items : List ι} {info : PropertyWriterLazyCollectionInfo T}

variable (token) in
/-- A loop whose items all pass succeeds, and every token gets its properties. -/
theorem ItemStep.loop_passes
    (hstep : ItemStep collection common Known stored Placeable rule properties step)
    (hinfo : Known info) (hcommon : s.common = common)
    (hall : ∀ item ∈ items, Placeable item ∧ (rule item).isSome) :
    ∃ s', (mintLoop step token items info).run s = .ok () s' ∧
      (∀ key, (∀ item ∈ items.zipIdx token, key ≠ (collection, item.2)) →
        stored s' key = stored s key) ∧
      ∀ item ∈ items.zipIdx token, ∀ final, rule item.1 = some final →
        stored s' (collection, item.2) =
          if properties item.1 = [] then stored s (collection, item.2) else some final := by
  induction items generalizing token s info with
  | nil => exact ⟨s, rfl, fun _ _ => rfl, by simp⟩
  | cons head rest ih =>
    obtain ⟨⟨hplaceable, hrule⟩, hothers⟩ := List.forall_mem_cons.mp hall
    obtain ⟨final, hfinal⟩ := Option.isSome_iff_exists.mp hrule
    obtain ⟨info₁, s₁, hrun₁, hinfo₁, hcommon₁, hown, hkept₁⟩ :=
      hstep.passes token hinfo hcommon hplaceable hfinal
    obtain ⟨s', hrun, hkept, hwritten⟩ := ih (token + 1) hinfo₁ hcommon₁ hothers
    -- the later items have larger numbers, so they leave the first token alone
    have hlater : ∀ item ∈ rest.zipIdx (token + 1), (collection, token) ≠ (collection, item.2) := by
      intro item hitem heq
      have hle := (List.mem_zipIdx hitem).1
      rw [(Prod.mk.inj heq).2] at hle
      exact absurd hle (Nat.not_succ_le_self _)
    refine ⟨s', (run_bind_of_ok hrun₁).trans hrun, fun key hkey => ?_, fun item hitem => ?_⟩
    · rw [List.zipIdx_cons, List.forall_mem_cons] at hkey
      rw [hkept key hkey.2, hkept₁ key hkey.1]
    · rw [List.zipIdx_cons, List.mem_cons] at hitem
      rcases hitem with rfl | hitem
      · intro other hother
        rw [hfinal] at hother
        cases hother
        rw [hkept _ hlater, hown]
      · intro other hother
        rw [hwritten item hitem other hother, hkept₁ _ (Ne.symm (hlater item hitem))]

/-- A loop with an item that does not pass fails. -/
theorem ItemStep.loop_fails
    (hstep : ItemStep collection common Known stored Placeable rule properties step)
    (hinfo : Known info) (hcommon : s.common = common)
    (hall : ¬ ∀ item ∈ items, Placeable item ∧ (rule item).isSome) :
    Fails (mintLoop step token items info) s := by
  induction items generalizing token s info with
  | nil => exact absurd (by simp) hall
  | cons head rest ih =>
    by_cases hhead : Placeable head ∧ (rule head).isSome
    · obtain ⟨final, hfinal⟩ := Option.isSome_iff_exists.mp hhead.2
      obtain ⟨info₁, s₁, hrun₁, hinfo₁, hcommon₁, _⟩ :=
        hstep.passes token hinfo hcommon hhead.1 hfinal
      refine .bind_of_ok hrun₁ (ih hinfo₁ hcommon₁ fun hrest => hall ?_)
      exact List.forall_mem_cons.mpr ⟨hhead, hrest⟩
    · exact (hstep.fails hinfo hcommon hhead).bind

/-- The loop succeeds exactly if every item passes. -/
theorem ItemStep.loop_succeeds_iff
    (hstep : ItemStep collection common Known stored Placeable rule properties step)
    (hinfo : Known info) (hcommon : s.common = common) :
    (∃ s', (mintLoop step token items info).run s = .ok () s') ↔
      ∀ item ∈ items, Placeable item ∧ (rule item).isSome := by
  constructor
  · rintro ⟨s', hrun⟩
    by_contra hall
    exact not_fails_of_ok hrun (hstep.loop_fails hinfo hcommon hall)
  · intro hall
    obtain ⟨s', hrun, _⟩ := hstep.loop_passes token hinfo hcommon hall
    exact ⟨s', hrun⟩

/-- After a successful loop a token that had no properties before has those of
the rule. -/
theorem ItemStep.stored_of_loop_ok
    (hstep : ItemStep collection common Known stored Placeable rule properties step)
    (hinfo : Known info) (hcommon : s.common = common)
    (hnone : ∀ item, properties item = [] → rule item = some Properties.new)
    (hrun : (mintLoop step token items info).run s = .ok () s') {item : ι × TokenId}
    (hitem : item ∈ items.zipIdx token) (hnew : stored s (collection, item.2) = none) :
    rule item.1 = some ((stored s' (collection, item.2)).getD Properties.new) := by
  have hall := (hstep.loop_succeeds_iff hinfo hcommon).mp ⟨s', hrun⟩
  obtain ⟨final, hfinal⟩ := Option.isSome_iff_exists.mp
    (hall item.1 (List.fst_mem_of_mem_zipIdx hitem)).2
  obtain ⟨reached, hreached, _, hwritten⟩ := hstep.loop_passes token hinfo hcommon hall
  rw [hrun] at hreached
  cases hreached
  rw [hwritten item hitem final hfinal]
  split
  · rename_i hnil
    rw [hnone item.1 hnil, hnew]
    rfl
  · exact hfinal

/-- The stored properties after the numbered items are written: an item without
properties writes none. -/
def writtenProperties (collection : CollectionId) (rule : ι → Option TokenProperties)
    (properties : ι → List Property) (items : List (ι × TokenId))
    (stored : Token → Option TokenProperties) : Token → Option TokenProperties :=
  items.foldl (fun stored item =>
    if properties item.1 = [] then stored
    else Function.update stored (collection, item.2) (rule item.1)) stored

theorem ItemStep.writtenProperties_of_loop_ok
    (hstep : ItemStep collection common Known stored Placeable rule properties step)
    (hinfo : Known info) (hcommon : s.common = common)
    (hrun : (mintLoop step token items info).run s = .ok () s') :
    stored s' = writtenProperties collection rule properties (items.zipIdx token) (stored s) := by
  induction items generalizing token s info with
  | nil =>
    obtain ⟨_, rfl⟩ := pure_ok.mp hrun
    rfl
  | cons head rest ih =>
    obtain ⟨hplaceable, hrule⟩ :=
      (hstep.loop_succeeds_iff hinfo hcommon).mp ⟨s', hrun⟩ head List.mem_cons_self
    obtain ⟨final, hfinal⟩ := Option.isSome_iff_exists.mp hrule
    obtain ⟨info₁, s₁, hrun₁, hinfo₁, hcommon₁, hown, hkept⟩ :=
      hstep.passes token hinfo hcommon hplaceable hfinal
    have hrest : (mintLoop step (token + 1) rest info₁).run s₁ = .ok () s' :=
      (run_bind_of_ok hrun₁).symm.trans hrun
    have hfirst : stored s₁ = if properties head = [] then stored s
        else Function.update (stored s) (collection, token) (rule head) := by
      funext key
      by_cases hkey : key = (collection, token)
      · rw [hkey, hown]
        split
        · rfl
        · rw [Function.update_self, hfinal]
      · rw [hkept key hkey]
        split
        · rfl
        · rw [Function.update_of_ne hkey]
    rw [ih hinfo₁ hcommon₁ hrest, hfirst]
    rfl

/-- A storage of token properties with the function that writes it. -/
structure PropertyStore (stored : State T → Token → Option TokenProperties)
    (setTokenPropertiesRaw : Token → TokenProperties → State T → State T) : Prop where
  common_set : ∀ key final s, (setTokenPropertiesRaw key final s).common = s.common
  stored_congr : ∀ s s', s'.storage = s.storage → stored s' = stored s
  stored_set : ∀ key final s, stored (setTokenPropertiesRaw key final s) key = some final
  stored_set_of_ne : ∀ key final s, ∀ other ≠ key,
    stored (setTokenPropertiesRaw key final s) other = stored s other

/-- An item that is placed and then given to the writer. -/
theorem ItemStep.of_placed {start : State T}
    {setTokenPropertiesRaw : Token → TokenProperties → State T → State T} {target : ι → Bool}
    (hstore : PropertyStore stored setTokenPropertiesRaw)
    (hplaced : ∀ token {item s}, s.common = start.common → Placeable item →
      ∃ s₁, (∀ info, (step token item info).run s = (writeNewTokenProperties setTokenPropertiesRaw
          handle.id info (target item) token (properties item)).run s₁) ∧
        s₁.common = start.common ∧ stored s₁ = stored s)
    (hfails : ∀ {token item info s}, s.common = start.common → ¬ Placeable item →
      Fails (step token item info) s) :
    ItemStep handle.id start.common
      (CollectionMemo
        (start.common.collectionPropertyPermissions.getD handle.id PropertiesMap.new)
        (handle.isOwnerOrAdmin start sender) start.common)
      stored Placeable
      (fun item => newTokenRule handle sender start (target item) (properties item))
      properties step where
  passes := by
    intro token item info s final hinfo hcommon hplaceable hrule
    obtain ⟨s₁, hrun, hcommon₁, hstored₁⟩ := hplaced token hcommon hplaceable
    rw [newTokenRule] at hrule
    obtain ⟨info', s₂, hstorage, hwrite, hinfo'⟩ := writeNewTokenProperties_of_apply
      setTokenPropertiesRaw handle.id token (by rwa [hcommon₁]) hrule
    have hstored₂ : stored s₂ = stored s := (hstore.stored_congr s₁ s₂ hstorage).trans hstored₁
    have hcommon₂ : s₂.common = start.common :=
      (State.storage_eq_iff.mp hstorage).1.trans hcommon₁
    rw [hcommon₁] at hinfo'
    refine ⟨info', _, (hrun info).trans hwrite, hinfo', ?_, ?_, ?_⟩
    · split
      · exact hcommon₂
      · exact (hstore.common_set _ _ _).trans hcommon₂
    · split
      · rw [hstored₂]
      · exact hstore.stored_set _ _ _
    · intro key hkey
      split
      · rw [hstored₂]
      · rw [hstore.stored_set_of_ne _ _ _ key hkey, hstored₂]
  fails := by
    intro token item info s hinfo hcommon hitem
    by_cases hplaceable : Placeable item
    · obtain ⟨s₁, hrun, hcommon₁, _⟩ := hplaced token hcommon hplaceable
      have hrule : newTokenRule handle sender start (target item) (properties item) = none := by
        rw [← Option.not_isSome_iff_eq_none]
        exact fun hsome => hitem ⟨hplaceable, hsome⟩
      rw [newTokenRule] at hrule
      obtain ⟨error, reached, herror⟩ := writeNewTokenProperties_fails setTokenPropertiesRaw
        handle.id token (by rwa [hcommon₁]) hrule
      exact ⟨error, reached, (hrun info).trans herror⟩
    · exact hfails hcommon hplaceable

end Loop

end UniqueChain
