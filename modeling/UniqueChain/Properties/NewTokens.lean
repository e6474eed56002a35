import UniqueChain.Properties.Tokens

/-!
# The properties of new tokens

The mints of both pallets have the form of `MintForm`: an item passes if it can be placed with
its receivers and the rule accepts its properties, whatever was minted before it (`ItemStep`).
-/

namespace UniqueChain

open Execution CollectionDispatch FiniteMap

variable {T : Config} {s s' : State T} {handle : CollectionHandle T} {token : TokenId}
  {sender : T.CrossAccountId}

variable {collection : CollectionId} {s₁ : State T}

/-! ## Non-fungible tokens -/

namespace Nonfungible

variable {data : List (CreateItemData T)} {info : PropertyWriterLazyCollectionInfo T}

theorem propertyStore :
    PropertyStore (fun (s : State T) key => s.nonfungible.tokenProperties.get key)
      setTokenPropertiesRaw where
  common_set := fun _ _ _ => rfl
  stored_congr := by
    intro s s' hstorage
    rw [(State.storage_eq_iff.mp hstorage).2.1]
  stored_set := fun _ _ _ => get_insert_self _ _ _
  stored_set_of_ne := fun _ _ _ _ hne => get_insert_of_ne _ _ hne

/-- The rule for one item. -/
def itemRule (handle : CollectionHandle T) (sender : T.CrossAccountId) (s : State T)
    (item : CreateItemData T) : Option TokenProperties :=
  newTokenRule handle sender s (T.convEq sender item.owner) item.properties

theorem itemStep (handle : CollectionHandle T) (sender : T.CrossAccountId) (start : State T) :
    ItemStep handle.id start.common
      (CollectionMemo
        (start.common.collectionPropertyPermissions.getD handle.id PropertiesMap.new)
        (handle.isOwnerOrAdmin start sender) start.common)
      (fun s key => s.nonfungible.tokenProperties.get key)
      (fun item => Nestable start item.owner) (itemRule handle sender start) (·.properties)
      (mintItem handle sender) := by
  refine ItemStep.of_placed propertyStore ?_ ?_
  · intro token item s hcommon hnestable
    let written := s.mapNonfungible fun nonfungible =>
      { nonfungible with
        tokenData := nonfungible.tokenData.insert (handle.id, token) ⟨item.owner⟩ }
    have hwritten : Nestable written item.owner :=
      (nestable_congr (show written.common = start.common from hcommon)).mpr hnestable
    refine ⟨nestUnder item.owner (handle.id, token) written, fun info => ?_, hcommon, rfl⟩
    exact (run_bind_of_ok rfl).trans
      (run_bind_of_ok (nestIfSentToTokenUnchecked_ok_iff.mpr ⟨hwritten, rfl⟩))
  · intro token item info s hcommon hnestable
    refine .bind_of_ok rfl (Fails.bind (nestIfSentToTokenUnchecked_fails fun h => ?_))
    exact hnestable ((nestable_congr hcommon).mp h)

theorem mintForm_lawful : (mintForm (T := T)).Lawful where
  itemStep := itemStep
  receivers_withoutProperties _ := rfl
  properties_withoutProperties _ := rfl
  placeable_withoutProperties _ _ := Iff.rfl
  totals_withoutProperties _ := rfl
  reads s t hstorage := by
    rw [State.eq_of_storage_eq hstorage]
    exact ⟨rfl, rfl, rfl⟩
  tokenProperties_finish _ _ _ _ _ _ :=
    (congrArg NonfungibleStorage.tokenProperties
      (State.storage_eq_iff.mp storage_mintOwned).2.1).trans rfl

end Nonfungible

/-! ## Refungible tokens -/

namespace Refungible

variable {data : List (CreateItemData T)} {info : PropertyWriterLazyCollectionInfo T}
  {entries : List (T.CrossAccountId × ℕ)} {entry : T.CrossAccountId × ℕ}

theorem propertyStore :
    PropertyStore (fun (s : State T) key => s.refungible.tokenProperties.get key)
      setTokenPropertiesRaw where
  common_set := fun _ _ _ => rfl
  stored_congr := by
    intro s s' hstorage
    rw [(State.storage_eq_iff.mp hstorage).2.2.2.1]
  stored_set := fun _ _ _ => get_insert_self _ _ _
  stored_set_of_ne := fun _ _ _ _ hne => get_insert_of_ne _ _ hne

/-- The rule for one item. -/
def itemRule (handle : CollectionHandle T) (sender : T.CrossAccountId) (s : State T)
    (item : CreateItemData T) : Option TokenProperties :=
  newTokenRule handle sender s (mintTargetIsSender sender item.users) item.properties

theorem placeable_congr (hcommon : s'.common = s.common) :
    Placeable s' entries ↔ Placeable s entries := by
  unfold Placeable
  simp only [nestable_congr hcommon]

theorem mintPieces_of_nestable (collection : CollectionId) (token : TokenId)
    (hnestable : entry.2 ≠ 0 → Nestable s entry.1) :
    ∃ s₁, (mintPieces collection token entry).run s = .ok () s₁ := by
  unfold mintPieces
  split
  · exact ⟨s, rfl⟩
  · rename_i hpositive
    let written := setOwned collection entry.1 token true (s.mapRefungible fun refungible =>
      { refungible with
        balance := refungible.balance.insert ((collection, token), entry.1) entry.2 })
    have hwritten : Nestable written entry.1 :=
      (nestable_congr (show written.common = s.common from rfl)).mpr (hnestable hpositive)
    exact ⟨nestUnder entry.1 (collection, token) written, (run_bind_of_ok rfl).trans
      (nestIfSentToTokenUnchecked_ok_iff.mpr ⟨hwritten, rfl⟩)⟩

theorem mintPieces_fails (hpositive : entry.2 ≠ 0) (hnestable : ¬ Nestable s entry.1) :
    Fails (mintPieces collection token entry) s := by
  unfold mintPieces
  rw [if_neg hpositive]
  refine .bind_of_ok rfl (nestIfSentToTokenUnchecked_fails fun h => hnestable ?_)
  exact (nestable_congr (s := s) rfl).mp h

theorem common_of_mintPieces_ok
    (hrun : (mintPieces collection token entry).run s = .ok () s') : s'.common = s.common := by
  rw [mintPieces_ok hrun]
  rfl

theorem forEach_mintPieces_of_placeable (collection : CollectionId) (token : TokenId)
    (hplaceable : Placeable s entries) :
    ∃ s₁, (forEach (mintPieces collection token) entries).run s = .ok () s₁ := by
  induction entries generalizing s with
  | nil => exact ⟨s, rfl⟩
  | cons entry rest ih =>
    obtain ⟨hentry, hrest⟩ := List.forall_mem_cons.mp hplaceable
    obtain ⟨s₁, hrun₁⟩ := mintPieces_of_nestable collection token hentry
    obtain ⟨s₂, hrun₂⟩ := ih ((placeable_congr (common_of_mintPieces_ok hrun₁)).mpr hrest)
    exact ⟨s₂, forEach_cons_ok.mpr ⟨s₁, hrun₁, hrun₂⟩⟩

theorem forEach_mintPieces_fails (hplaceable : ¬ Placeable s entries) :
    Fails (forEach (mintPieces collection token) entries) s := by
  induction entries generalizing s with
  | nil => exact absurd (by simp [Placeable]) hplaceable
  | cons entry rest ih =>
    by_cases hentry : entry.2 ≠ 0 → Nestable s entry.1
    · obtain ⟨s₁, hrun₁⟩ := mintPieces_of_nestable collection token hentry
      refine .bind_of_ok hrun₁ (ih fun hrest => hplaceable ?_)
      rw [placeable_congr (common_of_mintPieces_ok hrun₁)] at hrest
      exact List.forall_mem_cons.mpr ⟨hentry, hrest⟩
    · obtain ⟨hpositive, hnestable⟩ := Classical.not_imp.mp hentry
      exact (mintPieces_fails hpositive hnestable).bind

theorem itemStep (handle : CollectionHandle T) (sender : T.CrossAccountId) (start : State T) :
    ItemStep handle.id start.common
      (CollectionMemo
        (start.common.collectionPropertyPermissions.getD handle.id PropertiesMap.new)
        (handle.isOwnerOrAdmin start sender) start.common)
      (fun s key => s.refungible.tokenProperties.get key)
      (fun item => Placeable start item.users.entries) (itemRule handle sender start)
      (·.properties) (mintForm.mintItem handle sender) := by
  refine ItemStep.of_placed propertyStore ?_ ?_
  · intro token item s hcommon hplaceable
    let written := s.mapRefungible fun refungible =>
      { refungible with
        totalSupply := refungible.totalSupply.insert (handle.id, token) item.users.values.sum }
    have hwritten : Placeable written item.users.entries :=
      (placeable_congr (show written.common = start.common from hcommon)).mpr hplaceable
    obtain ⟨s₁, hpieces⟩ := forEach_mintPieces_of_placeable handle.id token hwritten
    have hs₁ := forEach_mintPieces_ok hpieces
    refine ⟨s₁, fun info => (run_bind_of_ok rfl).trans (run_bind_of_ok hpieces), ?_, ?_⟩
    · rw [hs₁]
      exact hcommon
    · rw [hs₁]
      rfl
  · intro token item info s hcommon hplaceable
    refine .bind_of_ok rfl (Fails.bind (forEach_mintPieces_fails fun h => hplaceable ?_))
    exact (placeable_congr hcommon).mp h

theorem itemTotals_withoutProperties :
    itemTotals (data.map (·.withoutProperties)) = itemTotals data := by
  induction data with
  | nil => rfl
  | cons item rest ih =>
    unfold itemTotals
    rw [List.map_cons]
    simp only [ih]
    rfl

theorem mintForm_lawful : (mintForm (T := T)).Lawful where
  itemStep := itemStep
  receivers_withoutProperties _ := rfl
  properties_withoutProperties _ := rfl
  placeable_withoutProperties _ _ := Iff.rfl
  totals_withoutProperties _ := itemTotals_withoutProperties
  reads s t hstorage := by
    rw [State.eq_of_storage_eq hstorage]
    exact ⟨rfl, rfl, rfl⟩
  tokenProperties_finish _ _ _ _ _ _ :=
    (congrArg RefungibleStorage.tokenProperties
      (State.storage_eq_iff.mp storage_mintAllLogs).2.2.2.1).trans rfl

end Refungible

end UniqueChain
