import UniqueChain.Runtime.Holdings

/-!
# Holdings belong to existing collections

What an account holds belongs to an existing collection of its kind: an NFT to an
NFT collection, a balance to a fungible one, pieces to a refungible one.  For a
gain this is part of the dispatch of the call, and a collection that is destroyed
takes all that is left of its storage with it.
-/

namespace UniqueChain

open CollectionDispatch

variable {T : Config} {s s' : State T} {asset : Asset}

/-- The asset is of the kind that collections of the mode have. -/
def Asset.OfMode : Asset → CollectionMode → Prop
  | .nonfungible _, .nft => True
  | .fungible _, .fungible _ => True
  | .refungible _, .reFungible => True
  | _, _ => False

theorem Asset.registered_iff :
    asset.Registered s ↔ asset.child.1 ≠ nativeFungibleCollectionId ∧
      ∃ mode, modeOf s asset.child.1 = some mode ∧ asset.OfMode mode := by
  have hfind : ∀ (id : CollectionId) (IsMode : CollectionMode → Prop),
      (∃ handle : CollectionHandle T, id ≠ nativeFungibleCollectionId ∧ handle.id = id ∧
        s.common.collectionById.get id = some handle.collection ∧ IsMode handle.collection.mode) ↔
      id ≠ nativeFungibleCollectionId ∧ ∃ mode, modeOf s id = some mode ∧ IsMode mode := by
    intro id IsMode
    constructor
    · rintro ⟨handle, hnative, _, hget, hmode⟩
      exact ⟨hnative, _, modeOf_of_get hget, hmode⟩
    · rintro ⟨hnative, mode, hmode, hkind⟩
      obtain ⟨data, hget, rfl⟩ := Option.map_eq_some_iff.mp hmode
      exact ⟨⟨id, data⟩, hnative, rfl, hget, hkind⟩
  cases asset with
  | nonfungible token =>
    simp only [Asset.Registered, dispatch_eq_nonfungible, Asset.child]
    rw [hfind token.1 fun mode => mode = .nft]
    refine and_congr_right fun _ => exists_congr fun mode => and_congr_right fun _ => ?_
    cases mode <;> simp [Asset.OfMode]
  | fungible collection =>
    simp only [Asset.Registered, dispatch_eq_fungible, Asset.child]
    rw [hfind collection fun mode => ∃ decimals, mode = .fungible decimals]
    refine and_congr_right fun _ => exists_congr fun mode => and_congr_right fun _ => ?_
    cases mode <;> simp [Asset.OfMode]
  | refungible token =>
    simp only [Asset.Registered, dispatch_eq_refungible, Asset.child]
    rw [hfind token.1 fun mode => mode = .reFungible]
    refine and_congr_right fun _ => exists_congr fun mode => and_congr_right fun _ => ?_
    cases mode <;> simp [Asset.OfMode]

theorem Asset.registered_congr (hmode : modeOf s' asset.child.1 = modeOf s asset.child.1) :
    asset.Registered s' ↔ asset.Registered s := by
  rw [Asset.registered_iff, Asset.registered_iff, hmode]

theorem Asset.Registered.collectionExists (hasset : asset.Registered s) :
    CollectionExists s asset.child.1 := by
  obtain ⟨_, mode, hmode, _⟩ := Asset.registered_iff.mp hasset
  obtain ⟨data, hget, _⟩ := Option.map_eq_some_iff.mp hmode
  unfold CollectionExists
  rw [hget]
  exact Option.some_ne_none data

/-- Nothing is left of the assets of a destroyed collection. -/
theorem Destroyed.held_eq_zero {handle : CollectionHandle T} (hdestroyed : Destroyed handle s s')
    (hkind : asset.OfMode handle.collection.mode) (hid : asset.child.1 = handle.id)
    (account : T.CrossAccountId) : held s' account asset = 0 := by
  cases hdestroyed with
  | nonfungible hmode hempty =>
    rw [hmode] at hkind
    cases asset with
    | nonfungible token =>
      have hnone : (s.nonfungible.tokenData.eraseWhere fun key => key.1 = handle.id).get token =
          none := by
        rw [FiniteMap.get_eraseWhere]
        exact if_pos hid
      simp [held, State.mapNonfungible, State.mapCommon, Nonfungible.clearCollection, hnone]
    | fungible collection => exact hkind.elim
    | refungible token => exact hkind.elim
  | fungible hmode hempty =>
    rw [hmode] at hkind
    cases asset with
    | nonfungible token => exact hkind.elim
    | fungible collection =>
      show (s.fungible.balance.eraseWhere fun key => key.1 = handle.id).getD
        (collection, account) 0 = 0
      rw [FiniteMap.getD_eraseWhere]
      exact if_pos hid
    | refungible token => exact hkind.elim
  | refungible hmode hempty =>
    rw [hmode] at hkind
    cases asset with
    | nonfungible token => exact hkind.elim
    | fungible collection => exact hkind.elim
    | refungible token =>
      show (s.refungible.balance.eraseWhere fun key => key.1.1 = handle.id).getD
        (token, account) 0 = 0
      rw [FiniteMap.getD_eraseWhere]
      exact if_pos hid

/-- The collection of an asset stays, or nothing is left of the asset. -/
theorem ChainStep.registered_or_cleared {call : Call T} (hregistered : Registered s.common)
    (hstep : ChainStep s call s') (hasset : asset.Registered s) :
    asset.Registered s' ∨ ∀ account, held s' account asset = 0 := by
  rcases hstep.modeOf_cases asset.child.1 with hmode | hnew | ⟨handle, hid, hfound, hdestroyed⟩
  · exact .inl ((Asset.registered_congr hmode).mpr hasset)
  · have hbound := hregistered _ hasset.collectionExists
    rw [hnew] at hbound
    exact absurd hbound (Nat.not_succ_le_self _)
  · obtain ⟨_, mode, hmode, hkind⟩ := Asset.registered_iff.mp hasset
    rw [hid, modeOf_of_get hfound] at hmode
    cases hmode
    exact .inr (hdestroyed.held_eq_zero hkind hid)

/-- Whatever is held belongs to an existing collection of its kind. -/
structure HoldingsRegistered (s : State T) : Prop where
  registered : Registered s.common
  holdings : ∀ account asset, held s account asset ≠ 0 → asset.Registered s

theorem ChainStep.holdingsRegistered {call : Call T} (hholdings : HoldingsRegistered s)
    (hstep : ChainStep s call s') : HoldingsRegistered s' := by
  refine ⟨hstep.pallets.common.registered hholdings.registered, fun account asset hheld => ?_⟩
  have hbefore : asset.Registered s := by
    by_cases hgain : held s account asset < held s' account asset
    · exact (hstep.registered_and_gain hgain).1
    · exact hholdings.holdings account asset (by omega)
  rcases hstep.registered_or_cleared hholdings.registered hbefore with hafter | hcleared
  · exact hafter
  · exact absurd (hcleared account) hheld

end UniqueChain
