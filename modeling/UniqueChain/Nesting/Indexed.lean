import UniqueChain.Library.PlaceIndex
import UniqueChain.Nesting.Index

/-!
# The index and the holdings

The index of children is exact for an asset if a token is entered as the parent
of the asset exactly when some account with the address of that token holds the
asset.  A step that does not operate on the collection of an asset changes neither
side (`ChainStep.indexed_of_other`): the entries of other children are left alone,
an identifier that is given out has no entries yet, and a destroyed collection
has no tokens that could still be parents.
-/

namespace UniqueChain

open CollectionDispatch

variable {T : Config} {s s' : State T} {asset : Asset}

variable {call : Call T} {account : T.CrossAccountId} {parent child : Token}

/-- The index is exact for the asset. -/
def Indexed (s : State T) (asset : Asset) : Prop :=
  IndexExact T.addressToToken (fun account => held s account asset ≠ 0)
    fun parent => asset.Registered s ∧ IsChild s.nonfungible.tokenChildren parent asset.child

theorem ofStorage_indexed : OfStorage fun s : State T => Indexed s asset := by
  intro s s' hstorage hindexed
  obtain ⟨hcommon, hnonfungible, _⟩ := State.storage_eq_iff.mp hstorage
  refine hindexed.congr (fun account => by rw [held_congr hstorage]) fun parent => ?_
  rw [Asset.registered_congr (modeOf_congr hcommon), hnonfungible]

theorem indexed_genesis {balances : T.Balances} : Indexed (genesis balances) asset := by
  refine fun parent => iff_of_false (fun hentry => hentry.2 rfl) ?_
  rintro ⟨account, _, hheld⟩
  cases asset <;> exact hheld rfl

/-- What the exactness of the index rests on, in every run. -/
structure IndexBase (s : State T) : Prop where
  holdings : HoldingsRegistered s
  parents : ParentsExist s
  children : ChildrenRegistered s

theorem ofStorage_holdingsRegistered : OfStorage (HoldingsRegistered (T := T)) := by
  intro s s' hstorage hholdings
  have hcommon := (State.storage_eq_iff.mp hstorage).1
  refine ⟨hcommon ▸ hholdings.registered, fun account asset hheld => ?_⟩
  rw [held_congr hstorage] at hheld
  exact (Asset.registered_congr (modeOf_congr hcommon)).mpr
    (hholdings.holdings account asset hheld)

theorem ofStorage_indexBase : OfStorage (IndexBase (T := T)) := by
  intro s s' hstorage hbase
  obtain ⟨hcommon, hnonfungible, _⟩ := State.storage_eq_iff.mp hstorage
  refine ⟨ofStorage_holdingsRegistered hstorage hbase.holdings, ?_, ?_⟩
  · unfold ParentsExist
    rw [hnonfungible]
    exact hbase.parents
  · unfold ChildrenRegistered
    rw [hnonfungible, hcommon]
    exact hbase.children

theorem indexBase_genesis {balances : T.Balances} : IndexBase (genesis balances) := by
  refine ⟨⟨fun _ hget => absurd rfl hget, fun account asset hheld => ?_⟩,
    fun _ _ hentry => absurd rfl hentry, fun _ _ hentry => absurd rfl hentry⟩
  cases asset <;> exact absurd rfl hheld

theorem ChainStep.indexBase (hbase : IndexBase s) (hstep : ChainStep s call s') : IndexBase s' :=
  ⟨hstep.holdingsRegistered hbase.holdings, hstep.parentsExist hbase.parents,
    hstep.childrenRegistered hbase.holdings.registered hbase.children⟩

theorem indexBase_of_reachable (hreachable : Reachable s) : IndexBase s :=
  hreachable.invariant ofStorage_indexBase (fun _ => indexBase_genesis)
    fun _ _ _ hbase hstep => hstep.indexBase hbase

theorem held_nonfungible_ne_zero {token : Token} :
    held s account (.nonfungible token) ≠ 0 ↔
      s.nonfungible.tokenData.get token = some ⟨account⟩ := by
  unfold held
  cases hget : s.nonfungible.tokenData.get token with
  | none => simp [hget]
  | some item =>
    cases item
    simp [hget]

/-- A parent in the index is an NFT of an existing collection. -/
theorem IndexBase.parent_found (hbase : IndexBase s)
    (hentry : IsChild s.nonfungible.tokenChildren parent child) :
    ∃ handle, dispatch s parent.1 = some (.nonfungible handle) := by
  obtain ⟨item, hitem⟩ := Option.ne_none_iff_exists'.mp (hbase.parents parent child hentry)
  exact hbase.holdings.holdings item.owner (.nonfungible parent)
    (held_nonfungible_ne_zero.mpr hitem)

/-- For a receiver that passed the nesting rules, the parent of its children is
the token whose address it has. -/
theorem nestingParent_of_mayReceive {sender account : T.CrossAccountId} {child : Token}
    (hmay : MayReceive s sender account child) :
    nestingParent s account = T.addressToToken account := by
  cases htoken : T.addressToToken account with
  | none => exact nestingParent_of_not_token htoken
  | some parent =>
    obtain ⟨handle, hgranted⟩ := hmay parent htoken
    exact nestingParent_eq_some.mpr ⟨htoken, handle, hgranted.found⟩

/-- Taking a child out of the entries of a holder removes what is entered under
the address of the holder. -/
theorem isChild_removeChild_nestingParent
    {children : Children} (hchild : child.1 ≠ nativeFungibleCollectionId)
    (hchildren : IsChild children parent child →
      ∃ handle, dispatch s parent.1 = some (.nonfungible handle)) :
    IsChild (removeChild (nestingParent s account) child children) parent child ↔
      T.addressToToken account ≠ some parent ∧ IsChild children parent child := by
  rw [isChild_removeChild hchild]
  constructor
  · rintro ⟨hother, hentry⟩
    refine ⟨fun htoken => hother ⟨?_, rfl⟩, hentry⟩
    obtain ⟨handle, hfound⟩ := hchildren hentry
    exact nestingParent_eq_some.mpr ⟨htoken, handle, hfound⟩
  · rintro ⟨hother, hentry⟩
    exact ⟨fun hparent => hother (addressToToken_of_nestingParent hparent.1), hentry⟩

/-! ## Operations on other collections -/

/-- The entries of a child are changed by operations on its collection only. -/
theorem ChainStep.isChild_iff_of_other
    (hparents : ParentsExist s) (hother : call.collection ≠ some child.1)
    (hstep : ChainStep s call s') :
    IsChild s'.nonfungible.tokenChildren parent child ↔
      IsChild s.nonfungible.tokenChildren parent child := by
  cases hstep with
  | nonfungible hfound hoperation =>
    exact isChild_iff_of_agreesOff (hoperation.reindexed.agreesOff rfl) fun heq =>
      hother (heq ▸ rfl)
  | fungible hfound hoperation =>
    exact isChild_iff_of_agreesOff (hoperation.reindexed.agreesOff rfl) fun heq =>
      hother (heq ▸ rfl)
  | refungible hfound hoperation =>
    exact isChild_iff_of_agreesOff (hoperation.reindexed.agreesOff rfl) fun heq =>
      hother (heq ▸ rfl)
  | @destroyCollection _ handle _ hnative hfound hdestroyed =>
    cases hdestroyed with
    | nonfungible hmode hempty =>
      -- the collection has no tokens, so none of them is a parent
      have hparent : IsChild s.nonfungible.tokenChildren parent child →
          parent.1 ≠ handle.id := fun hentry heq =>
        hparents parent child hentry (FiniteMap.anyKey_eq_false_iff.mp hempty parent heq)
      unfold IsChild at hparent ⊢
      simp only [State.mapUnique, State.mapNonfungible, State.mapCommon,
        Nonfungible.clearCollection]
      grind
    | fungible hmode hempty => exact Iff.rfl
    | refungible hmode hempty => exact Iff.rfl
  | _ => exact Iff.rfl

theorem held_eq_of_sameAt (hsame : s.SameAt asset.child.1 s') :
    held s' account asset = held s account asset := by
  cases asset with
  | nonfungible token =>
    have hdata : s'.nonfungible.tokenData.get token = s.nonfungible.tokenData.get token :=
      hsame.nonfungible.tokenData token.2
    simp only [held, hdata]
  | fungible collection =>
    have hbalance : s'.fungible.balance.get (collection, account) =
      s.fungible.balance.get (collection, account) := hsame.fungible.balance account
    simp only [held, FiniteMap.getD, hbalance]
  | refungible token =>
    have hbalance : s'.refungible.balance.get (token, account) =
      s.refungible.balance.get (token, account) := hsame.refungible.balance token.2 account
    simp only [held, FiniteMap.getD, hbalance]

theorem Asset.not_registered_of_modeOf_eq_none (hmode : modeOf s asset.child.1 = none) :
    ¬ asset.Registered s := by
  intro hasset
  obtain ⟨_, mode, hsome, _⟩ := Asset.registered_iff.mp hasset
  rw [hmode] at hsome
  cases hsome

/-- An index that has neither entries nor holders to enter is exact. -/
theorem indexed_of_not_registered (hholdings : HoldingsRegistered s)
    (hasset : ¬ asset.Registered s) : Indexed s asset := by
  intro parent
  refine iff_of_false (fun hentry => hasset hentry.1) ?_
  rintro ⟨account, _, hheld⟩
  exact hasset (hholdings.holdings account asset hheld)

theorem ChainStep.modeOf_eq_none_of_destroyed {sender : T.CrossAccountId}
    {collection : CollectionId} (hstep : ChainStep s call s')
    (hcall : call = .destroyCollection sender collection) : modeOf s' collection = none := by
  cases hstep with
  | destroyCollection hnative hfound hdestroyed =>
    cases hcall
    exact hdestroyed.modeOf_eq_none
  | _ => cases hcall

/-- A step that does not operate on the collection of the asset keeps the index
exact for it. -/
theorem ChainStep.indexed_of_other (hbase : IndexBase s)
    (hindexed : Indexed s asset) (hother : call.collection ≠ some asset.child.1)
    (hstep : ChainStep s call s') : Indexed s' asset := by
  have hholdings := hstep.holdingsRegistered hbase.holdings
  by_cases hgone : modeOf s' asset.child.1 = none
  · exact indexed_of_not_registered hholdings (Asset.not_registered_of_modeOf_eq_none hgone)
  have hsame : s.SameAt asset.child.1 s' := hstep.sameAt hother fun _ hcall =>
    hgone (hstep.modeOf_eq_none_of_destroyed hcall)
  have hentries : ∀ parent, IsChild s'.nonfungible.tokenChildren parent asset.child ↔
      IsChild s.nonfungible.tokenChildren parent asset.child :=
    fun _ => hstep.isChild_iff_of_other hbase.parents hother
  rcases hstep.modeOf_cases asset.child.1 with hmode | hnew | ⟨handle, hid, hfound, hdestroyed⟩
  · refine hindexed.congr (fun account => by rw [held_eq_of_sameAt hsame]) fun parent => ?_
    rw [Asset.registered_congr hmode, hentries]
  · -- nothing is held under a new identifier, and it has no entries
    have hunregistered : ∀ {bound : CollectionId}, bound = s.common.createdCollectionCount + 1 →
        ¬ bound ≤ s.common.createdCollectionCount := by
      rintro _ rfl
      exact Nat.not_succ_le_self _
    intro parent
    refine iff_of_false (fun hentry => ?_) ?_
    · exact hunregistered hnew (hbase.children parent _ ((hentries parent).mp hentry.2))
    · rintro ⟨account, _, hheld⟩
      rw [held_eq_of_sameAt hsame] at hheld
      exact hunregistered hnew (hbase.holdings.registered _
        (hbase.holdings.holdings account asset hheld).collectionExists)
  · rw [hid] at hgone
    exact absurd hdestroyed.modeOf_eq_none hgone

end UniqueChain
