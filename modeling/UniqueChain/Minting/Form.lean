import UniqueChain.Properties.MintLoop

/-!
# The form of a mint

The mints of NFTs and of refungible tokens are the same program, up to what an item is, how
it is written and where the counters are.  `MintForm` is what they differ in, and
`MintForm.create` the program; what is proved here about the program holds for both pallets.

What a mint does before it writes does not look at the properties (`MintForm.Prepared`), so a
mint succeeds exactly if the same mint without properties does and the rule accepts the
properties of every item.  A failing mint leaves storage alone: it writes inside a transaction
only, and nothing that can fail comes after it.
-/

namespace UniqueChain

open Execution CollectionDispatch

variable {T : Config} {s s' s₁ : State T} {handle : CollectionHandle T} {sender : T.CrossAccountId}
  {collection : CollectionId} {token : TokenId} {A : (α : Type) → Exec T α → Prop}

/-! ## Nesting -/

section Nesting

variable {ι : Type} {receivers : ι → List T.CrossAccountId} {data : List ι}

/-- Check the nesting of the items to be minted as `token`, `token + 1`, …, for every receiver. -/
def checkEachNesting (receivers : ι → List T.CrossAccountId) (collection : CollectionId)
    (sender : T.CrossAccountId) : TokenId → List ι → Exec T Unit
  | _, [] => pure ()
  | token, item :: rest => do
    forEach (fun to' => checkNesting sender to' (collection, token)) (receivers item)
    checkEachNesting receivers collection sender (token + 1) rest

theorem checkEachNesting_ok
    (hrun : (checkEachNesting receivers collection sender token data).run s = .ok () s') :
    SpendsBudget s s' ∧ ∀ item ∈ data.zipIdx token, ∀ account ∈ receivers item.1,
      MayReceive s sender account (collection, item.2) := by
  induction data generalizing token s with
  | nil =>
    obtain ⟨_, rfl⟩ := pure_ok.mp hrun
    exact ⟨.refl s, by simp⟩
  | cons head rest ih =>
    obtain ⟨middle, hcheck, hrest⟩ := bind_unit_ok.mp hrun
    obtain ⟨hspend, hmay⟩ := forEach_checkNesting_ok hcheck
    obtain ⟨hspend', hothers⟩ := ih hrest
    refine ⟨hspend.trans hspend', fun item hitem account haccount => ?_⟩
    rw [List.zipIdx_cons, List.mem_cons] at hitem
    rcases hitem with rfl | hitem
    · exact hmay account haccount
    · exact (hothers item hitem account haccount).of_spendsBudget hspend

/-- The checks have every compositional property that one check has. -/
theorem CheckAnalysis.checkEachNesting {ν : Type} {view : State T → ν} {E : Failure → Prop}
    (hA : CheckAnalysis view A E) :
    A Unit (UniqueChain.checkEachNesting receivers collection sender token data) := by
  induction data generalizing token with
  | nil => exact hA.pure ()
  | cons item rest ih => exact hA.bind (hA.forEach fun _ _ => hA.checkNesting) fun _ _ => ih

end Nesting

/-! ## The form -/

/-- What the mints of the two pallets differ in. -/
structure MintForm (T : Config) where
  Item : Type
  receivers : Item → List T.CrossAccountId
  properties : Item → List Property
  withoutProperties : Item → Item
  /-- All that is minted of the item goes to the sender, or to its mirror. -/
  toSender : T.CrossAccountId → Item → Bool
  /-- The item can be nested where it goes. -/
  Placeable : State T → Item → Prop
  /-- The pieces of each item, where there are any. -/
  totals : List Item → Option (List ℕ)
  /-- The number of tokens and the limit. -/
  Within : ℕ → ℕ → Prop
  decidableWithin : ∀ count limit, Decidable (Within count limit)
  tokensMinted : State T → FiniteMap CollectionId ℕ
  accountBalance : State T → FiniteMap (CollectionId × T.CrossAccountId) ℕ
  tokenProperties : State T → FiniteMap Token TokenProperties
  mintItem : CollectionHandle T → T.CrossAccountId → TokenId → Item →
    PropertyWriterLazyCollectionInfo T → Exec T (PropertyWriterLazyCollectionInfo T)
  /-- What is written after the items. -/
  finish : CollectionId → TokenId → List Item → ℕ → AssocMap T.CrossAccountId ℕ → State T →
    State T

namespace MintForm

variable {form : MintForm T} {data : List form.Item} {balances : AssocMap T.CrossAccountId ℕ}

variable (form) in
/-- The number of tokens that were ever minted. -/
def minted (s : State T) (collection : CollectionId) : ℕ := (form.tokensMinted s).getD collection 0

instance (count limit : ℕ) : Decidable (form.Within count limit) := form.decidableWithin ..

/-- The program of both pallets. -/
def create (form : MintForm T) (handle : CollectionHandle T) (sender : T.CrossAccountId)
    (data : List form.Item) : Exec T Unit := do
  handle.checkMintAuthority sender (data.flatMap form.receivers)
  forEach ensureCorrectReceiver (data.flatMap form.receivers)
  let totals ← okOr (form.totals data) DispatchError.overflow
  ensure (∀ total ∈ totals, total ≤ maxRefungiblePieces) DispatchError.wrongRefungiblePieces
  let s ← read
  let tokensMinted ← okOr (checkedAdd u32Max (form.minted s handle.id) data.length)
    DispatchError.overflow
  ensure (form.Within tokensMinted handle.collection.limits.tokenLimit)
    CommonError.collectionTokenLimitExceeded
  let balances ← countReceivers (fun owner => (form.accountBalance s).getD (handle.id, owner) 0)
    handle.collection.limits.accountTokenOwnershipLimit (data.flatMap form.receivers) .empty
  checkEachNesting form.receivers handle.id sender (form.minted s handle.id + 1) data
  Exec.withTransaction (mintLoop (form.mintItem handle sender) (form.minted s handle.id + 1) data
    (.new handle sender))
  update (form.finish handle.id (form.minted s handle.id + 1) data tokensMinted balances)

/-- No item has too many pieces. -/
def Sound (form : MintForm T) (data : List form.Item) : Prop :=
  ∃ totals, form.totals data = some totals ∧ ∀ total ∈ totals, total ≤ maxRefungiblePieces

/-- The checks of a mint that do not look at other tokens. -/
@[mk_iff]
structure Admitted (form : MintForm T) (handle : CollectionHandle T) (sender : T.CrossAccountId)
    (data : List form.Item) (s : State T) : Prop where
  authority : handle.isOwnerOrAdmin s sender = true ∨
    handle.collection.permissions.mintMode = true ∧
      ∀ owner ∈ sender :: data.flatMap form.receivers, handle.allowlisted s owner = true
  receivers : ∀ owner ∈ data.flatMap form.receivers, T.zeroAccount ≠ owner
  sound : form.Sound data
  width : form.minted s handle.id + data.length ≤ u32Max
  limit : form.Within (form.minted s handle.id + data.length) handle.collection.limits.tokenLimit

/-- What a mint does before it writes. -/
@[mk_iff]
structure Prepared (form : MintForm T) (handle : CollectionHandle T) (sender : T.CrossAccountId)
    (data : List form.Item) (s : State T) (balances : AssocMap T.CrossAccountId ℕ)
    (s₁ : State T) : Prop extends form.Admitted handle sender data s where
  counted : (countReceivers (fun owner => (form.accountBalance s).getD (handle.id, owner) 0)
    handle.collection.limits.accountTokenOwnershipLimit (data.flatMap form.receivers)
    .empty).run s = .ok balances s
  nested : (checkEachNesting form.receivers handle.id sender (form.minted s handle.id + 1)
    data).run s =
    .ok () s₁

/-- What a successful mint has checked. -/
structure MintChecks (form : MintForm T) (handle : CollectionHandle T) (sender : T.CrossAccountId)
    (data : List form.Item) (s : State T) : Prop extends form.Admitted handle sender data s where
  mayReceive : ∀ item ∈ data.zipIdx (form.minted s handle.id + 1),
    ∀ account ∈ form.receivers item.1,
    MayReceive s sender account (handle.id, item.2)

theorem create_ok_iff :
    (form.create handle sender data).run s = .ok () s' ↔
      ∃ balances s₁ s₂, form.Prepared handle sender data s balances s₁ ∧
        (mintLoop (form.mintItem handle sender) (form.minted s handle.id + 1) data
          (.new handle sender)).run s₁ = .ok () s₂ ∧
        s' = form.finish handle.id (form.minted s handle.id + 1) data
          (form.minted s handle.id + data.length) balances s₂ := by
  simp only [create, CollectionHandle.checkMintAuthority_bind_ok,
    forEach_ensureCorrectReceiver_bind_ok, read_bind_ok, okOr_bind_ok, ensure_bind_ok,
    checkedAdd_eq_some]
  constructor
  · rintro ⟨hauthority, hreceivers, totals, htotals, hpieces, _, ⟨hwidth, rfl⟩, hlimit, hrun⟩
    obtain ⟨balances, _, hbalances, hrun⟩ := bind_ok.mp hrun
    obtain rfl := countReceivers_state hbalances
    obtain ⟨s₁, hnested, hrun⟩ := bind_unit_ok.mp hrun
    obtain ⟨s₂, hitems, hrun⟩ := bind_unit_ok.mp hrun
    exact ⟨balances, s₁, s₂, ⟨⟨hauthority, hreceivers, ⟨totals, htotals, hpieces⟩, hwidth, hlimit⟩,
      hbalances, hnested⟩, transactional_ok.mp hitems, (update_ok.mp hrun).symm⟩
  · rintro ⟨balances, s₁, s₂, hprepared, hitems, rfl⟩
    obtain ⟨totals, htotals, hpieces⟩ := hprepared.sound
    refine ⟨hprepared.authority, hprepared.receivers, totals, htotals, hpieces, _,
      ⟨hprepared.width, rfl⟩, hprepared.limit, ?_⟩
    refine bind_ok.mpr ⟨balances, s, hprepared.counted, ?_⟩
    refine bind_unit_ok.mpr ⟨s₁, hprepared.nested, ?_⟩
    exact bind_unit_ok.mpr ⟨s₂, transactional_ok.mpr hitems, update_ok.mpr rfl⟩

/-- A failing mint changes no storage. -/
theorem preservesOnError_create :
    PreservesOnError State.storage (form.create handle sender data) := by
  refine .bind checks_preserve.checkMintAuthority fun _ => ?_
  refine .bind checks_preserve.ensureCorrectReceivers fun _ => ?_
  refine .bind .okOr fun totals => .bind .ensure fun _ => ?_
  refine .bind .read fun s => .bind .okOr fun count => .bind .ensure fun _ => ?_
  refine .bind (checks_preserve.countReceivers trivial) fun balances => ?_
  refine .bind checks_preserve.checkEachNesting fun _ => ?_
  exact .bind_of_total preservesOnError_withTransaction fun _ => .update

/-! ## Which mints succeed -/

/-- The rule for one item. -/
def rule (form : MintForm T) (handle : CollectionHandle T) (sender : T.CrossAccountId)
    (s : State T) (item : form.Item) : Option TokenProperties :=
  newTokenRule handle sender s (form.toSender sender item) (form.properties item)

/-- What the two forms have in common. -/
structure Lawful (form : MintForm T) : Prop where
  itemStep : ∀ handle sender (start : State T), ItemStep handle.id start.common
    (CollectionMemo (start.common.collectionPropertyPermissions.getD handle.id PropertiesMap.new)
      (handle.isOwnerOrAdmin start sender) start.common)
    (fun s => (form.tokenProperties s).get) (form.Placeable start) (form.rule handle sender start)
    form.properties (form.mintItem handle sender)
  receivers_withoutProperties : ∀ item, form.receivers (form.withoutProperties item) =
    form.receivers item
  properties_withoutProperties : ∀ item, form.properties (form.withoutProperties item) = []
  placeable_withoutProperties : ∀ s item, form.Placeable s (form.withoutProperties item) ↔
    form.Placeable s item
  totals_withoutProperties : ∀ data, form.totals (data.map form.withoutProperties) =
    form.totals data
  reads : ∀ s t : State T, t.storage = s.storage → form.tokensMinted t = form.tokensMinted s ∧
    form.accountBalance t = form.accountBalance s ∧ form.tokenProperties t = form.tokenProperties s
  tokenProperties_finish : ∀ collection token data count balances s, form.tokenProperties
    (form.finish collection token data count balances s) = form.tokenProperties s

theorem checkEachNesting_map {ι κ : Type} {receivers : ι → List T.CrossAccountId} {f : κ → ι}
    {data : List κ} :
    checkEachNesting receivers collection sender token (data.map f) =
      checkEachNesting (receivers ∘ f) collection sender token data := by
  induction data generalizing token with
  | nil => rfl
  | cons item rest ih =>
    rw [List.map_cons, checkEachNesting, checkEachNesting, ih]
    rfl

section

variable (hform : form.Lawful)

include hform

/-- A compositional property of the checks and of what comes after them is one of the mint. -/
theorem create_holds {E : Failure → Prop}
    (hA : CheckAnalysis State.storage A E) (hoverflow : E DispatchError.overflow)
    (hwrite : ∀ token count balances, A Unit (do
      checkEachNesting form.receivers handle.id sender token data
      Exec.withTransaction (mintLoop (form.mintItem handle sender) token data (.new handle sender))
      update (form.finish handle.id token data count balances))) :
    A Unit (form.create handle sender data) := by
  refine hA.bind hA.checkMintAuthority fun _ _ => ?_
  refine hA.bind hA.ensureCorrectReceivers fun _ _ => ?_
  refine hA.bind (hA.okOr hoverflow) fun totals _ => ?_
  refine hA.bind (hA.toCompositional.ensure (hA.dispatch _ rfl)) fun _ _ => ?_
  refine hA.read_bind (fun s t hstorage => ?_) fun s => ?_
  · obtain ⟨hminted, hcounted, _⟩ := hform.reads s t hstorage
    simp only [minted, hminted, hcounted]
  · refine hA.bind (hA.okOr hoverflow) fun count _ => hA.bind hA.ensure fun _ _ => ?_
    exact hA.bind (hA.countReceivers hoverflow) fun balances _ => hwrite _ _ _

theorem create_succeeds :
    (∃ s', (form.create handle sender data).run s = .ok () s') ↔
      (∃ prepared : AssocMap T.CrossAccountId ℕ × State T,
        form.Prepared handle sender data s prepared.1 prepared.2) ∧
      ∀ item ∈ data, form.Placeable s item ∧ (form.rule handle sender s item).isSome := by
  have hloop : ∀ {balances s₁}, form.Prepared handle sender data s balances s₁ →
      ((∃ s₂, (mintLoop (form.mintItem handle sender) (form.minted s handle.id + 1) data
          (.new handle sender)).run s₁ = .ok () s₂) ↔
        ∀ item ∈ data, form.Placeable s item ∧ (form.rule handle sender s item).isSome) := by
    intro balances s₁ hprepared
    obtain ⟨⟨left, _, rfl⟩, _⟩ := checkEachNesting_ok hprepared.nested
    exact (hform.itemStep handle sender s).loop_succeeds_iff (CollectionMemo.new handle sender s)
      rfl
  constructor
  · rintro ⟨s', hrun⟩
    obtain ⟨balances, s₁, s₂, hprepared, hitems, _⟩ := create_ok_iff.mp hrun
    exact ⟨⟨(balances, s₁), hprepared⟩, (hloop hprepared).mp ⟨s₂, hitems⟩⟩
  · rintro ⟨⟨⟨balances, s₁⟩, hprepared⟩, hall⟩
    obtain ⟨s₂, hitems⟩ := (hloop hprepared).mpr hall
    exact ⟨_, create_ok_iff.mpr ⟨balances, s₁, s₂, hprepared, hitems, rfl⟩⟩

theorem prepared_withoutProperties :
    form.Prepared handle sender (data.map form.withoutProperties) s balances s₁ ↔
      form.Prepared handle sender data s balances s₁ := by
  have hreceivers : form.receivers ∘ form.withoutProperties = form.receivers :=
    funext hform.receivers_withoutProperties
  have hflat : (data.map form.withoutProperties).flatMap form.receivers =
      data.flatMap form.receivers := by
    rw [List.flatMap_map]
    simp only [hform.receivers_withoutProperties]
  simp only [prepared_iff, admitted_iff, hflat, List.length_map, Sound,
    hform.totals_withoutProperties, checkEachNesting_map, hreceivers]

/-- A mint succeeds exactly if the same mint without properties does, and the
rule accepts the properties of every item. -/
theorem create_succeeds_iff :
    (∃ s', (form.create handle sender data).run s = .ok () s') ↔
      (∃ s', (form.create handle sender (data.map form.withoutProperties)).run s = .ok () s') ∧
      ∀ item ∈ data, (form.rule handle sender s item).isSome := by
  have hrule : ∀ item, (form.rule handle sender s (form.withoutProperties item)).isSome := by
    intro item
    rw [rule, hform.properties_withoutProperties, newTokenRule_nil, Option.isSome_some]
  simp only [create_succeeds hform, prepared_withoutProperties hform, List.forall_mem_map,
    hform.placeable_withoutProperties, hrule, and_true]
  constructor
  · rintro ⟨hprepared, hall⟩
    exact ⟨⟨hprepared, fun item hitem => (hall item hitem).1⟩, fun item hitem =>
      (hall item hitem).2⟩
  · rintro ⟨⟨hprepared, hplaceable⟩, hrules⟩
    exact ⟨hprepared, fun item hitem => ⟨hplaceable item hitem, hrules item hitem⟩⟩

/-- A token that had no properties before it was minted has those of the rule. -/
theorem storedProperties_of_create_ok (hrun : (form.create handle sender data).run s = .ok () s')
    {item : form.Item × TokenId} (hitem : item ∈ data.zipIdx (form.minted s handle.id + 1))
    (hnew : (form.tokenProperties s).get (handle.id, item.2) = none) :
    form.rule handle sender s item.1 =
      some ((form.tokenProperties s').getD (handle.id, item.2) Properties.new) := by
  obtain ⟨balances, s₁, s₂, hprepared, hitems, rfl⟩ := create_ok_iff.mp hrun
  obtain ⟨⟨left, _, rfl⟩, _⟩ := checkEachNesting_ok hprepared.nested
  rw [hform.tokenProperties_finish]
  refine (hform.itemStep handle sender s).stored_of_loop_ok (CollectionMemo.new handle sender s)
    (show (s.setBudget left).common = s.common from rfl) (fun item hnil => ?_) hitems hitem ?_
  · rw [rule, hnil, newTokenRule_nil]
  · rwa [(hform.reads s (s.setBudget left) rfl).2.2]

end

end MintForm

end UniqueChain
