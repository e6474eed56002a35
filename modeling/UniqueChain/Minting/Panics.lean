import UniqueChain.Fungible.Effects
import UniqueChain.Model.IndexedMint
import UniqueChain.Nesting.Errors
import UniqueChain.Properties.NewTokens

/-!
# Minting does not panic

A mint can panic in four places.  The entry in the index of children is made with
an `unwrap`; the ids of the items are added up without a check; the number of
pieces of an item is looked up by its index; and a lazy value of the property
writer panics if it is asked for while it is being computed.

## Strategy

Whether the `unwrap` succeeds depends on the account and on the collections that
exist (`Nestable`).  The loop that checks the nesting has made the same lookup for
every receiver, and nothing between the two loops writes to the pallet `common`.
So the invariant of the whole mint is that the storage of `common` stays as it was
(`PanicFree`), and under it nothing fails with a panic; the writer is covered by
the general analysis of `WriterFrame`.  The ids stay within 32 bits because the
new number of minted tokens has been checked to do so, and there are as many
totals as items.  Hence the loops with indices are the loops that count up.
-/

namespace UniqueChain

open Execution CollectionDispatch

variable {T : Config} {start s s' : State T} {handle : CollectionHandle T} {token : TokenId}
  {sender account : T.CrossAccountId} {child : Token}

variable {collection : CollectionId} {common : CommonStorage T}
  {info : PropertyWriterLazyCollectionInfo T}

/-! ## Executions that keep the collections and do not panic -/

/-- From a state with this storage of `common` the execution keeps it, and does
not panic. -/
def PanicFree {α : Type} (common : CommonStorage T) (body : Exec T α) : Prop :=
  Keeps (fun s => s.common = common) NotPanicked body

theorem writerAnalysis_panicFree (common : CommonStorage T) :
    WriterAnalysis (fun _ body => PanicFree common body) NotPanicked where
  toCompositional := compositional_keeps
  common _ := notPanicked_dispatch _
  readCommon _ := Keeps.of_preserves (.bind .read fun _ => .pure) (.bind .read fun _ => .pure)
  depositEvent _ := Keeps.update fun _ hs => hs

namespace PanicFree

variable {α β : Type} {common : CommonStorage T} {body : Exec T α}

theorem of_preserves (hview : Preserves State.common body) (hfails : FailsWithin NotPanicked body) :
    PanicFree common body :=
  Keeps.of_preserves hview hfails

theorem bind {next : α → Exec T β} (hbody : PanicFree common body)
    (hnext : ∀ a, PanicFree common (next a)) : PanicFree common (body >>= next) :=
  Keeps.bind_of_ok hbody fun _ a _ _ _ => hnext a

theorem update {f : State T → State T} (hcommon : ∀ s, (f s).common = s.common) :
    PanicFree common (Execution.update f : Exec T Unit) :=
  Keeps.update fun s hs => (hcommon s).trans hs

theorem read : PanicFree common (Execution.read : Exec T (State T)) :=
  of_preserves .read .read

theorem okOr {value : Option α} {error : DispatchError} :
    PanicFree common (Execution.okOr value (error : Failure) : Exec T α) :=
  of_preserves .okOr (.okOr (notPanicked_dispatch error))

theorem forEach {ι : Type} {step : ι → Exec T Unit} {elements : List ι}
    (hstep : ∀ element ∈ elements, PanicFree common (step element)) :
    PanicFree common (Execution.forEach step elements) :=
  compositional_keeps.forEach hstep

theorem not_panicked (hbody : ∀ common, PanicFree common body) : body.run s ≠ .error .panicked s' :=
  fun hrun => (hbody s.common).of_error rfl hrun rfl

end PanicFree

theorem checks_panicFree (common : CommonStorage T) :
    CheckAnalysis State.storage (fun _ body => PanicFree common body) NotPanicked where
  toCompositional := compositional_keeps
  dispatch error _ := notPanicked_dispatch error
  common _ _ hstorage := (State.storage_eq_iff.mp hstorage).1
  read_bind _ hnext := PanicFree.read.bind hnext
  findTopmostOwner _ := .of_preserves preserves_findTopmostOwner
    (failsWithin_findTopmostOwner fun error _ => notPanicked_dispatch error)
  getCheckedTopmostOwner _ _ := .of_preserves preserves_getCheckedTopmostOwner
    (failsWithin_getCheckedTopmostOwner fun error _ => notPanicked_dispatch error)

/-! ## The unwrap -/

/-- The check has made the lookup that is unwrapped later. -/
theorem nestable_of_checkNesting_ok (hcommon : s.common = start.common)
    (hrun : (checkNesting sender account child).run s = .ok () s') : Nestable start account := by
  obtain ⟨hcollection, hfound⟩ := tryExecIfToken_ok.mp hrun
  refine (nestable_congr hcommon).mp ⟨hcollection, fun parent hparent => ?_⟩
  rcases hfound with ⟨hnone, _⟩ | ⟨found, kind, htoken, hkind, _⟩
  · rw [hnone] at hparent
    cases hparent
  · rw [htoken] at hparent
    cases hparent
    rw [hkind, Option.isSome_some]

theorem nestable_of_forEach_checkNesting_ok {accounts : List T.CrossAccountId}
    (hcommon : s.common = start.common)
    (hrun : (forEach (fun account => checkNesting sender account child) accounts).run s =
      .ok () s') : ∀ account ∈ accounts, Nestable start account := by
  induction accounts generalizing s with
  | nil => simp
  | cons head rest ih =>
    obtain ⟨middle, hhead, hrest⟩ := forEach_cons_ok.mp hrun
    have hmiddle : middle.common = s.common := checks_preserve.checkNesting.of_ok hhead
    exact List.forall_mem_cons.mpr
      ⟨nestable_of_checkNesting_ok hcommon hhead, ih (hmiddle.trans hcommon) hrest⟩

theorem keeps_nestIfSentToTokenUnchecked {P : Failure → Prop} (hnestable : Nestable start account) :
    Keeps (fun s => s.common = start.common) P (nestIfSentToTokenUnchecked account child) := by
  have hrun : ∀ s : State T, s.common = start.common →
      (nestIfSentToTokenUnchecked account child).run s = .ok () (nestUnder account child s) :=
    fun s hs => nestIfSentToTokenUnchecked_ok_iff.mpr ⟨(nestable_congr hs).mpr hnestable, rfl⟩
  intro s hs
  rw [hrun s hs]
  exact hs

/-! ## The ids of the items -/

theorem tokenAt_eq {firstToken index : ℕ} (hwidth : firstToken + index + 1 ≤ u32Max) :
    (tokenAt firstToken index : Exec T TokenId) = pure (firstToken + index + 1) := by
  unfold tokenAt
  rw [checkedAdd_eq_some.mpr ⟨Nat.le_of_succ_le hwidth, rfl⟩]
  change okOr (checkedAdd u32Max (firstToken + index) 1) Failure.panicked = _
  rw [checkedAdd_eq_some.mpr ⟨hwidth, rfl⟩]
  rfl

/-- A loop over the items with their indices is a loop that counts the ids up. -/
theorem forEach_tokenAt {ι : Type} {items : List ι} {firstToken index : ℕ}
    (loop : TokenId → List ι → Exec T Unit) (step : TokenId → ι → Exec T Unit)
    (hnil : ∀ token, loop token [] = pure ()) (hcons : ∀ token item rest,
      loop token (item :: rest) = step token item >>= fun _ => loop (token + 1) rest)
    (hwidth : firstToken + index + items.length ≤ u32Max) :
    forEach (fun entry => tokenAt firstToken entry.2 >>= fun token => step token entry.1)
      (items.zipIdx index) = loop (firstToken + index + 1) items := by
  induction items generalizing index with
  | nil => exact (hnil _).symm
  | cons item rest ih =>
    rw [List.length_cons] at hwidth
    rw [List.zipIdx_cons, hcons, forEach, tokenAt_eq (by omega), pure_bind]
    exact bind_congr fun _ => ih (by omega)

/-! ## The program of both mints -/

theorem nestable_of_checkEachNesting_ok {ι : Type} {receivers : ι → List T.CrossAccountId}
    {data : List ι} (hcommon : s.common = start.common)
    (hrun : (checkEachNesting receivers collection sender token data).run s = .ok () s') :
    ∀ item ∈ data, ∀ account ∈ receivers item, Nestable start account := by
  induction data generalizing token s with
  | nil => simp
  | cons item rest ih =>
    obtain ⟨middle, hitem, hrest⟩ := bind_unit_ok.mp hrun
    have hmiddle : middle.common = s.common :=
      (Preserves.forEach (fun _ => checks_preserve.checkNesting) _).of_ok hitem
    exact List.forall_mem_cons.mpr
      ⟨nestable_of_forEach_checkNesting_ok hcommon hitem, ih (hmiddle.trans hcommon) hrest⟩

/-- A mint does not panic if none of its items does, where all receivers can be nested under. -/
theorem MintForm.panicFree_create {form : MintForm T} {data : List form.Item} (hform : form.Lawful)
    (hitem : ∀ (start : State T) token item,
      (∀ account ∈ form.receivers item, Nestable start account) →
      ∀ info : PropertyWriterLazyCollectionInfo T,
        info.All (fun _ body => PanicFree start.common body) →
        Yields (fun _ body => PanicFree start.common body)
          (fun info => info.All fun _ body => PanicFree start.common body)
          (form.mintItem handle sender token item info))
    (hfinish : ∀ token count balances s,
      (form.finish handle.id token data count balances s).common = s.common)
    (common : CommonStorage T) : PanicFree common (form.create handle sender data) := by
  have hA := writerAnalysis_panicFree common
  refine MintForm.create_holds hform (checks_panicFree common) (notPanicked_dispatch _)
    fun token count balances => ?_
  refine Keeps.bind_of_ok (checks_panicFree common).checkEachNesting
    fun start _ _ hstart hchecked => ?_
  -- every receiver has been looked up, in a state with the same collections
  have hnestable := nestable_of_checkEachNesting_ok rfl hchecked
  subst hstart
  refine PanicFree.bind (Keeps.transactional ?_) fun _ => .update fun _ => hfinish _ _ _ _
  exact mintLoop_holds hA.toCompositional (fun token item hmem info hinfo =>
    hitem _ token item (hnestable item hmem) info hinfo) (hA.newCollectionInfo handle sender)

/-! ## Non-fungible tokens -/

namespace Nonfungible

variable {data : List (CreateItemData T)} {firstToken index : ℕ}

section

variable (hwidth : firstToken + index + data.length ≤ u32Max)

include hwidth

theorem forEach_mintCheckNestingAt :
    forEach (mintCheckNestingAt handle sender firstToken) (data.zipIdx index) =
      mintCheckNesting handle sender (firstToken + index + 1) data :=
  forEach_tokenAt (mintCheckNesting handle sender) _ (fun _ => rfl) (fun _ _ _ => rfl) hwidth

theorem mintItemsAt_eq :
    mintItemsAt handle sender firstToken (data.zipIdx index) info =
      mintItems handle sender (firstToken + index + 1) data info := by
  induction data generalizing index info with
  | nil => rfl
  | cons item rest ih =>
    rw [List.length_cons] at hwidth
    rw [List.zipIdx_cons]
    unfold mintItemsAt mintItems
    rw [tokenAt_eq (by omega)]
    exact bind_congr fun info => ih (by omega)

theorem forEach_mintOwnedAt :
    forEach (mintOwnedAt collection firstToken) (data.zipIdx index) =
      (update (mintOwned collection (firstToken + index + 1) data) : Exec T Unit) :=
  forEach_tokenAt (fun token items => update (mintOwned collection token items))
    (fun token item => update (mintOwned collection token [item])) (fun _ => rfl)
    (fun _ _ _ => rfl) hwidth

end

/-- The mint of the source, with its indices, is the mint that counts up. -/
theorem createMultipleItemsAt_eq :
    createMultipleItemsAt handle sender data = createMultipleItems handle sender data := by
  refine bind_congr fun _ => bind_congr fun _ => bind_congr fun s =>
    okOr_bind_congr fun tokensMinted hminted => bind_congr fun _ => bind_congr fun balances => ?_
  have hwidth := (checkedAdd_eq_some.mp hminted).1
  rw [forEach_mintCheckNestingAt hwidth, mintItemsAt_eq hwidth, forEach_mintOwnedAt hwidth]

theorem panicFree_createMultipleItems (common : CommonStorage T) :
    PanicFree common (createMultipleItems handle sender data) := by
  rw [createMultipleItems_eq]
  refine MintForm.panicFree_create mintForm_lawful (fun start token item hnestable info hinfo => ?_)
    (fun _ _ _ _ => (State.storage_eq_iff.mp storage_mintOwned).1) common
  have hA := writerAnalysis_panicFree start.common
  refine hA.yields_bind (.of_holds (.update fun _ => rfl)) fun _ _ => ?_
  refine hA.yields_bind (.of_holds (keeps_nestIfSentToTokenUnchecked
    (hnestable _ (List.mem_singleton_self _)))) fun _ _ => ?_
  exact hA.writeNewTokenProperties (fun _ => .update fun _ => rfl) hinfo

end Nonfungible

/-! ## Fungible tokens -/

namespace Fungible

variable {data : AssocMap T.CrossAccountId ℕ} {items : List (T.CrossAccountId × ℕ × ℕ)}

/-- The receivers are written without an error. -/
theorem keeps_forEach_mintItem {P : Failure → Prop}
    (hnestable : ∀ item ∈ items, Nestable start item.1) :
    Keeps (fun s => s.common = start.common) P (forEach (mintItem collection) items) := by
  refine compositional_keeps.forEach fun item hitem => ?_
  refine compositional_keeps.bind (.update fun _ hs => hs) fun _ _ => ?_
  refine compositional_keeps.bind ?_ fun _ _ => .update fun _ hs => hs
  exact keeps_nestIfSentToTokenUnchecked (hnestable item hitem)

/-- The receivers that are written are those that were checked. -/
theorem nestable_of_updatedBalances {entries : List (T.CrossAccountId × ℕ)}
    (hnestable : ∀ account ∈ entries.map (·.1), Nestable start account)
    (hitems : updatedBalances s collection entries = some items) :
    ∀ item ∈ items, Nestable start item.1 := by
  rw [updatedBalances_eq_some hitems]
  intro item hitem
  obtain ⟨entry, hentry, rfl⟩ := List.mem_map.mp hitem
  exact hnestable _ (List.mem_map_of_mem hentry)

theorem panicFree_createMultipleItems (common : CommonStorage T) :
    PanicFree common (createMultipleItems handle sender data) := by
  have hA := checks_panicFree common
  refine PanicFree.bind hA.checkMintAuthority fun _ => PanicFree.read.bind fun s =>
    PanicFree.okOr.bind fun totalSupply => ?_
  refine Keeps.bind_of_ok (PanicFree.forEach fun _ _ => hA.checkNesting)
    fun start _ _ hstart hchecked => ?_
  have hnestable := nestable_of_forEach_checkNesting_ok rfl hchecked
  subst hstart
  refine Keeps.bind_of_ok PanicFree.okOr fun _ items _ _ hitems => ?_
  refine PanicFree.bind (.update fun _ => rfl) fun _ => keeps_forEach_mintItem ?_
  exact nestable_of_updatedBalances hnestable (okOr_ok.mp hitems).1

end Fungible

/-! ## Refungible tokens -/

namespace Refungible

variable {data : List (CreateItemData T)} {firstToken index : ℕ} {totals : List ℕ}

section

variable (hwidth : firstToken + index + data.length ≤ u32Max)

include hwidth

theorem forEach_mintCheckNestingAt :
    forEach (mintCheckNestingAt handle sender firstToken) (data.zipIdx index) =
      mintCheckNesting handle sender (firstToken + index + 1) data :=
  forEach_tokenAt (mintCheckNesting handle sender) _ (fun _ => rfl) (fun _ _ _ => rfl) hwidth

/-- There is a total for every item that is left. -/
theorem mintItemsAt_eq (htotals : index + data.length = totals.length) :
    mintItemsAt handle sender firstToken totals (data.zipIdx index) info =
      mintItems handle sender (firstToken + index + 1) (data.zip (totals.drop index)) info := by
  induction data generalizing index info with
  | nil => rfl
  | cons item rest ih =>
    rw [List.length_cons] at hwidth htotals
    have hindex : index < totals.length := by omega
    rw [List.zipIdx_cons, List.drop_eq_getElem_cons hindex, List.zip_cons_cons]
    unfold mintItemsAt mintItems
    rw [tokenAt_eq (by omega), List.getElem?_eq_getElem hindex]
    exact bind_congr fun info => ih (by omega) (by omega)

theorem forEach_mintLogsAt :
    forEach (mintLogsAt collection firstToken) (data.zipIdx index) =
      (update (mintAllLogs collection (firstToken + index + 1) data) : Exec T Unit) :=
  forEach_tokenAt (fun token items => update (mintAllLogs collection token items))
    (fun token item => update (mintLogs collection token item)) (fun _ => rfl)
    (fun _ _ _ => rfl) hwidth

end

theorem createMultipleItemsAt_eq :
    createMultipleItemsAt handle sender data = createMultipleItems handle sender data := by
  refine bind_congr fun _ => bind_congr fun _ => okOr_bind_congr fun totals htotals =>
    bind_congr fun _ => bind_congr fun s => okOr_bind_congr fun tokensMinted hminted =>
      bind_congr fun _ => bind_congr fun balances => ?_
  have hwidth : s.refungible.tokensMinted.getD handle.id 0 + 0 + data.length ≤ u32Max :=
    (checkedAdd_eq_some.mp hminted).1
  have hlength : 0 + data.length = totals.length := by
    rw [itemTotals_eq_some htotals, List.length_map, Nat.zero_add]
  rw [forEach_mintCheckNestingAt hwidth, mintItemsAt_eq hwidth hlength, forEach_mintLogsAt hwidth]
  rfl

theorem panicFree_createMultipleItems (common : CommonStorage T) :
    PanicFree common (createMultipleItems handle sender data) := by
  rw [createMultipleItems_eq]
  refine MintForm.panicFree_create mintForm_lawful (fun start token item hnestable info hinfo => ?_)
    (fun _ _ _ _ => (State.storage_eq_iff.mp storage_mintAllLogs).1) common
  have hA := writerAnalysis_panicFree start.common
  have hpieces : ∀ entry ∈ item.users.entries,
      PanicFree start.common (mintPieces handle.id token entry) := by
    intro entry hentry
    unfold mintPieces
    split
    · exact .of_preserves .pure .pure
    · exact PanicFree.bind (.update fun _ => rfl) fun _ =>
        keeps_nestIfSentToTokenUnchecked (hnestable _ (List.mem_map_of_mem hentry))
  refine hA.yields_bind (.of_holds (.update fun _ => rfl)) fun _ _ => ?_
  refine hA.yields_bind (.of_holds (.forEach hpieces)) fun _ _ => ?_
  exact hA.writeNewTokenProperties (fun _ => .update fun _ => rfl) hinfo

end Refungible

/-! ## All mints -/

/-- Whatever the state and the arguments, a mint returns `Ok` or `Err`. -/
theorem mint_never_panics (handle : CollectionHandle T) (sender : T.CrossAccountId)
    (s s' : State T) :
    (∀ data, (Nonfungible.createMultipleItemsAt handle sender data).run s ≠ .error .panicked s') ∧
      (∀ data, (Fungible.createMultipleItems handle sender data).run s ≠ .error .panicked s') ∧
      ∀ data, (Refungible.createMultipleItemsAt handle sender data).run s ≠
        .error .panicked s' := by
  refine ⟨fun data => ?_, fun data => ?_, fun data => ?_⟩
  · rw [Nonfungible.createMultipleItemsAt_eq]
    exact PanicFree.not_panicked Nonfungible.panicFree_createMultipleItems
  · exact PanicFree.not_panicked Fungible.panicFree_createMultipleItems
  · rw [Refungible.createMultipleItemsAt_eq]
    exact PanicFree.not_panicked Refungible.panicFree_createMultipleItems

end UniqueChain
