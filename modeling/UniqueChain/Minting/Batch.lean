import UniqueChain.Nonfungible.Ledger
import UniqueChain.Properties.NewTokens
import UniqueChain.Refungible.Ledger

/-!
# A batch and its items one by one

A mint of several items checks all of them in the state it starts from, counts
their receivers in a map of its own, and writes the counters at the end.  One mint
for each item reads the storage anew each time, and has the whole budget each time.

## Strategy

The first item is cut off the batch.  Its mint passes the checks that the batch has
passed for it.  The rest is then minted in a state with one more token and with the
counters of the first item, and again passes the checks of the batch: the walks of
the nesting checks go through the tokens that were there before (`ParentsKept`), and
the counters in storage have become what the batch has in its map
(`countReceivers_of_append_right`).  What a batch writes is a fold over its items, so nothing
is left to compare at the end.
-/

namespace UniqueChain

open Execution CollectionDispatch FiniteMap

variable {T : Config} {s s' s₁ t : State T} {handle : CollectionHandle T} {token : TokenId}
  {sender : T.CrossAccountId}

variable {collection : CollectionId} {first : TokenId} {budget : ℕ}
  {tokenProperties tokenProperties' : FiniteMap Token TokenProperties}

/-! ## Counting -/

section Counting

variable {stored stored' : T.CrossAccountId → ℕ} {limit : ℕ}
  {owners first rest : List T.CrossAccountId} {balances result : AssocMap T.CrossAccountId ℕ}

/-- The count succeeds if no counter gets too large in the end. -/
theorem countReceivers_succeeds :
    (∃ result, (countReceivers stored limit owners balances).run s = .ok result s) ↔
      ∀ owner ∈ owners,
        (balances.get owner).getD (stored owner) + owners.count owner ≤ min u32Max limit := by
  induction owners generalizing balances with
  | nil => exact ⟨fun _ => by simp, fun _ => ⟨balances, rfl⟩⟩
  | cons head rest ih =>
    simp only [countReceivers, okOr_bind_ok, ensure_bind_ok, checkedAdd_eq_some]
    constructor
    · rintro ⟨result, _, ⟨hwidth, rfl⟩, hlimit, hrun⟩
      have hrest := ih.mp ⟨result, hrun⟩
      intro owner howner
      by_cases hhead : owner = head
      · subst hhead
        by_cases hagain : owner ∈ rest
        · have hlast := hrest owner hagain
          rw [AssocMap.get_insert, if_pos rfl, Option.getD_some] at hlast
          rw [List.count_cons_self]
          omega
        · rw [List.count_cons_self, List.count_eq_zero_of_not_mem hagain]
          omega
      · have hlast := hrest owner (List.mem_of_ne_of_mem hhead howner)
        rwa [AssocMap.get_insert, if_neg hhead, ← List.count_cons_of_ne (Ne.symm hhead)] at hlast
    · intro hall
      have hfirst := hall head List.mem_cons_self
      rw [List.count_cons_self] at hfirst
      have hrest : ∃ result, (countReceivers stored limit rest (balances.insert head
          ((balances.get head).getD (stored head) + 1))).run s = .ok result s := by
        refine ih.mpr fun owner howner => ?_
        have hlast := hall owner (List.mem_cons_of_mem head howner)
        by_cases hhead : owner = head
        · subst hhead
          rw [AssocMap.get_insert, if_pos rfl, Option.getD_some]
          omega
        · rwa [AssocMap.get_insert, if_neg hhead, ← List.count_cons_of_ne (Ne.symm hhead)]
      obtain ⟨result, hrun⟩ := hrest
      exact ⟨result, _, ⟨by omega, rfl⟩, by omega, hrun⟩

variable (first rest) in
/-- The first receivers can be counted alone. -/
theorem countReceivers_of_append_left
    (hrun : (countReceivers stored limit (first ++ rest) .empty).run s = .ok result s') :
    ∃ result, (countReceivers stored limit first .empty).run t = .ok result t := by
  obtain rfl := countReceivers_state hrun
  have hall := countReceivers_succeeds.mp ⟨result, hrun⟩
  refine countReceivers_succeeds.mpr fun owner howner => ?_
  have hboth := hall owner (List.mem_append_left rest howner)
  rw [List.count_append] at hboth
  omega

variable (first rest) in
/-- Once they are counted in storage, the others can be counted. -/
theorem countReceivers_of_append_right
    (hrun : (countReceivers stored limit (first ++ rest) .empty).run s = .ok result s')
    (hstored : ∀ owner, stored' owner = stored owner + first.count owner) :
    ∃ result, (countReceivers stored' limit rest .empty).run t = .ok result t := by
  obtain rfl := countReceivers_state hrun
  have hall := countReceivers_succeeds.mp ⟨result, hrun⟩
  refine countReceivers_succeeds.mpr fun owner howner => ?_
  have hboth := hall owner (List.mem_append_right first howner)
  rw [AssocMap.get_empty, Option.getD_none, List.count_append] at hboth
  rw [AssocMap.get_empty, Option.getD_none, hstored]
  omega

theorem countEach_append {accountBalance : FiniteMap (CollectionId × T.CrossAccountId) ℕ} :
    countEach collection (first ++ rest) accountBalance =
      countEach collection rest (countEach collection first accountBalance) :=
  List.foldl_append

end Counting

/-! ## Who may mint -/

/-- Whoever may mint for a list of receivers may do so for a part of it. -/
theorem mintAuthority_mono {owners owners' : List T.CrossAccountId}
    (hcommon : t.common = s.common) (hsub : owners'.Sublist owners)
    (hauthority : handle.isOwnerOrAdmin s sender = true ∨
      handle.collection.permissions.mintMode = true ∧
        ∀ owner ∈ sender :: owners, handle.allowlisted s owner = true) :
    handle.isOwnerOrAdmin t sender = true ∨
      handle.collection.permissions.mintMode = true ∧
        ∀ owner ∈ sender :: owners', handle.allowlisted t owner = true := by
  unfold CollectionHandle.isOwnerOrAdmin CollectionHandle.allowlisted at *
  rw [hcommon]
  refine hauthority.imp_right fun hopen => ⟨hopen.1, fun owner howner => ?_⟩
  exact hopen.2 owner ((hsub.cons_cons sender).subset howner)

/-! ## The first item of a mint -/

/-- What the forms of the two pallets have in common where a mint is cut after its first item.
`written` is what a mint writes, from its first token on and with the properties of all tokens. -/
structure MintForm.Cuttable (form : MintForm T) (written : State T → CollectionId →
    List form.Item → TokenId → FiniteMap Token TokenProperties → State T) : Prop
    extends form.Lawful where
  within_mono : ∀ {count count' limit}, count ≤ count' → form.Within count' limit →
    form.Within count limit
  sound_cons : ∀ {item rest}, form.Sound (item :: rest) → form.Sound [item] ∧ form.Sound rest
  placeable_congr : ∀ {s t : State T} {item}, t.common = s.common →
    (form.Placeable t item ↔ form.Placeable s item)
  counters_congr : ∀ {s t : State T}, t.storage = s.storage →
    form.tokensMinted t = form.tokensMinted s ∧ form.accountBalance t = form.accountBalance s ∧
      form.tokenProperties t = form.tokenProperties s
  stored : ∀ {handle sender data} {s s' : State T},
    (form.create handle sender data).run s = .ok () s' → ∃ tokenProperties, s'.storage =
      (written s handle.id data (form.minted s handle.id + 1) tokenProperties).storage
  minted_written : ∀ {s collection data first tokenProperties},
    form.minted (written s collection data first tokenProperties) collection =
      form.minted s collection + data.length
  accountBalance_written : ∀ {s collection data first tokenProperties},
    form.accountBalance (written s collection data first tokenProperties) =
      countEach collection (data.flatMap form.receivers) (form.accountBalance s)
  tokenProperties_written : ∀ {s collection data first tokenProperties},
    form.tokenProperties (written s collection data first tokenProperties) = tokenProperties
  written_cons : ∀ {s t : State T} {collection item rest first tokenProperties tokenProperties'},
    t.storage = (written s collection [item] first tokenProperties').storage →
      (written t collection rest (first + 1) tokenProperties).storage =
        (written s collection (item :: rest) first tokenProperties).storage

namespace MintForm

variable {form : MintForm T} {data rest : List form.Item} {item : form.Item}
  {balances : AssocMap T.CrossAccountId ℕ} {written : State T → CollectionId →
    List form.Item → TokenId → FiniteMap Token TokenProperties → State T}

variable (hform : form.Cuttable written)

include hform

section

variable (hprepared : form.Prepared handle sender (item :: rest) s balances s₁)

include hprepared

/-- A prepared batch is prepared for its first item. -/
theorem Cuttable.prepared_head :
    ∃ prepared : AssocMap T.CrossAccountId ℕ × State T,
      form.Prepared handle sender [item] s prepared.1 prepared.2 := by
  have hreceivers : ([item].flatMap form.receivers).Sublist
      ((item :: rest).flatMap form.receivers) := by
    rw [List.flatMap_singleton, List.flatMap_cons]
    exact List.sublist_append_left _ _
  have hlength : [item].length ≤ (item :: rest).length :=
    ((List.nil_sublist rest).cons_cons item).length_le
  obtain ⟨middle, hcheck, _⟩ := bind_unit_ok.mp hprepared.nested
  obtain ⟨first, hcounted⟩ := countReceivers_of_append_left (form.receivers item)
    (rest.flatMap form.receivers) hprepared.counted
  rw [← List.flatMap_singleton form.receivers item] at hcounted
  exact ⟨(first, middle),
    { authority := mintAuthority_mono rfl hreceivers hprepared.authority
      receivers := fun owner howner => hprepared.receivers owner (hreceivers.subset howner)
      sound := (hform.sound_cons hprepared.sound).1
      width := (Nat.add_le_add_left hlength _).trans hprepared.width
      limit := hform.within_mono (Nat.add_le_add_left hlength _) hprepared.limit
      counted := hcounted
      nested := bind_unit_ok.mpr ⟨middle, hcheck, rfl⟩ }⟩

/-- After its first item is minted, a prepared batch is prepared for the rest. -/
theorem Cuttable.prepared_tail
    (hkept : ParentsKept s t) (hminted : form.minted t handle.id = form.minted s handle.id + 1)
    (hcounted : ∀ owner, (form.accountBalance t).getD (handle.id, owner) 0 =
      (form.accountBalance s).getD (handle.id, owner) 0 + (form.receivers item).count owner) :
    ∃ prepared : AssocMap T.CrossAccountId ℕ × State T,
      form.Prepared handle sender rest t prepared.1 prepared.2 := by
  have hreceivers : (rest.flatMap form.receivers).Sublist
      ((item :: rest).flatMap form.receivers) := by
    rw [List.flatMap_cons]
    exact List.sublist_append_right _ _
  obtain ⟨middle, hcheck, hchecks⟩ := bind_unit_ok.mp hprepared.nested
  obtain ⟨⟨left, hleft, rfl⟩, _⟩ := forEach_checkNesting_ok hcheck
  -- the later checks of the batch run with what the first has left of the budget
  have hmiddle : ParentsKept (s.setBudget left) t :=
    ⟨hkept.common, hkept.parents, hleft.trans hkept.budget⟩
  obtain ⟨t₁, hchecked, _⟩ := (walkNeutral_parentsKept.checks walkNeutral_parentsKept.common
    fun _ _ hcommon => hcommon).checkEachNesting.of_ok hmiddle hchecks
  obtain ⟨counters, hcounters⟩ := countReceivers_of_append_right (form.receivers item)
    (rest.flatMap form.receivers) hprepared.counted hcounted
  have hnumber : form.minted t handle.id + rest.length =
      form.minted s handle.id + (item :: rest).length := by
    rw [hminted, List.length_cons]
    omega
  exact ⟨(counters, t₁),
    { authority := mintAuthority_mono hkept.common hreceivers hprepared.authority
      receivers := fun owner howner => hprepared.receivers owner (hreceivers.subset howner)
      sound := (hform.sound_cons hprepared.sound).2
      width := hnumber ▸ hprepared.width
      limit := hnumber ▸ hprepared.limit
      counted := hcounters
      nested := by rw [hminted]; exact hchecked }⟩

end

/-- What a mint writes, item by item. -/
theorem Cuttable.storage_of_create_ok (hrun : (form.create handle sender data).run s = .ok () s') :
    ∃ tokenProperties,
      tokenProperties.get = writtenProperties handle.id (form.rule handle sender s) form.properties
        (data.zipIdx (form.minted s handle.id + 1)) (form.tokenProperties s).get ∧
      s'.storage =
        (written s handle.id data (form.minted s handle.id + 1) tokenProperties).storage := by
  obtain ⟨tokenProperties, hstorage⟩ := hform.stored hrun
  refine ⟨tokenProperties, ?_, hstorage⟩
  obtain ⟨balances, s₁, s₂, hprepared, hitems, rfl⟩ := create_ok_iff.mp hrun
  obtain ⟨⟨left, _, rfl⟩, _⟩ := checkEachNesting_ok hprepared.nested
  have hwritten := (hform.itemStep handle sender s).writtenProperties_of_loop_ok
    (CollectionMemo.new handle sender s) (show (s.setBudget left).common = s.common from rfl) hitems
  obtain rfl : form.tokenProperties s₂ = tokenProperties := by
    have hproperties := (hform.counters_congr hstorage).2.2
    rwa [hform.tokenProperties_finish, hform.tokenProperties_written] at hproperties
  rwa [(hform.reads s (s.setBudget left) rfl).2.2] at hwritten

/-- The first item can be minted alone, and then the rest. -/
theorem Cuttable.create_cons (hkept : ∀ {s₁}, (form.create handle sender [item]).run s = .ok () s₁ →
      ParentsKept s (s₁.setBudget s.budget))
    (hrun : (form.create handle sender (item :: rest)).run s = .ok () s') :
    ∃ s₁ s₂, s₁.common = s.common ∧ (form.create handle sender [item]).run s = .ok () s₁ ∧
      (form.create handle sender rest).run (s₁.setBudget s.budget) = .ok () s₂ ∧
      s₂.storage = s'.storage := by
  obtain ⟨⟨prepared, hprepared⟩, hall⟩ := (create_succeeds hform.toLawful).mp ⟨s', hrun⟩
  obtain ⟨hitem, hrest⟩ := List.forall_mem_cons.mp hall
  obtain ⟨s₁, hrun₁⟩ := (create_succeeds hform.toLawful).mpr
    ⟨hform.prepared_head hprepared, List.forall_mem_singleton.mpr hitem⟩
  obtain ⟨properties₁, hproperties₁, hstorage₁⟩ := hform.storage_of_create_ok hrun₁
  have hkept := hkept hrun₁
  have hrule : form.rule handle sender (s₁.setBudget s.budget) = form.rule handle sender s := by
    unfold rule
    rw [newTokenRule_congr hkept.common]
  obtain ⟨htokens, hbalances, hproperties⟩ :=
    hform.counters_congr (show (s₁.setBudget s.budget).storage = _ from hstorage₁)
  have hminted : form.minted (s₁.setBudget s.budget) handle.id = form.minted s handle.id + 1 :=
    (congrArg (fun tokens => tokens.getD handle.id 0) htokens).trans hform.minted_written
  have hcounted : ∀ owner, (form.accountBalance (s₁.setBudget s.budget)).getD (handle.id, owner) 0 =
      (form.accountBalance s).getD (handle.id, owner) 0 + (form.receivers item).count owner := by
    intro owner
    rw [hbalances, hform.accountBalance_written, getD_countEach, if_pos rfl, List.flatMap_singleton]
  obtain ⟨s₂, hrun₂⟩ : ∃ s₂, (form.create handle sender rest).run (s₁.setBudget s.budget) =
      .ok () s₂ := by
    refine (create_succeeds hform.toLawful).mpr
      ⟨hform.prepared_tail hprepared hkept hminted hcounted, fun other hother => ?_⟩
    rw [hform.placeable_congr hkept.common, hrule]
    exact hrest other hother
  refine ⟨s₁, s₂, hkept.common, hrun₁, hrun₂, ?_⟩
  obtain ⟨properties₂, hproperties₂, hstorage₂⟩ := hform.storage_of_create_ok hrun₂
  obtain ⟨properties₃, hproperties₃, hstorage₃⟩ := hform.storage_of_create_ok hrun
  obtain rfl : properties₂ = properties₃ := by
    refine ext_get (congrFun ?_)
    rw [hproperties₂, hproperties₃, hrule, hminted, hproperties, hform.tokenProperties_written,
      hproperties₁]
    rfl
  rw [hstorage₂, hstorage₃, hminted]
  exact hform.written_cons hstorage₁

/-- The items of a batch can be minted one by one.  An empty batch does nothing but `rewrite`,
which does nothing after a mint. -/
theorem Cuttable.replay_of_batch {call : List form.Item → Extrinsic T}
    {rewrite : CollectionId → State T → State T} (kind : CollectionHandle T → CollectionDispatch T)
    (hid : ∀ {s handle}, dispatch s collection = some (kind handle) → handle.id = collection)
    (hcall : ∀ {s data s'}, step s (call data) = some s' ↔
      ∃ handle, dispatch s collection = some (kind handle) ∧
        (form.create handle sender data).run (s.setBudget budget) = .ok () s')
    (hnil : ∀ s first, (written (s.setBudget budget) collection [] first
      (form.tokenProperties s)).storage = (rewrite collection s).storage)
    (hrewrite : ∀ {s s' data first tokenProperties},
      s'.storage = (written s collection data first tokenProperties).storage →
        (rewrite collection s').storage = s'.storage)
    (hkept : ∀ {handle s data s'}, Reachable s → dispatch s handle.id = some (kind handle) →
      (form.create handle sender data).run (s.setBudget budget) = .ok () s' →
        ParentsKept (s.setBudget budget) (s'.setBudget budget))
    (hreachable : Reachable s) (hbatch : step s (call data) = some s') (history : History T) :
    ∃ made, replay step history s (data.map fun item => call [item]) = some made ∧
      s'.storage = (rewrite collection made.2).storage ∧
      (data ≠ [] → made.2.storage = s'.storage) := by
  induction data generalizing s s' history with
  | nil =>
    obtain ⟨handle, hfound, hrun⟩ := hcall.mp hbatch
    obtain rfl := hid hfound
    obtain ⟨tokenProperties, hproperties, hstorage⟩ := hform.storage_of_create_ok hrun
    obtain rfl : tokenProperties = form.tokenProperties s := by
      rw [← (hform.reads s (s.setBudget budget) rfl).2.2]
      exact ext_get (congrFun hproperties)
    exact ⟨(history, s), rfl, hstorage.trans (hnil s _), fun hne => absurd rfl hne⟩
  | cons item rest ih =>
    obtain ⟨handle, hfound, hrun⟩ := hcall.mp hbatch
    obtain rfl := hid hfound
    obtain ⟨s₁, s₂, hcommon, hitem, hrest, hstorage⟩ := hform.create_cons
      (s := s.setBudget budget) (hkept hreachable hfound) hrun
    have hstep : step s (call [item]) = some s₁ :=
      hcall.mpr ⟨handle, hfound, hitem⟩
    have hothers : step s₁ (call rest) = some s₂ :=
      hcall.mpr ⟨handle, (dispatch_congr hcommon).trans hfound, hrest⟩
    obtain ⟨made, hmade, hsame, hnonempty⟩ :=
      ih (hreachable.step hstep) hothers (⟨s, call [item]⟩ :: history)
    refine ⟨made, by rw [List.map_cons, replay, hstep]; exact hmade, ?_, fun _ => ?_⟩
    · rw [← hstorage, hsame]
    · cases rest with
      | nil =>
        cases hmade
        obtain ⟨_, _, hwritten⟩ := hform.storage_of_create_ok hitem
        rw [← hstorage, hsame, hrewrite hwritten]
      | cons other others => rw [hnonempty (List.cons_ne_nil _ _), hstorage]

end MintForm

/-! ## Non-fungible tokens -/

namespace Nonfungible

variable {data rest : List (CreateItemData T)} {item : CreateItemData T}
  {balances : AssocMap T.CrossAccountId ℕ}

/-- A mint leaves the parents of the tokens that were there. -/
theorem parentsKept_of_create_ok (hreachable : Reachable s)
    (hfound : dispatch s handle.id = some (.nonfungible handle))
    (hrun : (mintForm.create handle sender data).run (s.setBudget budget) = .ok () s') :
    ParentsKept (s.setBudget budget) (s'.setBudget budget) := by
  have hledger := ledger_of_reachable hreachable
  rw [← createMultipleItems_eq] at hrun
  obtain ⟨_, _, _, hstorage⟩ := createMultipleItems_ok hrun
  obtain ⟨hcommon, hnonfungible, _, hrefungible, _⟩ := State.storage_eq_iff.mp hstorage
  refine ⟨hcommon, fun key hparent => ?_, Nat.le_refl _⟩
  refine findParent_congr hcommon ?_ fun account => ?_
  · show s'.nonfungible.tokenData.get key = _
    rw [hnonfungible]
    rcases get_mintedData_cases handle.id data (s.nonfungible.tokensMinted.getD handle.id 0 + 1)
      s.nonfungible.tokenData key with ⟨item, hitem, rfl, _⟩ | ⟨_, hsame⟩
    · -- a new token was not found before
      have hbound := (bounds_of_mem_numbered hitem).1
      have hnone : (s.setBudget budget).nonfungible.tokenData.get (handle.id, item.2) = none := by
        by_contra hsome
        exact absurd (hledger.numbered _ _ hsome).2 (Nat.not_le.mpr hbound)
      rw [findParent_nonfungible hfound, hnone] at hparent
      exact absurd rfl hparent
    · exact hsame
  · show s'.refungible.balance.get _ = _
    rw [hrefungible]
    rfl

/-- What a mint writes. -/
def written (s : State T) (collection : CollectionId) (data : List (CreateItemData T))
    (first : TokenId) (tokenProperties : FiniteMap Token TokenProperties) : State T :=
  s.mapNonfungible (mintedStorage s collection (data.zipIdx first)
    (countEach collection (data.map (·.owner)) s.nonfungible.accountBalance) tokenProperties)

/-- Writing the first item and then the rest is writing the batch. -/
theorem storage_written_cons
    (hstorage : t.storage = (written s collection [item] first tokenProperties').storage) :
    (written t collection rest (first + 1) tokenProperties).storage =
      (written s collection (item :: rest) first tokenProperties).storage := by
  obtain ⟨hcommon, hnonfungible, hothers⟩ := State.storage_eq_iff.mp hstorage
  refine State.storage_eq_iff.mpr ⟨hcommon, ?_, hothers⟩
  simp only [written, State.mapNonfungible, hnonfungible, mintedStorage, insert_insert,
    getD_insert, if_true, List.length_zipIdx, List.length_cons, List.length_nil,
    mintedChildren_congr hcommon]
  rw [Nat.add_assoc, Nat.add_comm 1]
  rfl

theorem mintForm_cuttable : (mintForm (T := T)).Cuttable written where
  toLawful := mintForm_lawful
  within_mono := Nat.le_trans
  sound_cons _ := ⟨⟨[], rfl, by simp⟩, [], rfl, by simp⟩
  placeable_congr := nestable_congr
  counters_congr hstorage := by
    have hnonfungible := (State.storage_eq_iff.mp hstorage).2.1
    exact ⟨congrArg (·.tokensMinted) hnonfungible, congrArg (·.accountBalance) hnonfungible,
      congrArg (·.tokenProperties) hnonfungible⟩
  stored {_ _ data _ _} hrun := by
    rw [← createMultipleItems_eq] at hrun
    obtain ⟨_, tokenProperties, _, hstorage⟩ := createMultipleItems_ok hrun
    exact ⟨tokenProperties, hstorage⟩
  minted_written := by
    simp [MintForm.minted, written, mintedStorage, State.mapNonfungible, getD_insert]
  accountBalance_written {_ _ data _ _} := by
    rw [show data.flatMap mintForm.receivers = data.map (·.owner) from List.map_eq_flatMap.symm]
    rfl
  tokenProperties_written := rfl
  written_cons := storage_written_cons

/-- Store the number of minted tokens as it is read: where none is stored this
writes a zero. -/
def rewriteMinted (collection : CollectionId) (s : State T) : State T :=
  s.mapNonfungible fun nonfungible =>
    { nonfungible with
      tokensMinted := nonfungible.tokensMinted.insert collection
        (nonfungible.tokensMinted.getD collection 0) }

theorem storage_rewriteMinted {tokenProperties : FiniteMap Token TokenProperties}
    (hstorage : s'.storage = (written s collection data first tokenProperties).storage) :
    (rewriteMinted collection s').storage = s'.storage := by
  unfold rewriteMinted
  rw [State.storage_mapNonfungible_congr hstorage, hstorage]
  simp only [written, State.mapNonfungible, mintedStorage, insert_insert, getD_insert, if_true]

/-- The call that mints a batch. -/
def mintCall (collection : CollectionId) (sender : T.CrossAccountId) (budget : ℕ)
    (data : List (CreateItemData T)) : Extrinsic T :=
  ⟨.nonfungible collection (.createMultipleItems sender data), budget⟩

theorem step_mintCall :
    step s (mintCall collection sender budget data) = some s' ↔
      ∃ handle, dispatch s collection = some (.nonfungible handle) ∧
        (mintForm.create handle sender data).run (s.setBudget budget) = .ok () s' := by
  simp only [← createMultipleItems_eq]
  exact step_eq_some.trans Call.nonfungible_ok

end Nonfungible

/-! ## Refungible tokens -/

namespace Refungible

variable {data rest : List (CreateItemData T)} {item : CreateItemData T}
  {balances : AssocMap T.CrossAccountId ℕ}

theorem itemTotals_cons {totals : List ℕ} :
    itemTotals (item :: rest) = some totals ↔
      ∃ total others, itemTotals [item] = some [total] ∧ itemTotals rest = some others ∧
        totals = total :: others := by
  simp only [itemTotals, Option.bind_eq_bind, Option.bind_eq_some_iff, Option.some.injEq]
  constructor
  · rintro ⟨total, htotal, others, hothers, rfl⟩
    exact ⟨total, others, ⟨total, htotal, [], rfl, rfl⟩, hothers, rfl⟩
  · rintro ⟨total, others, ⟨_, htotal, _, rfl, heq⟩, hothers, rfl⟩
    cases heq
    exact ⟨total, htotal, others, hothers, rfl⟩

/-- A token of which no pieces are held is not found. -/
theorem findParent_of_unheld (hfound : dispatch s handle.id = some (.refungible handle))
    (hunheld : ∀ account, s.refungible.balance.get ((handle.id, token), account) = none) :
    findParent s (handle.id, token) = .tokenNotFound := by
  have hnone : (s.refungible.balance.anyKey fun key => key.1 = (handle.id, token)) = false := by
    rw [anyKey_eq_false_iff]
    rintro ⟨_, account⟩ rfl
    exact hunheld account
  have hsole : (s.refungible.balance.soleKey fun key => key.1 = (handle.id, token)) = none := by
    rw [Option.eq_none_iff_forall_ne_some]
    intro key hkey
    obtain ⟨hheld, hkey, _⟩ := soleKey_eq_some_iff.mp hkey
    rw [anyKey_eq_false_iff.mp hnone key hkey] at hheld
    cases hheld
  have howner : tokenOwner s (handle.id, token) = .error .notFound := by
    unfold tokenOwner
    rw [hsole, hnone]
    rfl
  rw [findParent_refungible hfound, howner]

/-- A mint leaves the parents of the tokens that were there. -/
theorem parentsKept_of_create_ok (hreachable : Reachable s)
    (hfound : dispatch s handle.id = some (.refungible handle))
    (hrun : (mintForm.create handle sender data).run (s.setBudget budget) = .ok () s') :
    ParentsKept (s.setBudget budget) (s'.setBudget budget) := by
  have hledger := ledger_of_reachable hreachable
  rw [← createMultipleItems_eq] at hrun
  obtain ⟨_, _, _, hstorage⟩ := createMultipleItems_ok hrun
  obtain ⟨hcommon, hnonfungible, _, hrefungible, _⟩ := State.storage_eq_iff.mp hstorage
  refine ⟨hcommon, fun key hparent => ?_, Nat.le_refl _⟩
  refine findParent_congr hcommon ?_ fun account => ?_
  · show s'.nonfungible.tokenData.get key = _
    rw [hnonfungible]
    rfl
  · show s'.refungible.balance.get (key, account) = _
    rw [hrefungible]
    refine get_insertEach_of_forall_ne fun piece hpiece heq => hparent ?_
    -- a new token was not found before
    obtain ⟨item, hitem, hpiece⟩ := List.mem_flatMap.mp hpiece
    have hbound := (bounds_of_mem_numbered hitem).1
    rw [(Prod.mk.inj heq).1, (mem_piecesOf.mp hpiece).1]
    refine findParent_of_unheld hfound fun account => ?_
    by_contra hheld
    exact absurd (hledger.numbered _ _ (hledger.held _ hheld)).2 (Nat.not_le.mpr hbound)

/-- What a mint writes. -/
def written (s : State T) (collection : CollectionId) (data : List (CreateItemData T))
    (first : TokenId) (tokenProperties : FiniteMap Token TokenProperties) : State T :=
  writeLedger (mintedStorage collection (data.zipIdx first)
      (countEach collection (data.flatMap (·.users.keys)) s.refungible.accountBalance)
      tokenProperties)
    (givenChildren s collection (pieces (data.zipIdx first)) s.nonfungible.tokenChildren) s

/-- Writing the first item and then the rest is writing the batch. -/
theorem storage_written_cons
    (hstorage : t.storage = (written s collection [item] first tokenProperties').storage) :
    (written t collection rest (first + 1) tokenProperties).storage =
      (written s collection (item :: rest) first tokenProperties).storage := by
  obtain ⟨hcommon, hnonfungible, hfungible, hrefungible, hothers⟩ :=
    State.storage_eq_iff.mp hstorage
  have hpieces : pieces ((item :: rest).zipIdx first) =
      pieces ([item].zipIdx first) ++ pieces (rest.zipIdx (first + 1)) := by
    simp only [pieces, List.zipIdx_cons, List.zipIdx_nil, List.flatMap_cons, List.flatMap_nil,
      List.append_nil]
  refine State.storage_eq_iff.mpr ⟨hcommon, ?_, hfungible, ?_, hothers⟩
  · simp only [written, givenChildren_congr hcommon]
    simp only [writeLedger, State.setChildren, State.mapRefungible, hnonfungible, hpieces,
      givenChildren_append, written]
    rfl
  · simp only [written, writeLedger, State.setChildren, State.mapRefungible, hrefungible,
      mintedStorage, insert_insert, getD_insert, if_true, List.length_zipIdx,
      List.length_cons, List.length_nil, List.zipIdx_cons, List.flatMap_cons, List.flatMap_nil,
      List.append_nil, countEach_append, writeItems_cons]
    rw [Nat.add_assoc, Nat.add_comm 1]
    rfl

theorem mintForm_cuttable : (mintForm (T := T)).Cuttable written where
  toLawful := mintForm_lawful
  within_mono := Nat.lt_of_le_of_lt
  sound_cons := by
    rintro item rest ⟨totals, htotals, hpieces⟩
    obtain ⟨total, others, htotal, hothers, rfl⟩ := itemTotals_cons.mp htotals
    obtain ⟨hfirst, hrest⟩ := List.forall_mem_cons.mp hpieces
    exact ⟨⟨[total], htotal, List.forall_mem_singleton.mpr hfirst⟩, others, hothers, hrest⟩
  placeable_congr hcommon := placeable_congr hcommon
  counters_congr hstorage := by
    have hrefungible := (State.storage_eq_iff.mp hstorage).2.2.2.1
    exact ⟨congrArg (·.tokensMinted) hrefungible, congrArg (·.accountBalance) hrefungible,
      congrArg (·.tokenProperties) hrefungible⟩
  stored {_ _ data _ _} hrun := by
    rw [← createMultipleItems_eq] at hrun
    obtain ⟨_, tokenProperties, _, hstorage⟩ := createMultipleItems_ok hrun
    exact ⟨tokenProperties, hstorage⟩
  minted_written := by
    simp [MintForm.minted, written, mintedStorage, writeLedger, State.mapRefungible,
      State.setChildren, getD_insert]
  accountBalance_written := rfl
  tokenProperties_written := rfl
  written_cons := storage_written_cons

/-- Store the number of minted tokens as it is read: where none is stored this
writes a zero. -/
def rewriteMinted (collection : CollectionId) (s : State T) : State T :=
  s.mapRefungible fun refungible =>
    { refungible with
      tokensMinted := refungible.tokensMinted.insert collection
        (refungible.tokensMinted.getD collection 0) }

theorem storage_rewriteMinted {tokenProperties : FiniteMap Token TokenProperties}
    (hstorage : s'.storage = (written s collection data first tokenProperties).storage) :
    (rewriteMinted collection s').storage = s'.storage := by
  unfold rewriteMinted
  rw [State.storage_mapRefungible_congr hstorage, hstorage]
  simp only [written, writeLedger, State.setChildren, State.mapRefungible, mintedStorage,
    insert_insert, getD_insert, if_true]

/-- The call that mints a batch. -/
def mintCall (collection : CollectionId) (sender : T.CrossAccountId) (budget : ℕ)
    (data : List (CreateItemData T)) : Extrinsic T :=
  ⟨.refungible collection (.createMultipleItems sender data), budget⟩

theorem step_mintCall :
    step s (mintCall collection sender budget data) = some s' ↔
      ∃ handle, dispatch s collection = some (.refungible handle) ∧
        (mintForm.create handle sender data).run (s.setBudget budget) = .ok () s' := by
  simp only [← createMultipleItems_eq]
  exact step_eq_some.trans Call.refungible_ok

end Refungible

/-- **A batch and its items one by one.**  If a batch of items is minted from a
reachable state, then one mint for each item, in the same order and each with the
same budget, succeeds as well and leads to the same storage.  An empty batch stores
the number of minted tokens as it has read it, so that a zero may be stored where
nothing was. -/
theorem batch_mint_eq_single_mints (hreachable : Reachable s) (collection : CollectionId)
    (sender : T.CrossAccountId) (budget : ℕ) :
    (∀ (data : List (Nonfungible.CreateItemData T)) (s' : State T),
      step s (Nonfungible.mintCall collection sender budget data) = some s' →
        ∃ made, replay step [] s
            (data.map fun item => Nonfungible.mintCall collection sender budget [item]) =
              some made ∧
          s'.storage = (Nonfungible.rewriteMinted collection made.2).storage ∧
          (data ≠ [] → made.2.storage = s'.storage)) ∧
      ∀ (data : List (Refungible.CreateItemData T)) (s' : State T),
        step s (Refungible.mintCall collection sender budget data) = some s' →
          ∃ made, replay step [] s
              (data.map fun item => Refungible.mintCall collection sender budget [item]) =
                some made ∧
            s'.storage = (Refungible.rewriteMinted collection made.2).storage ∧
            (data ≠ [] → made.2.storage = s'.storage) :=
  ⟨fun _ _ hbatch => Nonfungible.mintForm_cuttable.replay_of_batch .nonfungible
      (fun hfound => (dispatch_eq_nonfungible.mp hfound).2.1)
      Nonfungible.step_mintCall (fun _ _ => rfl) Nonfungible.storage_rewriteMinted
      Nonfungible.parentsKept_of_create_ok hreachable hbatch [],
    fun _ _ hbatch => Refungible.mintForm_cuttable.replay_of_batch .refungible
      (fun hfound => (dispatch_eq_refungible.mp hfound).2.1)
      Refungible.step_mintCall (fun _ _ => rfl) Refungible.storage_rewriteMinted
      Refungible.parentsKept_of_create_ok hreachable hbatch []⟩

namespace BatchExample

open ReferenceAccount

/-- A token of the first collection, for the tokens of the others to be nested in. -/
def start : State reference :=
  reference.stateOf [reference.createNesting, reference.create .nft,
    reference.create .reFungible,
    ⟨.nonfungible 1 (.createMultipleItems alice [⟨alice, []⟩]), 5⟩] rfl

def tokens : List (Nonfungible.CreateItemData reference) :=
  [⟨reference.tokenToAddress (1, 1), []⟩, ⟨alice, []⟩, ⟨alice, []⟩]

def shares : List (Refungible.CreateItemData reference) :=
  [⟨⟨[(alice, 7), (reference.tokenToAddress (1, 1), 2)], by decide⟩, []⟩,
    ⟨⟨[(bob, 0)], by decide⟩, []⟩]

/-- Both batches are minted, and then their items one by one. -/
theorem batch_mint_eq_single_mints_nested :
    (∃ s' made, step start (Nonfungible.mintCall 2 alice 5 tokens) = some s' ∧
      replay step [] start (tokens.map fun item => Nonfungible.mintCall 2 alice 5 [item]) =
        some made ∧ made.2.storage = s'.storage) ∧
      ∃ s' made, step start (Refungible.mintCall 3 alice 5 shares) = some s' ∧
        replay step [] start (shares.map fun item => Refungible.mintCall 3 alice 5 [item]) =
          some made ∧ made.2.storage = s'.storage := by
  have hreachable : Reachable start := reference.reachable_stateOf _ rfl
  obtain ⟨s₁, hfirst⟩ := Option.isSome_iff_exists.mp
    (show (step start (Nonfungible.mintCall 2 alice 5 tokens)).isSome by decide)
  obtain ⟨s₂, hsecond⟩ := Option.isSome_iff_exists.mp
    (show (step start (Refungible.mintCall 3 alice 5 shares)).isSome by decide)
  obtain ⟨made₁, hmade₁, _, hsame₁⟩ :=
    (batch_mint_eq_single_mints hreachable 2 alice 5).1 tokens s₁ hfirst
  obtain ⟨made₂, hmade₂, _, hsame₂⟩ :=
    (batch_mint_eq_single_mints hreachable 3 alice 5).2 shares s₂ hsecond
  exact ⟨⟨s₁, made₁, hfirst, hmade₁, hsame₁ (by decide)⟩,
    s₂, made₂, hsecond, hmade₂, hsame₂ (by simp [shares])⟩

end BatchExample

end UniqueChain
