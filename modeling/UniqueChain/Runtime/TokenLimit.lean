import UniqueChain.Properties.NewTokens
import UniqueChain.Refungible.Ledger

/-!
# The limit of tokens in a collection

Both pallets compare the number of tokens after a mint with the limit of the
collection.  A mint of NFTs is refused if the number is above the limit, a mint
of refungible tokens already if it reaches the limit, so the last token the limit
leaves room for cannot be minted.  `next_token_id` makes the first comparison in
both pallets.

A batch is otherwise valid if it could be minted under another limit.  What a
mint does before and after the comparison does not depend on the limit, hence an
otherwise valid batch is minted exactly if it passes the comparison.
-/

namespace UniqueChain

open Execution CollectionDispatch

variable {T : Config} {s s' : State T} {handle : CollectionHandle T}

/-- The same collection with another limit of tokens. -/
def CollectionHandle.withTokenLimit (handle : CollectionHandle T) (limit : ℕ) :
    CollectionHandle T :=
  { handle with
    collection := { handle.collection with
      limits := { handle.collection.limits with tokenLimit? := some limit } } }

/-- The call is refused because of the limit of tokens. -/
def RefusedForLimit (mint : Exec T Unit) (s : State T) : Prop :=
  ∃ reached, mint.run s = .error (CommonError.collectionTokenLimitExceeded : Failure) reached

/-- Under some limit the batch could be minted. -/
def MintForm.OtherwiseValid (form : MintForm T) (handle : CollectionHandle T)
    (sender : T.CrossAccountId) (data : List form.Item) (s : State T) : Prop :=
  ∃ limit s', (form.create (handle.withTokenLimit limit) sender data).run s = .ok () s'

namespace MintForm.OtherwiseValid

variable {form : MintForm T} {sender : T.CrossAccountId} {data : List form.Item}
  (hvalid : form.OtherwiseValid handle sender data s)

include hvalid

theorem width : form.minted s handle.id + data.length ≤ u32Max := by
  obtain ⟨limit, s', hminted⟩ := hvalid
  obtain ⟨_, _, _, hprepared, _⟩ := create_ok_iff.mp hminted
  exact hprepared.width

/-- An otherwise valid batch that passes the comparison is minted. -/
theorem create (hform : form.Lawful) (hlimit : form.Within (form.minted s handle.id + data.length)
    handle.collection.limits.tokenLimit) :
    ∃ s', (form.create handle sender data).run s = .ok () s' := by
  obtain ⟨limit, hminted⟩ := hvalid
  obtain ⟨⟨prepared, hprepared⟩, hitems⟩ := (create_succeeds hform).mp hminted
  refine (create_succeeds hform).mpr ⟨⟨prepared, ?_⟩, hitems⟩
  -- nothing but the comparison looks at the limit of tokens
  exact ⟨⟨hprepared.authority, hprepared.receivers, hprepared.sound, hprepared.width, hlimit⟩,
    hprepared.counted, hprepared.nested⟩

theorem refusedForLimit_iff (hform : form.Lawful) :
    RefusedForLimit (form.create handle sender data) s ↔
      ¬ form.Within (form.minted s handle.id + data.length)
        handle.collection.limits.tokenLimit := by
  constructor
  · rintro ⟨reached, hrefused⟩ hlimit
    obtain ⟨s', hrun⟩ := hvalid.create hform hlimit
    rw [hrun] at hrefused
    cases hrefused
  · intro hlimit
    obtain ⟨limit, s', hminted⟩ := hvalid
    obtain ⟨_, _, _, hprepared, _⟩ := create_ok_iff.mp hminted
    obtain ⟨totals, htotals, hpieces⟩ := hprepared.sound
    have hauthority : (handle.checkMintAuthority sender (data.flatMap form.receivers)).run s =
        .ok () s := CollectionHandle.checkMintAuthority_ok.mpr ⟨hprepared.authority, rfl⟩
    have hreceivers : (forEach ensureCorrectReceiver (data.flatMap form.receivers)).run s =
        .ok () s := forEach_ensureCorrectReceiver_ok.mpr ⟨hprepared.receivers, rfl⟩
    have hsums : (okOr (form.totals data) (DispatchError.overflow : Failure) :
        Exec T (List ℕ)).run s = .ok totals s := okOr_ok.mpr ⟨htotals, rfl⟩
    have hwidth : (okOr (checkedAdd u32Max (form.minted s handle.id) data.length)
        (DispatchError.overflow : Failure) : Exec T ℕ).run s = .ok _ s :=
      okOr_ok.mpr ⟨checkedAdd_eq_some.mpr ⟨hprepared.width, rfl⟩, rfl⟩
    refine ⟨s, ?_⟩
    unfold MintForm.create
    rw [run_bind_of_ok hauthority, run_bind_of_ok hreceivers, run_bind_of_ok hsums,
      run_bind_of_ok (a := ()) (ensure_ok.mpr ⟨hpieces, rfl⟩),
      run_bind_of_ok (read_ok.mpr ⟨rfl, rfl⟩), run_bind_of_ok hwidth]
    exact ensure_bind_error.mpr (.inl ⟨hlimit, rfl, rfl⟩)

end MintForm.OtherwiseValid

namespace Nonfungible

variable {sender : T.CrossAccountId} {data : List (CreateItemData T)}

/-- Under some limit the batch could be minted. -/
def OtherwiseValid (handle : CollectionHandle T) (sender : T.CrossAccountId)
    (data : List (CreateItemData T)) (s : State T) : Prop :=
  ∃ limit s', (createMultipleItems (handle.withTokenLimit limit) sender data).run s = .ok () s'

section

variable (hvalid : OtherwiseValid handle sender data s)

include hvalid

theorem OtherwiseValid.form : mintForm.OtherwiseValid handle sender data s := by
  obtain ⟨limit, s', hrun⟩ := hvalid
  exact ⟨limit, s', createMultipleItems_eq data ▸ hrun⟩

/-- Within the limit an otherwise valid batch is minted. -/
theorem createMultipleItems_of_otherwiseValid
    (hlimit : s.nonfungible.tokensMinted.getD handle.id 0 + data.length ≤
      handle.collection.limits.tokenLimit) :
    ∃ s', (createMultipleItems handle sender data).run s = .ok () s' := by
  rw [createMultipleItems_eq]
  exact hvalid.form.create mintForm_lawful hlimit

theorem refusedForLimit_iff :
    RefusedForLimit (createMultipleItems handle sender data) s ↔
      handle.collection.limits.tokenLimit <
        s.nonfungible.tokensMinted.getD handle.id 0 + data.length := by
  rw [createMultipleItems_eq, hvalid.form.refusedForLimit_iff mintForm_lawful]
  exact Nat.not_le

theorem nextTokenId_eq_ok_iff (hsingle : data.length = 1) :
    nextTokenId s handle = .ok (s.nonfungible.tokensMinted.getD handle.id 0 + 1) ↔
      s.nonfungible.tokensMinted.getD handle.id 0 + 1 ≤ handle.collection.limits.tokenLimit := by
  have hwidth : s.nonfungible.tokensMinted.getD handle.id 0 + 1 ≤ u32Max :=
    hsingle ▸ hvalid.form.width
  unfold nextTokenId
  rw [checkedAdd_eq_some.mpr ⟨hwidth, rfl⟩]
  simp

end

end Nonfungible

namespace Refungible

variable {sender : T.CrossAccountId} {data : List (CreateItemData T)}

/-- Under some limit the batch could be minted. -/
def OtherwiseValid (handle : CollectionHandle T) (sender : T.CrossAccountId)
    (data : List (CreateItemData T)) (s : State T) : Prop :=
  ∃ limit s', (createMultipleItems (handle.withTokenLimit limit) sender data).run s = .ok () s'

section

variable (hvalid : OtherwiseValid handle sender data s)

include hvalid

theorem OtherwiseValid.form : mintForm.OtherwiseValid handle sender data s := by
  obtain ⟨limit, s', hrun⟩ := hvalid
  exact ⟨limit, s', createMultipleItems_eq data ▸ hrun⟩

/-- Below the limit an otherwise valid batch is minted. -/
theorem createMultipleItems_of_otherwiseValid
    (hlimit : s.refungible.tokensMinted.getD handle.id 0 + data.length <
      handle.collection.limits.tokenLimit) :
    ∃ s', (createMultipleItems handle sender data).run s = .ok () s' := by
  rw [createMultipleItems_eq]
  exact hvalid.form.create mintForm_lawful hlimit

/-- A mint that reaches the limit is refused, other than for NFTs. -/
theorem refusedForLimit_iff :
    RefusedForLimit (createMultipleItems handle sender data) s ↔
      handle.collection.limits.tokenLimit ≤
        s.refungible.tokensMinted.getD handle.id 0 + data.length := by
  rw [createMultipleItems_eq, hvalid.form.refusedForLimit_iff mintForm_lawful]
  exact Nat.not_lt

theorem nextTokenId_eq_ok_iff (hsingle : data.length = 1) :
    nextTokenId s handle = .ok (s.refungible.tokensMinted.getD handle.id 0 + 1) ↔
      s.refungible.tokensMinted.getD handle.id 0 + 1 ≤ handle.collection.limits.tokenLimit := by
  have hwidth : s.refungible.tokensMinted.getD handle.id 0 + 1 ≤ u32Max :=
    hsingle ▸ hvalid.form.width
  unfold nextTokenId
  rw [checkedAdd_eq_some.mpr ⟨hwidth, rfl⟩]
  simp

end

end Refungible

/-! ## Runs under a limit -/

/-- The collection has no limit above `limit`. -/
def LimitedTo (limit : ℕ) (collection : CollectionId) (s : State T) : Prop :=
  ∀ data, s.common.collectionById.get collection = some data → data.limits.tokenLimit ≤ limit

instance (limit : ℕ) (collection : CollectionId) : Decidable (LimitedTo limit collection s) :=
  FiniteMap.decidableForallGet ..

/-- The tokens of either kind that were ever minted into the collection are at
most `limit`. -/
def MintedWithin (limit : ℕ) (collection : CollectionId) (s : State T) : Prop :=
  s.nonfungible.tokensMinted.getD collection 0 ≤ limit ∧
    s.refungible.tokensMinted.getD collection 0 ≤ limit

section Runs

variable {limit : ℕ} {collection : CollectionId}

theorem Nonfungible.Step.mintedWithin {operation : NonfungibleCall T}
    {nonfungible : NonfungibleStorage T} (hlimited : LimitedTo limit collection s)
    (hfound : dispatch s handle.id = some (.nonfungible handle))
    (hwithin : s.nonfungible.tokensMinted.getD collection 0 ≤ limit)
    (hstep : Nonfungible.Step handle s operation nonfungible) :
    nonfungible.tokensMinted.getD collection 0 ≤ limit := by
  cases hstep with
  | createMultipleItems hchecks hkept =>
    have hlimit : s.nonfungible.tokensMinted.getD handle.id 0 + _ ≤ _ := hchecks.limit
    have hbound := hlimited handle.collection
    obtain ⟨_, _, hstored, _⟩ := dispatch_eq_nonfungible.mp hfound
    simp only [Nonfungible.mintedStorage, List.length_zipIdx]
    grind
  | modifyTokenProperties happly =>
    split
    · exact hwithin
    · exact hwithin
  | _ => exact hwithin

open Refungible in
theorem Refungible.Step.mintedWithin {operation : RefungibleCall T}
    (hlimited : LimitedTo limit collection s)
    (hfound : dispatch s handle.id = some (.refungible handle))
    (hwithin : s.refungible.tokensMinted.getD collection 0 ≤ limit)
    (hstep : Refungible.Step handle s operation s') :
    s'.refungible.tokensMinted.getD collection 0 ≤ limit := by
  rcases hstep.tokensMinted_cases with hsame | ⟨sender, data, _, hchecks, hminted⟩
  · rwa [hsame]
  · have hlimit : s.refungible.tokensMinted.getD handle.id 0 + _ < _ := hchecks.limit
    have hbound := hlimited handle.collection
    obtain ⟨_, _, hstored, _⟩ := dispatch_eq_refungible.mp hfound
    rw [hminted]
    grind

theorem ChainStep.mintedWithin {call : Call T} (hlimited : LimitedTo limit collection s)
    (hwithin : MintedWithin limit collection s) (hstep : ChainStep s call s') :
    MintedWithin limit collection s' := by
  constructor
  · have hstorage := hstep.pallets.nonfungible
    generalize s'.nonfungible = nonfungible at hstorage ⊢
    cases hstorage with
    | operation hcall hfound hoperation =>
      exact hoperation.mintedWithin hlimited hfound hwithin.1
    | cleared hempty =>
      have hbefore := hwithin.1
      simp only [Nonfungible.clearCollection]
      grind
    | children => exact hwithin.1
  · have hstorage := hstep.pallets.refungible
    generalize s'.refungible = refungible at hstorage ⊢
    cases hstorage with
    | operation hcall hfound hoperation =>
      exact hoperation.mintedWithin hlimited hfound hwithin.2
    | cleared hempty =>
      have hbefore := hwithin.2
      simp only [Refungible.clearCollection]
      grind
    | unchanged => exact hwithin.2

theorem mintedWithin_of_run {balances : T.Balances} {history : History T}
    (hrun : Reaches balances history s)
    (hlimited : ∀ event ∈ history, LimitedTo limit collection event.state) :
    MintedWithin limit collection s := by
  refine hrun.invariant (fun s _ => LimitedTo limit collection s) ?_ ⟨Nat.zero_le _, Nat.zero_le _⟩
    (fun s extrinsic _ hwithin hlimited hstep => ?_) hlimited
  · intro s s' hstorage hwithin
    obtain ⟨_, hnonfungible, _, hrefungible, _⟩ := State.storage_eq_iff.mp hstorage
    unfold MintedWithin
    rwa [hnonfungible, hrefungible]
  · exact ChainStep.mintedWithin (s := s.setBudget extrinsic.budget) hlimited hwithin hstep

end Runs

/-! ## The limit is exact -/

/-- The limit decides about a mint after which the collection counts `count`
tokens: above the limit it is refused for this reason, and otherwise it is made. -/
structure DecidedByLimit (mint : Exec T Unit) (tokensMinted : State T → ℕ) (count limit : ℕ)
    (s : State T) : Prop where
  refused_iff : RefusedForLimit mint s ↔ limit < count
  minted : count ≤ limit → ∃ s', mint.run s = .ok () s' ∧ tokensMinted s' = count

theorem Nonfungible.decidedByLimit {sender : T.CrossAccountId} {data : List (CreateItemData T)}
    (hvalid : OtherwiseValid handle sender data s) :
    DecidedByLimit (createMultipleItems handle sender data)
      (fun s => s.nonfungible.tokensMinted.getD handle.id 0)
      (s.nonfungible.tokensMinted.getD handle.id 0 + data.length)
      handle.collection.limits.tokenLimit s := by
  refine ⟨refusedForLimit_iff hvalid, fun hcount => ?_⟩
  obtain ⟨s', hrun⟩ := createMultipleItems_of_otherwiseValid hvalid hcount
  obtain ⟨_, _, _, hstorage⟩ := createMultipleItems_ok hrun
  refine ⟨s', hrun, ?_⟩
  rw [(State.storage_eq_iff.mp hstorage).2.1]
  simp only [State.mapNonfungible, mintedStorage, List.length_zipIdx,
    FiniteMap.getD_insert, if_true]

/-- It decides about refungible tokens if the batch does not end exactly at the
limit. -/
theorem Refungible.decidedByLimit_iff {sender : T.CrossAccountId} {data : List (CreateItemData T)}
    (hvalid : OtherwiseValid handle sender data s) :
    DecidedByLimit (createMultipleItems handle sender data)
        (fun s => s.refungible.tokensMinted.getD handle.id 0)
        (s.refungible.tokensMinted.getD handle.id 0 + data.length)
        handle.collection.limits.tokenLimit s ↔
      s.refungible.tokensMinted.getD handle.id 0 + data.length ≠
        handle.collection.limits.tokenLimit := by
  have hrefused := refusedForLimit_iff hvalid
  constructor
  · intro hdecided hcount
    have hlt := hdecided.refused_iff.mp (hrefused.mpr (Nat.le_of_eq hcount.symm))
    omega
  · intro hcount
    refine ⟨hrefused.trans (by omega), fun hle => ?_⟩
    obtain ⟨s', hrun⟩ :=
      createMultipleItems_of_otherwiseValid hvalid (Nat.lt_of_le_of_ne hle hcount)
    obtain ⟨_, _, _, hstorage⟩ := createMultipleItems_ok hrun
    refine ⟨s', hrun, ?_⟩
    rw [(State.storage_eq_iff.mp hstorage).2.2.2.1]
    simp only [writeLedger, State.setChildren, State.mapRefungible, mintedStorage,
      List.length_zipIdx, FiniteMap.getD_insert, if_true]

/-- The limit of a collection decides about every otherwise valid batch of NFTs;
about such a batch of refungible tokens it decides exactly if the batch does not
end at the limit.  The next token is announced exactly if one more item would be
minted, with the same exception, and no run under a limit mints more tokens than
it allows. -/
theorem token_limit_exact (limit : ℕ) :
    (∀ (s : State T) (handle : CollectionHandle T) (sender : T.CrossAccountId),
      handle.collection.limits.tokenLimit = limit →
      (∀ data, Nonfungible.OtherwiseValid handle sender data s →
        DecidedByLimit (Nonfungible.createMultipleItems handle sender data)
          (fun s => s.nonfungible.tokensMinted.getD handle.id 0)
          (s.nonfungible.tokensMinted.getD handle.id 0 + data.length) limit s) ∧
      (∀ item, Nonfungible.OtherwiseValid handle sender [item] s →
        (Nonfungible.nextTokenId s handle =
            .ok (s.nonfungible.tokensMinted.getD handle.id 0 + 1) ↔
          ¬ RefusedForLimit (Nonfungible.createMultipleItems handle sender [item]) s)) ∧
      (∀ data, Refungible.OtherwiseValid handle sender data s →
        (DecidedByLimit (Refungible.createMultipleItems handle sender data)
            (fun s => s.refungible.tokensMinted.getD handle.id 0)
            (s.refungible.tokensMinted.getD handle.id 0 + data.length) limit s ↔
          s.refungible.tokensMinted.getD handle.id 0 + data.length ≠ limit)) ∧
      ∀ item, Refungible.OtherwiseValid handle sender [item] s →
        ((Refungible.nextTokenId s handle =
              .ok (s.refungible.tokensMinted.getD handle.id 0 + 1) ↔
            ¬ RefusedForLimit (Refungible.createMultipleItems handle sender [item]) s) ↔
          s.refungible.tokensMinted.getD handle.id 0 + 1 ≠ limit)) ∧
    ∀ (s : State T) balances history collection, Reaches balances history s →
      (∀ event ∈ history, LimitedTo limit collection event.state) →
      MintedWithin limit collection s := by
  refine ⟨fun s handle sender hlimit => ?_, fun s balances history collection hrun hlimited =>
    mintedWithin_of_run hrun hlimited⟩
  subst hlimit
  refine ⟨fun data hvalid => Nonfungible.decidedByLimit hvalid, fun item hvalid => ?_,
    fun data hvalid => Refungible.decidedByLimit_iff hvalid, fun item hvalid => ?_⟩
  · rw [Nonfungible.nextTokenId_eq_ok_iff hvalid rfl, Nonfungible.refusedForLimit_iff hvalid,
      Nat.not_lt]
    rfl
  · -- the announcement allows the limit itself, the mint does not
    rw [Refungible.nextTokenId_eq_ok_iff hvalid rfl, Refungible.refusedForLimit_iff hvalid,
      Nat.not_le, List.length_singleton]
    omega

namespace TokenLimitExample

/-- The creation of a collection with room for one token. -/
def create (mode : CollectionMode) : Extrinsic reference :=
  ⟨.createCollection ReferenceAccount.alice (.user ReferenceAccount.alice)
    { mode, limits := some { tokenLimit? := some 1 } }, 5⟩

def exampleRun : List (Extrinsic reference) := [create .nft, create .reFungible]

def exampleState : State reference := reference.stateOf exampleRun rfl

def nftHandle : CollectionHandle reference := reference.handleOf exampleState 1 rfl

def refungibleHandle : CollectionHandle reference := reference.handleOf exampleState 2 rfl

/-- One item of five pieces. -/
def refungibleItem : Refungible.CreateItemData reference :=
  ⟨AssocMap.empty.insert ReferenceAccount.alice 5, []⟩

theorem token_limit_exact_example :
    (∃ s', (Nonfungible.createMultipleItems nftHandle ReferenceAccount.alice
        [⟨ReferenceAccount.alice, []⟩]).run exampleState = .ok () s' ∧
      s'.nonfungible.tokensMinted.getD 1 0 = 1) ∧
    RefusedForLimit (Refungible.createMultipleItems refungibleHandle ReferenceAccount.alice
      [refungibleItem, refungibleItem]) exampleState ∧
    MintedWithin 1 2 exampleState := by
  obtain ⟨hdecides, hruns⟩ := token_limit_exact (T := reference) 1
  have hnft := (hdecides exampleState nftHandle ReferenceAccount.alice rfl).1
    [⟨ReferenceAccount.alice, []⟩] ⟨1, _, rfl⟩
  have hrefungible := ((hdecides exampleState refungibleHandle ReferenceAccount.alice rfl).2.2.1
    [refungibleItem, refungibleItem] ⟨3, _, rfl⟩).mpr (by decide)
  exact ⟨hnft.minted (by decide), hrefungible.refused_iff.mpr (by decide),
    hruns exampleState _ _ 2 (run_replay _ _ exampleRun rfl) (by decide)⟩

/-- The last token the limit leaves room for is announced, but cannot be minted. -/
theorem refungible_refused_at_limit :
    Reachable exampleState ∧
      dispatch exampleState 2 = some (.refungible refungibleHandle) ∧
      exampleState.refungible.tokensMinted.getD 2 0 + 1 ≤
        refungibleHandle.collection.limits.tokenLimit ∧
      Refungible.OtherwiseValid refungibleHandle ReferenceAccount.alice [refungibleItem]
        exampleState ∧
      RefusedForLimit
        (Refungible.createMultipleItems refungibleHandle ReferenceAccount.alice [refungibleItem])
        exampleState ∧
      Refungible.nextTokenId exampleState refungibleHandle = .ok 1 :=
  ⟨reference.reachable_stateOf exampleRun rfl, rfl, Nat.le_refl 1, ⟨2, _, rfl⟩, ⟨_, rfl⟩, rfl⟩

end TokenLimitExample

end UniqueChain
