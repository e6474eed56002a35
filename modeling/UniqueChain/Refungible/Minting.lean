import UniqueChain.Minting.Form
import UniqueChain.Refungible.Effects

/-!
# What a mint of refungible tokens does

The items of a mint are numbered from the first new token on, and every account
that an item gives a positive amount receives its pieces.  Accounts with the
amount zero receive nothing, but they are counted.
-/

namespace UniqueChain.Refungible

open Execution CollectionDispatch

variable {T : Config} {s s' : State T} {handle : CollectionHandle T} {token : TokenId}

variable {collection : CollectionId} {sender : T.CrossAccountId} {data : List (CreateItemData T)}
  {info : PropertyWriterLazyCollectionInfo T} {refungible : RefungibleStorage T}
  {item : CreateItemData T}

/-- The pieces of a numbered token that an account receives. -/
structure Piece (T : Config) where
  token : TokenId
  account : T.CrossAccountId
  amount : ℕ

/-- What the entries of one item give, as the token `token`. -/
def piecesOf (token : TokenId) (entries : List (T.CrossAccountId × ℕ)) : List (Piece T) :=
  (entries.filter fun entry => entry.2 ≠ 0).map fun entry => ⟨token, entry.1, entry.2⟩

/-- What all items give. -/
def pieces (items : List (CreateItemData T × TokenId)) : List (Piece T) :=
  items.flatMap fun item => piecesOf item.2 item.1.users.entries

/-- The ledger after the pieces are given out. -/
def givePieces (collection : CollectionId) (given : List (Piece T))
    (refungible : RefungibleStorage T) : RefungibleStorage T :=
  { refungible with
    balance := refungible.balance.insertEach given
      (fun piece => ((collection, piece.token), piece.account)) (·.amount)
    owned := refungible.owned.insertEach given
      (fun piece => (collection, piece.account, piece.token)) fun _ => true }

/-- The index after it. -/
def givenChildren (s : State T) (collection : CollectionId) (given : List (Piece T))
    (children : Children) : Children :=
  given.foldl (fun children piece =>
    addChild (nestingParent s piece.account) (collection, piece.token) children) children

theorem givenChildren_congr (hcommon : s'.common = s.common) {given : List (Piece T)} :
    givenChildren s' collection given = givenChildren s collection given := by
  funext children
  unfold givenChildren
  simp only [nestingParent_congr hcommon]

theorem itemTotals_eq_some {totals : List ℕ} (htotals : itemTotals data = some totals) :
    totals = data.map fun item => item.users.values.sum := by
  induction data generalizing totals with
  | nil =>
    simp only [itemTotals, Option.some.injEq] at htotals
    exact htotals.symm
  | cons item rest ih =>
    simp only [itemTotals, Option.bind_eq_bind, Option.bind_eq_some_iff,
      Option.some.injEq] at htotals
    obtain ⟨total, htotal, others, hothers, rfl⟩ := htotals
    rw [ih hothers, checkedSum_eq_some htotal, Nat.zero_add]
    rfl

/-- Every user that receives pieces can be nested under. -/
def Placeable (s : State T) (entries : List (T.CrossAccountId × ℕ)) : Prop :=
  ∀ entry ∈ entries, entry.2 ≠ 0 → Nestable s entry.1

/-- The same item without properties. -/
def CreateItemData.withoutProperties (item : CreateItemData T) : CreateItemData T :=
  { item with properties := [] }

/-- An item is given to the users it lists. -/
abbrev mintForm : MintForm T where
  Item := CreateItemData T
  receivers item := item.users.keys
  properties := CreateItemData.properties
  withoutProperties := CreateItemData.withoutProperties
  toSender sender item := mintTargetIsSender sender item.users
  Placeable s item := Placeable s item.users.entries
  totals := itemTotals
  Within count limit := count < limit
  decidableWithin _ _ := inferInstance
  tokensMinted s := s.refungible.tokensMinted
  accountBalance s := s.refungible.accountBalance
  tokenProperties s := s.refungible.tokenProperties
  mintItem handle sender token item info :=
    mintItem handle sender token item item.users.values.sum info
  finish collection token data count balances s :=
    mintAllLogs collection token data (mintCounters collection count balances s)

/-- No item has too many pieces. -/
theorem pieces_of_sound (hsound : mintForm.Sound data) :
    ∀ item ∈ data, item.users.values.sum ≤ maxRefungiblePieces := by
  obtain ⟨totals, htotals, hpieces⟩ := hsound
  obtain rfl := itemTotals_eq_some htotals
  simpa using hpieces

theorem mintCheckNesting_eq :
    mintCheckNesting handle sender token data =
      checkEachNesting mintForm.receivers handle.id sender token data := by
  induction data generalizing token with
  | nil => rfl
  | cons item rest ih =>
    unfold mintCheckNesting checkEachNesting
    rw [ih]

theorem mintItems_eq_mintLoop :
    mintItems handle sender token (data.zip (data.map fun item => item.users.values.sum)) info =
      mintLoop (mintForm.mintItem handle sender) token data info := by
  induction data generalizing token info with
  | nil => rfl
  | cons item rest ih =>
    rw [List.map_cons, List.zip_cons_cons]
    unfold mintItems mintLoop
    simp only [ih]

theorem createMultipleItems_eq (data : List (CreateItemData T)) :
    createMultipleItems handle sender data = mintForm.create handle sender data := by
  refine bind_congr fun _ => bind_congr fun _ => okOr_bind_congr fun totals htotals => ?_
  obtain rfl := itemTotals_eq_some htotals
  simp only [mintCheckNesting_eq, mintItems_eq_mintLoop]
  rfl

theorem mintPieces_ok {entry : T.CrossAccountId × ℕ}
    (hrun : (mintPieces collection token entry).run s = .ok () s') :
    s' = writeLedger (givePieces collection (piecesOf token [entry]))
      (givenChildren s collection (piecesOf token [entry]) s.nonfungible.tokenChildren) s := by
  unfold piecesOf
  rcases ite_ok.mp hrun with ⟨hzero, hrun⟩ | ⟨hpos, hrun⟩
  · obtain ⟨_, rfl⟩ := pure_ok.mp hrun
    simp [hzero, writeLedger, givePieces, givenChildren, State.setChildren, State.mapRefungible]
  · simp only [update_bind_ok] at hrun
    rw [nestIfSentToTokenUnchecked_ok hrun]
    simp only [ne_eq, decide_not, hpos, decide_false, Bool.not_false, List.filter_cons_of_pos,
      List.filter_nil, List.map_cons, List.map_nil]
    rfl

theorem piecesOf_cons (entry : T.CrossAccountId × ℕ) (rest : List (T.CrossAccountId × ℕ)) :
    piecesOf token (entry :: rest) = piecesOf token [entry] ++ piecesOf token rest := by
  unfold piecesOf
  rw [← List.map_append, ← List.filter_append]
  rfl

theorem givePieces_append {first second : List (Piece T)} :
    givePieces collection (first ++ second) refungible =
      givePieces collection second (givePieces collection first refungible) := by
  unfold givePieces
  simp only [FiniteMap.insertEach_append]

theorem givenChildren_append {first second : List (Piece T)} {children : Children} :
    givenChildren s collection (first ++ second) children =
      givenChildren s collection second (givenChildren s collection first children) :=
  List.foldl_append

theorem forEach_mintPieces_ok {entries : List (T.CrossAccountId × ℕ)}
    (hrun : (forEach (mintPieces collection token) entries).run s = .ok () s') :
    s' = writeLedger (givePieces collection (piecesOf token entries))
      (givenChildren s collection (piecesOf token entries) s.nonfungible.tokenChildren) s := by
  induction entries generalizing s with
  | nil => exact (forEach_nil_ok.mp hrun).symm
  | cons entry rest ih =>
    obtain ⟨s₁, hentry, hrest⟩ := forEach_cons_ok.mp hrun
    obtain rfl := mintPieces_ok hentry
    rw [ih hrest, piecesOf_cons entry rest, givenChildren_append]
    simp only [writeLedger, State.mapRefungible, givePieces_append]
    rfl

/-- The ledger after one numbered item is written. -/
def writeItem (collection : CollectionId) (item : CreateItemData T × TokenId)
    (refungible : RefungibleStorage T) : RefungibleStorage T :=
  givePieces collection (piecesOf item.2 item.1.users.entries)
    { refungible with
      totalSupply := refungible.totalSupply.insert (collection, item.2)
        item.1.users.values.sum }

theorem mintItem_ok {info info' : PropertyWriterLazyCollectionInfo T}
    (hinfo : QuietCollectionInfo State.storage info)
    (hrun : (mintItem handle sender token item item.users.values.sum info).run s = .ok info' s') :
    QuietCollectionInfo State.storage info' ∧ ∃ tokenProperties,
      (∀ key ≠ (handle.id, token),
        tokenProperties.get key = s.refungible.tokenProperties.get key) ∧
      s'.storage = (writeLedger
        (fun refungible => { writeItem handle.id (item, token) refungible with tokenProperties })
        (givenChildren s handle.id (piecesOf token item.users.entries)
          s.nonfungible.tokenChildren) s).storage := by
  obtain ⟨s₁, hpieces, hrun⟩ := bind_unit_ok.mp (update_bind_ok.mp hrun)
  have hs₁ := forEach_mintPieces_ok hpieces
  obtain ⟨⟨s₂, hstorage, hwritten⟩, hinfo'⟩ := writeNewTokenProperties_ok hinfo hrun
  refine ⟨hinfo', ?_⟩
  rcases hwritten with rfl | ⟨properties, rfl⟩
  · refine ⟨s.refungible.tokenProperties, fun _ _ => rfl, ?_⟩
    rw [hstorage, hs₁]
    rfl
  · refine ⟨s.refungible.tokenProperties.insert (handle.id, token) properties,
      fun key hkey => FiniteMap.get_insert_of_ne _ _ hkey, ?_⟩
    unfold setTokenPropertiesRaw
    rw [State.storage_mapRefungible_congr hstorage, hs₁]
    rfl

/-- The ledger after all numbered items are written. -/
def writeItems (collection : CollectionId) (items : List (CreateItemData T × TokenId))
    (refungible : RefungibleStorage T) : RefungibleStorage T :=
  givePieces collection (pieces items)
    { refungible with
      totalSupply := refungible.totalSupply.insertEach items
        (fun item => (collection, item.2)) fun item => item.1.users.values.sum }

theorem writeItems_cons {item : CreateItemData T × TokenId}
    {rest : List (CreateItemData T × TokenId)} :
    writeItems collection (item :: rest) refungible =
      writeItems collection rest (writeItem collection item refungible) := by
  unfold writeItems writeItem pieces
  rw [List.flatMap_cons, givePieces_append]
  rfl

theorem mintItems_ok (hinfo : QuietCollectionInfo State.storage info)
    (hrun : (mintLoop (mintForm.mintItem handle sender) token data info).run s = .ok () s') :
    ∃ tokenProperties,
      (∀ key, (∀ item ∈ data.zipIdx token, key ≠ (handle.id, item.2)) →
        tokenProperties.get key = s.refungible.tokenProperties.get key) ∧
      s'.storage = (writeLedger
        (fun refungible =>
          { writeItems handle.id (data.zipIdx token) refungible with tokenProperties })
        (givenChildren s handle.id (pieces (data.zipIdx token)) s.nonfungible.tokenChildren)
          s).storage := by
  induction data generalizing token s info with
  | nil =>
    obtain ⟨_, rfl⟩ := pure_ok.mp hrun
    exact ⟨s.refungible.tokenProperties, fun _ _ => rfl, rfl⟩
  | cons head rest ih =>
    obtain ⟨info₁, s₁, hitem, hrun⟩ := bind_ok.mp hrun
    obtain ⟨hinfo₁, firstProperties, hfirst, hstorage⟩ := mintItem_ok hinfo hitem
    obtain ⟨tokenProperties, hkept, hrest⟩ := ih hinfo₁ hrun
    obtain ⟨hcommon, hnonfungible, _, hrefungible, _⟩ := State.storage_eq_iff.mp hstorage
    refine ⟨tokenProperties, fun key hkey => ?_, ?_⟩
    · rw [List.zipIdx_cons, List.forall_mem_cons] at hkey
      rw [hkept key hkey.2, hrefungible]
      exact hfirst key hkey.1
    · rw [hrest, storage_writeLedger_congr hstorage, givenChildren_congr hcommon, hnonfungible]
      simp only [List.zipIdx_cons, writeItems_cons, pieces, List.flatMap_cons,
        givenChildren_append, writeLedger, State.mapRefungible]
      rfl

theorem storage_mintLogs : (mintLogs collection token item s).storage = s.storage := by
  have hloop : ∀ (entries : List (T.CrossAccountId × ℕ)) (s : State T),
      (entries.foldl (fun s entry =>
        (s.depositLog (evmTokenToAddress collection token)
          (.erc20Transfer 0 (T.asEth entry.1) entry.2)).depositEvent
          (.itemCreated collection token entry.1 entry.2)) s).storage = s.storage := by
    intro entries
    induction entries with
    | nil => exact fun _ => rfl
    | cons entry rest ih => exact fun s => ih _
  unfold mintLogs
  simp only
  rw [hloop]
  split <;> rfl

theorem storage_mintAllLogs : (mintAllLogs collection token data s).storage = s.storage := by
  induction data generalizing token s with
  | nil => rfl
  | cons item rest ih =>
    unfold mintAllLogs
    rw [ih, storage_mintLogs]

/-- The ledger after a mint of the numbered items. -/
def mintedStorage (collection : CollectionId) (items : List (CreateItemData T × TokenId))
    (accountBalance : FiniteMap (CollectionId × T.CrossAccountId) ℕ)
    (tokenProperties : FiniteMap Token TokenProperties) (refungible : RefungibleStorage T) :
    RefungibleStorage T :=
  { writeItems collection items refungible with
    tokensMinted := refungible.tokensMinted.insert collection
      (refungible.tokensMinted.getD collection 0 + items.length)
    accountBalance
    tokenProperties }

theorem createMultipleItems_ok (hrun : (createMultipleItems handle sender data).run s = .ok () s') :
    mintForm.MintChecks handle sender data s ∧ ∃ tokenProperties,
      (∀ key, (∀ item ∈ data.zipIdx (s.refungible.tokensMinted.getD handle.id 0 + 1),
          key ≠ (handle.id, item.2)) →
        tokenProperties.get key = s.refungible.tokenProperties.get key) ∧
      s'.storage = (writeLedger (mintedStorage handle.id
          (data.zipIdx (s.refungible.tokensMinted.getD handle.id 0 + 1))
          (countEach handle.id (data.flatMap (·.users.keys)) s.refungible.accountBalance)
          tokenProperties)
        (givenChildren s handle.id
          (pieces (data.zipIdx (s.refungible.tokensMinted.getD handle.id 0 + 1)))
          s.nonfungible.tokenChildren) s).storage := by
  rw [createMultipleItems_eq] at hrun
  obtain ⟨balances, s₁, s₂, hprepared, hitems, rfl⟩ := MintForm.create_ok_iff.mp hrun
  obtain ⟨⟨left, _, rfl⟩, hmay⟩ := checkEachNesting_ok hprepared.nested
  obtain ⟨tokenProperties, hkept, hstorage⟩ :=
    mintItems_ok (writerAnalysis_preserves.newCollectionInfo handle sender) hitems
  refine ⟨⟨hprepared.toAdmitted, hmay⟩, tokenProperties, hkept, ?_⟩
  have hcounters : storeCounters handle.id balances s.refungible.accountBalance =
      countEach handle.id (data.flatMap (·.users.keys)) s.refungible.accountBalance :=
    storeCounters_of_countReceivers_ok hprepared.counted
  rw [storage_mintAllLogs]
  unfold mintCounters
  rw [State.storage_mapRefungible_congr hstorage]
  simp only [writeLedger, State.mapRefungible, mintedStorage, List.length_zipIdx, ← hcounters]
  rfl

end UniqueChain.Refungible
