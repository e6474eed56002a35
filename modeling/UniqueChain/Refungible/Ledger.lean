import UniqueChain.Library.Amounts
import UniqueChain.Model.Reference
import UniqueChain.Runtime.Steps

/-!
# The ledger of refungible tokens

The supply of a refungible token is the sum of the pieces that are held of it.
`Ledger` says so, together with what else is recorded of a token: no entry of
zero pieces is stored, pieces and properties belong to existing tokens, and the
two counters of a collection give the number of its tokens.

Burning the last pieces deletes by prefix and not by subtraction, so there the
sum is what shows that nothing is left; a repartition compares two numbers, and
the sum is what makes their equality mean that one account holds everything.
-/

namespace UniqueChain.Refungible

open FiniteMap

variable {T : Config} {s s' : State T} {refungible : RefungibleStorage T}

variable {collection : CollectionId} {token : Token}
  {accountBalance : FiniteMap (CollectionId × T.CrossAccountId) ℕ}
  {item : CreateItemData T × TokenId} {tokenProperties : FiniteMap Token TokenProperties}
  {entries : List (T.CrossAccountId × ℕ)} {handle : CollectionHandle T}

/-- The supply of every token is the sum of its pieces. -/
structure Pieces (refungible : RefungibleStorage T) : Prop where
  supply : ∀ token, refungible.totalSupply.getD token 0 = refungible.balance.sumOf token
  width : ∀ token, refungible.totalSupply.getD token 0 ≤ maxRefungiblePieces
  positive : ∀ key, refungible.balance.get key ≠ some 0
  held : HeldExist refungible

/-- What is stored of a token agrees with its existence. -/
structure Ledger (refungible : RefungibleStorage T) : Prop extends Pieces refungible where
  numbered : ∀ collection token, refungible.totalSupply.get (collection, token) ≠ none →
    1 ≤ token ∧ token ≤ refungible.tokensMinted.getD collection 0
  counted : ∀ collection, refungible.tokensMinted.getD collection 0 =
    refungible.tokensBurnt.getD collection 0 +
      refungible.totalSupply.count fun key _ => key.1 = collection
  described : ∀ key, refungible.tokenProperties.get key ≠ none →
    refungible.totalSupply.get key ≠ none

/-! ## What an operation does to the ledger

The index of holders and their counters are not part of the ledger. -/

theorem debited_eq (refungible : RefungibleStorage T) (token : Token) (account : T.CrossAccountId)
    (balance : ℕ) :
    ∃ owned accountBalance, debited token account balance refungible =
      { refungible with
        balance := refungible.balance.putAmount (token, account) balance
        owned
        accountBalance } := by
  unfold debited
  simp only
  split
  · exact ⟨_, _, rfl⟩
  · exact ⟨refungible.owned, refungible.accountBalance, rfl⟩

theorem movedPieces_eq (refungible : RefungibleStorage T) (token : Token)
    (from' to' : T.CrossAccountId) (balanceFrom balanceTo amount : ℕ) :
    ∃ owned accountBalance, movedPieces token from' to' balanceFrom balanceTo amount refungible =
      { refungible with
        balance := (refungible.balance.putAmount (token, from') (balanceFrom - amount)).insert
          (token, to') (balanceTo + amount)
        owned
        accountBalance } := by
  obtain ⟨owned, accountBalance, hdebited⟩ :=
    debited_eq refungible token from' (balanceFrom - amount)
  unfold movedPieces
  rw [hdebited]
  simp only
  split
  · exact ⟨_, _, rfl⟩
  · exact ⟨owned, accountBalance, rfl⟩

namespace Ledger

variable {token : Token} {account from' to' : T.CrossAccountId} {amount : ℕ}

theorem empty : Ledger (RefungibleStorage.empty : RefungibleStorage T) where
  supply _ := by simp [RefungibleStorage.empty, FiniteMap.getD]
  width _ := by simp [RefungibleStorage.empty, FiniteMap.getD]
  positive _ := by simp [RefungibleStorage.empty]
  held _ hget := absurd rfl hget
  numbered _ _ hget := absurd rfl hget
  counted _ := by simp [RefungibleStorage.empty, FiniteMap.getD, FiniteMap.count]
  described _ hget := absurd rfl hget

section

variable (hledger : Ledger refungible)

include hledger

theorem setHolders {owned : FiniteMap (CollectionId × T.CrossAccountId × TokenId) Bool} :
    Ledger { refungible with owned, accountBalance } :=
  ⟨⟨hledger.supply, hledger.width, hledger.positive, hledger.held⟩, hledger.numbered,
    hledger.counted, hledger.described⟩

theorem setAllowances {allowance : FiniteMap (Token × T.CrossAccountId × T.CrossAccountId) ℕ}
    {collectionAllowance : FiniteMap (CollectionId × T.CrossAccountId × T.CrossAccountId) Bool} :
    Ledger { refungible with allowance, collectionAllowance } :=
  ⟨⟨hledger.supply, hledger.width, hledger.positive, hledger.held⟩, hledger.numbered,
    hledger.counted, hledger.described⟩

theorem setProperties (hdescribed : ∀ key, tokenProperties.get key ≠ none →
      refungible.totalSupply.get key ≠ none) : Ledger { refungible with tokenProperties } :=
  ⟨⟨hledger.supply, hledger.width, hledger.positive, hledger.held⟩, hledger.numbered,
    hledger.counted, hdescribed⟩

section

variable (hholds : refungible.balance.getD (token, account) 0 ≠ 0)

include hholds

/-- A token of which pieces are held exists. -/
theorem exists_of_balance : ∃ supply, refungible.totalSupply.get token = some supply := by
  have hget := get_of_getD_ne hholds
  exact Option.ne_none_iff_exists'.mp (hledger.held (token, account) (by simp [hget]))

/-! ## Pieces change hands -/

omit hholds in
theorem moved (hne : from' ≠ to') (hamount : amount ≠ 0)
    (hcovered : amount ≤ refungible.balance.getD (token, from') 0) :
    Ledger { refungible with
      balance := (refungible.balance.putAmount (token, from')
          (refungible.balance.getD (token, from') 0 - amount)).insert (token, to')
        (refungible.balance.getD (token, to') 0 + amount) } := by
  have hholds : refungible.balance.getD (token, from') 0 ≠ 0 := by omega
  obtain ⟨supply, hsupply⟩ := hledger.exists_of_balance hholds
  refine ⟨⟨fun other => ?_, hledger.width, fun key => ?_, fun key hkey => ?_⟩, hledger.numbered,
    hledger.counted, hledger.described⟩
  · have hbefore := hledger.supply other
    have hdebit := refungible.balance.sumOf_putAmount (token, from')
      (refungible.balance.getD (token, from') 0 - amount) other
    have hcredit := (refungible.balance.putAmount (token, from')
      (refungible.balance.getD (token, from') 0 - amount)).sumOf_insert (token, to')
      (refungible.balance.getD (token, to') 0 + amount) other
    grind
  · have hbefore := hledger.positive key
    grind
  · have hbefore := hledger.held key
    grind

/-! ## Pieces are burnt -/

/-- Some pieces of a token are burnt, and others are left. -/
theorem burntSome (hcovered : amount ≤ refungible.balance.getD (token, account) 0) :
    Ledger { refungible with
      balance := refungible.balance.putAmount (token, account)
        (refungible.balance.getD (token, account) 0 - amount)
      totalSupply := refungible.totalSupply.insert token
        (refungible.totalSupply.getD token 0 - amount) } := by
  obtain ⟨supply, hsupply⟩ := hledger.exists_of_balance hholds
  refine ⟨⟨fun other => ?_, fun other => ?_, fun key => ?_, fun key hkey => ?_⟩,
    fun other number hget => ?_, fun other => ?_, fun key hkey => ?_⟩
  · have hbefore := hledger.supply other
    have hdebit := refungible.balance.sumOf_putAmount (token, account)
      (refungible.balance.getD (token, account) 0 - amount) other
    grind
  · have hbefore := hledger.width other
    grind
  · have hbefore := hledger.positive key
    grind
  · have hbefore := hledger.held key
    grind
  · have hbefore := hledger.numbered other number
    grind
  · have hbefore := hledger.counted other
    have hcount := count_insert (refungible.totalSupply.getD token 0 - amount)
      (p := fun key _ => key.1 = other) hsupply
    grind
  · have hbefore := hledger.described key
    grind

/-- All pieces of a token are burnt. -/
theorem burntAll : Ledger (burntToken token account refungible) := by
  obtain ⟨supply, hsupply⟩ := hledger.exists_of_balance hholds
  unfold burntToken dropHolder
  refine ⟨⟨fun other => ?_, fun other => ?_, fun key => ?_, fun key hkey => ?_⟩,
    fun other number hget => ?_, fun other => ?_, fun key hkey => ?_⟩
  · have hbefore := hledger.supply other
    have hafter := refungible.balance.sumOf_eraseWhere (· = token) other
    simp only
    grind
  · have hbefore := hledger.width other
    simp only
    grind
  · have hbefore := hledger.positive key
    simp only
    grind
  · have hbefore := hledger.held key
    simp only at hkey ⊢
    grind
  · have hbefore := hledger.numbered other number
    simp only at hget ⊢
    grind
  · have hbefore := hledger.counted other
    have hcount := count_erase (p := fun key _ => key.1 = other) hsupply
    simp only
    grind
  · have hbefore := hledger.described key
    simp only at hkey ⊢
    grind

end

/-! ## Pieces are counted anew -/

/-- The test of a repartition: the account holds everything. -/
theorem supply_of_repartition (hall : (refungible.totalSupply.get token).getD u128Max =
      refungible.balance.getD (token, account) 0) :
    ∃ supply, refungible.totalSupply.get token = some supply ∧
      refungible.balance.getD (token, account) 0 = supply ∧
      refungible.balance.sumOf token = supply := by
  have hsupply := hledger.supply token
  cases hget : refungible.totalSupply.get token with
  | none =>
    -- The default of the test is more than any account can hold.
    have hle := refungible.balance.getD_le_sumOf token account
    rw [hget, Option.getD_none] at hall
    rw [getD_of_get_none hget] at hsupply
    have hpos : 0 < u128Max := by decide
    omega
  | some supply =>
    rw [hget, Option.getD_some] at hall
    rw [getD_of_get hget] at hsupply
    exact ⟨supply, rfl, hall.symm, hsupply.symm⟩

theorem repartitioned (hmax : amount ≤ maxRefungiblePieces)
    (hpos : 0 < amount) (hall : (refungible.totalSupply.get token).getD u128Max =
      refungible.balance.getD (token, account) 0) :
    Ledger { refungible with
      balance := refungible.balance.insert (token, account) amount
      totalSupply := refungible.totalSupply.insert token amount } := by
  obtain ⟨supply, hsupply, hbalance, hsum⟩ := hledger.supply_of_repartition hall
  refine ⟨⟨fun other => ?_, fun other => ?_, fun key => ?_, fun key hkey => ?_⟩,
    fun other number hget => ?_, fun other => ?_, fun key hkey => ?_⟩
  · have hbefore := hledger.supply other
    have hwrite := refungible.balance.sumOf_insert (token, account) amount other
    grind
  · have hbefore := hledger.width other
    grind
  · have hbefore := hledger.positive key
    grind
  · have hbefore := hledger.held key
    grind
  · have hbefore := hledger.numbered other number
    grind
  · have hbefore := hledger.counted other
    have hcount := count_insert amount (p := fun key _ => key.1 = other) hsupply
    grind
  · have hbefore := hledger.described key
    grind

end

end Ledger

/-! ## Tokens are minted -/

theorem mem_piecesOf {token : TokenId} {piece : Piece T} :
    piece ∈ piecesOf token entries ↔
      piece.token = token ∧ piece.amount ≠ 0 ∧ (piece.account, piece.amount) ∈ entries := by
  obtain ⟨number, account, amount⟩ := piece
  simp only [piecesOf, List.mem_map, List.mem_filter, decide_eq_true_eq]
  constructor
  · rintro ⟨⟨user, given⟩, ⟨hmem, hpos⟩, heq⟩
    cases heq
    exact ⟨rfl, hpos, hmem⟩
  · rintro ⟨rfl, hpos, hmem⟩
    exact ⟨(account, amount), ⟨hmem, hpos⟩, rfl⟩

/-- The amounts of zero that are left out add nothing. -/
theorem sum_piecesOf {token : TokenId} :
    ((piecesOf token entries).map (·.amount)).sum = (entries.map Prod.snd).sum := by
  induction entries with
  | nil => rfl
  | cons entry rest ih =>
    rw [piecesOf_cons, List.map_append, List.sum_append, ih, List.map_cons, List.sum_cons]
    by_cases hzero : entry.2 = 0
    · simp [piecesOf, hzero]
    · simp [piecesOf, hzero]

theorem nodup_piecesOf (collection : CollectionId) (token : TokenId)
    (users : AssocMap T.CrossAccountId ℕ) :
    ((piecesOf token users.entries).map fun piece =>
      (((collection, piece.token) : Token), piece.account)).Nodup := by
  have haccounts : ((users.entries.filter fun entry => entry.2 ≠ 0).map Prod.fst).Nodup :=
    users.nodup_keys.sublist ((List.filter_sublist).map _)
  have hkeys := haccounts.map (Prod.mk_right_injective ((collection, token) : Token))
  rw [List.map_map] at hkeys
  rwa [piecesOf, List.map_map]

namespace Pieces

section

variable (hpieces : Pieces refungible)

include hpieces

/-- Nobody holds pieces of a token that does not exist. -/
theorem getD_eq_zero (hnew : refungible.totalSupply.get token = none) (account : T.CrossAccountId) :
    refungible.balance.getD (token, account) 0 = 0 := by
  have hle := refungible.balance.getD_le_sumOf token account
  have hsupply := hpieces.supply token
  rw [getD_of_get_none hnew] at hsupply
  omega

theorem sumOf_writeItem
    (hnew : refungible.totalSupply.get (collection, item.2) = none) (token : Token) :
    (writeItem collection item refungible).balance.sumOf token =
      refungible.balance.sumOf token +
        if token = (collection, item.2) then item.1.users.values.sum else 0 := by
  have hsum := refungible.balance.sumOf_insertEach (·.amount)
    (nodup_piecesOf collection item.2 item.1.users) token
  have hold : ((piecesOf item.2 item.1.users.entries).map fun piece =>
      if (collection, piece.token) = token then
        refungible.balance.getD ((collection, piece.token), piece.account) 0 else 0).sum = 0 := by
    rw [List.sum_eq_zero_iff]
    intro amount hamount
    obtain ⟨piece, hpiece, rfl⟩ := List.mem_map.mp hamount
    rw [(mem_piecesOf.mp hpiece).1, hpieces.getD_eq_zero hnew, ite_self]
  have hgiven : ((piecesOf item.2 item.1.users.entries).map fun piece =>
      if (collection, piece.token) = token then piece.amount else 0) =
      (piecesOf item.2 item.1.users.entries).map fun piece =>
        if token = (collection, item.2) then piece.amount else 0 := by
    refine List.map_congr_left fun piece hpiece => ?_
    rw [(mem_piecesOf.mp hpiece).1]
    exact if_congr eq_comm rfl rfl
  rw [hold, hgiven, Nat.add_zero] at hsum
  refine hsum.trans ?_
  by_cases htoken : token = (collection, item.2)
  · simp only [if_pos htoken]
    rw [sum_piecesOf]
    rfl
  · simp [if_neg htoken]

/-- One numbered item is written as a token that did not exist. -/
theorem writeItem (hnew : refungible.totalSupply.get (collection, item.2) = none)
    (hwidth : item.1.users.values.sum ≤ maxRefungiblePieces) :
    Pieces (Refungible.writeItem collection item refungible) := by
  refine ⟨fun token => ?_, fun token => ?_, fun key => ?_, fun key hkey => ?_⟩
  · have hbefore := hpieces.supply token
    have habsent : refungible.totalSupply.getD (collection, item.2) 0 = 0 :=
      getD_of_get_none hnew
    rw [hpieces.sumOf_writeItem hnew]
    simp only [Refungible.writeItem, givePieces]
    grind
  · have hbefore := hpieces.width token
    simp only [Refungible.writeItem, givePieces]
    grind
  · simp only [Refungible.writeItem, givePieces]
    rcases get_insertEach_cases _ _ (nodup_piecesOf collection item.2 item.1.users) key with
      ⟨piece, hpiece, _, hget⟩ | ⟨_, hget⟩
    · rw [hget]
      exact fun hzero => (mem_piecesOf.mp hpiece).2.1 (Option.some.inj hzero)
    · rw [hget]
      exact hpieces.positive key
  · simp only [Refungible.writeItem, givePieces] at hkey ⊢
    rcases get_insertEach_ne_none.mp hkey with ⟨piece, hpiece, rfl⟩ | hold
    · rw [(mem_piecesOf.mp hpiece).1, get_insert_self]
      simp
    · have hbefore := hpieces.held key hold
      grind

/-- The numbered items are written one after the other. -/
theorem writeItems {items : List (CreateItemData T × TokenId)}
    (hnodup : (items.map fun item => ((collection, item.2) : Token)).Nodup)
    (hnew : ∀ item ∈ items, refungible.totalSupply.get (collection, item.2) = none)
    (hwidth : ∀ item ∈ items, item.1.users.values.sum ≤ maxRefungiblePieces) :
    Pieces (Refungible.writeItems collection items refungible) := by
  induction items generalizing refungible with
  | nil => exact hpieces
  | cons item rest ih =>
    rw [List.map_cons, List.nodup_cons] at hnodup
    rw [List.forall_mem_cons] at hnew hwidth
    rw [writeItems_cons]
    refine ih (hpieces.writeItem hnew.1 hwidth.1) hnodup.2 (fun other hother => ?_) hwidth.2
    have hne : ((collection, other.2) : Token) ≠ (collection, item.2) := fun heq =>
      hnodup.1 (heq ▸ List.mem_map_of_mem hother)
    simp only [Refungible.writeItem, givePieces]
    rw [get_insert_of_ne _ _ hne]
    exact hnew.2 other hother

end

end Pieces

namespace Ledger

/-- The numbers of new tokens are not in use. -/
theorem totalSupply_of_new (hledger : Ledger refungible) {data : List (CreateItemData T)}
    (hitem : item ∈ data.zipIdx (refungible.tokensMinted.getD collection 0 + 1)) :
    refungible.totalSupply.get (collection, item.2) = none := by
  by_contra hold
  have hbound := (bounds_of_mem_numbered hitem).1
  exact Nat.not_succ_le_self _
    (Nat.le_trans hbound (hledger.numbered collection item.2 hold).2)

theorem minted (hledger : Ledger refungible) {data : List (CreateItemData T)}
    (hwidth : ∀ item ∈ data, item.users.values.sum ≤ maxRefungiblePieces)
    (hkept : ∀ key, (∀ item ∈ data.zipIdx (refungible.tokensMinted.getD collection 0 + 1),
        key ≠ (collection, item.2)) →
      tokenProperties.get key = refungible.tokenProperties.get key) :
    Ledger (mintedStorage collection
      (data.zipIdx (refungible.tokensMinted.getD collection 0 + 1)) accountBalance
      tokenProperties refungible) := by
  set items := data.zipIdx (refungible.tokensMinted.getD collection 0 + 1) with hitems
  have hnodup : (items.map fun item => ((collection, item.2) : Token)).Nodup :=
    nodup_numbered collection data _
  have hbounds : ∀ item ∈ items, refungible.tokensMinted.getD collection 0 + 1 ≤ item.2 ∧
      item.2 ≤ refungible.tokensMinted.getD collection 0 + items.length := by
    intro item hitem
    rw [hitems, List.length_zipIdx]
    exact bounds_of_mem_numbered hitem
  have hnew : ∀ item ∈ items, refungible.totalSupply.get (collection, item.2) = none :=
    fun item hitem => hledger.totalSupply_of_new hitem
  have hpieces := hledger.toPieces.writeItems hnodup hnew fun item hitem =>
    hwidth item.1 (List.fst_mem_of_mem_zipIdx hitem)
  have hsupply : ∀ key, (∃ item ∈ items, key = (collection, item.2) ∧
      (Refungible.writeItems collection items refungible).totalSupply.get key =
        some item.1.users.values.sum) ∨
      (∀ item ∈ items, key ≠ (collection, item.2)) ∧
        (Refungible.writeItems collection items refungible).totalSupply.get key =
          refungible.totalSupply.get key := get_insertEach_cases _ _ hnodup
  refine ⟨⟨hpieces.supply, hpieces.width, hpieces.positive, hpieces.held⟩,
    fun other number hget => ?_, fun other => ?_, fun key hkey => ?_⟩
  · rcases hsupply (other, number) with ⟨item, hitem, hkey, _⟩ | ⟨_, hold⟩
    · obtain ⟨rfl, rfl⟩ := Prod.mk.inj hkey
      have hbound := hbounds item hitem
      simp only [mintedStorage]
      rw [getD_insert, if_pos rfl]
      exact ⟨Nat.le_trans (Nat.le_add_left 1 _) hbound.1, hbound.2⟩
    · simp only [mintedStorage] at hget ⊢
      rw [hold] at hget
      have hbefore := hledger.numbered other number hget
      grind
  · have hbefore := hledger.counted other
    have hcount : ((Refungible.writeItems collection items refungible).totalSupply.count
        fun key _ => key.1 = other) = (refungible.totalSupply.count fun key _ => key.1 = other) +
          items.countP fun item => decide (((collection, item.2) : Token).1 = other) :=
      count_insertEach hnodup hnew
    have hnumber := countP_numbered_collection items collection other
    have hburnt : (Refungible.writeItems collection items refungible).tokensBurnt =
        refungible.tokensBurnt := rfl
    simp only [mintedStorage, hburnt]
    rw [hcount, hnumber]
    grind
  · simp only [mintedStorage] at hkey ⊢
    rcases hsupply key with ⟨item, _, _, hget⟩ | ⟨hother, hget⟩
    · simp [hget]
    · rw [hget]
      rw [hkept key hother] at hkey
      exact hledger.described key hkey

/-! ## An empty collection is destroyed -/

theorem cleared (hledger : Ledger refungible)
    (hempty : ∀ key, key.1 = collection → refungible.totalSupply.get key = none) :
    Ledger (clearCollection collection refungible) := by
  have hsupply : refungible.totalSupply.eraseWhere (fun key => key.1 = collection) =
      refungible.totalSupply := eraseWhere_eq_self hempty
  unfold clearCollection
  rw [hsupply]
  refine ⟨⟨fun token => ?_, hledger.width, fun key => ?_, fun key hkey => ?_⟩,
    fun other number hget => ?_, fun other => ?_, hledger.described⟩
  · have hbefore := hledger.supply token
    have habsent : token.1 = collection → refungible.totalSupply.getD token 0 = 0 := fun htoken =>
      getD_of_get_none (hempty token htoken)
    have hafter := refungible.balance.sumOf_eraseWhere (fun token => token.1 = collection) token
    simp only
    grind
  · have hbefore := hledger.positive key
    simp only
    grind
  · have hbefore := hledger.held key
    simp only at hkey ⊢
    grind
  · have hbefore := hledger.numbered other number hget
    have habsent := hempty (other, number)
    simp only at hget ⊢
    grind
  · have hbefore := hledger.counted other
    have hnone : other = collection →
      (refungible.totalSupply.count fun key _ => key.1 = other) = 0 :=
      fun hother => count_eq_zero fun key _ hget hkey => by
        simp [hempty key (hkey.trans hother)] at hget
    simp only
    grind

end Ledger

/-! ## Steps and runs -/

section

variable (hledger : Ledger s.refungible)

include hledger

theorem Ledger.transferredState
    {from' to' : T.CrossAccountId} {amount : ℕ} (hcovered : amount ≤ balanceOf s token from') :
    Ledger (Refungible.transferredState token from' to' amount s).refungible := by
  unfold Refungible.transferredState
  split
  · rename_i hmoves
    obtain ⟨owned, accountBalance, hmoved⟩ := movedPieces_eq s.refungible token from' to'
      (balanceOf s token from') (balanceOf s token to') amount
    simp only [writeLedger, State.setChildren, State.mapRefungible, hmoved]
    exact (hledger.moved hmoves.1 hmoves.2 hcovered).setHolders
  · exact hledger

theorem Ledger.burntState
    {owner : T.CrossAccountId} {amount : ℕ} (hchecks : BurnChecks token owner amount s) :
    Ledger (Refungible.burntState token owner amount s).refungible := by
  unfold Refungible.burntState
  simp only
  split
  · exact hledger.burntAll hchecks.holds
  · obtain ⟨owned, accountBalance, hdebited⟩ :=
      debited_eq s.refungible token owner (balanceOf s token owner - amount)
    simp only [writeLedger, State.setChildren, State.mapRefungible, hdebited]
    exact (hledger.burntSome hchecks.holds hchecks.covered).setHolders

theorem Step.ledger {call : RefungibleCall T} (hstep : Step handle s call s') :
    Ledger s'.refungible := by
  cases hstep with
  | createMultipleItems hchecks hkept => exact hledger.minted (pieces_of_sound hchecks.sound) hkept
  | transfer hchecks => exact hledger.transferredState hchecks.covered
  | transferFrom hallowed haccess hchecks =>
    exact (hledger.transferredState hchecks.covered).setAllowances
  | burn hchecks => exact hledger.burntState hchecks
  | burnFrom hallowed haccess hchecks hself => exact (hledger.burntState hchecks).setAllowances
  | repartition hmax hpos hall => exact hledger.repartitioned hmax hpos hall
  | modifyTokenProperties hkept happly =>
    rename_i sender token updates tokenProperties
    refine hledger.setProperties fun key hkey => ?_
    obtain ⟨final, haccepted, rfl⟩ := happly hledger.held
    split at hkey
    · exact hledger.described key hkey
    · rename_i hupdates
      by_cases htoken : key = (handle.id, token)
      · have hexists := WriterFacts.tokenExists_of_apply hupdates haccepted
        rw [htoken]
        exact Option.isSome_iff_ne_none.mp hexists
      · rw [get_insert_of_ne _ _ htoken] at hkey
        exact hledger.described key hkey
  | _ => exact hledger.setAllowances

theorem StorageStep.ledger {call : Call T}
    (hstep : StorageStep s call refungible) : Ledger refungible := by
  cases hstep with
  | operation hcall hfound hstep => exact hstep.ledger hledger
  | cleared hempty => exact hledger.cleared (anyKey_eq_false_iff.mp hempty)
  | unchanged => exact hledger

end

theorem ledger_of_reachable (hreachable : Reachable s) : Ledger s.refungible :=
  hreachable.invariant (OfStorage.refungible Ledger) (fun _ => .empty)
    fun _ _ _ hledger hstep => hstep.pallets.refungible.ledger hledger

/-! ## The number of minted tokens -/

/-- The number of minted tokens changes by a mint only. -/
theorem Step.tokensMinted_cases {operation : RefungibleCall T}
    (hstep : Step handle s operation s') :
    s'.refungible.tokensMinted = s.refungible.tokensMinted ∨
      ∃ sender data, operation = .createMultipleItems sender data ∧
        mintForm.MintChecks handle sender data s ∧
        s'.refungible.tokensMinted = s.refungible.tokensMinted.insert handle.id
          (s.refungible.tokensMinted.getD handle.id 0 + data.length) := by
  have htransferred : ∀ {token : Token} {from' to' : T.CrossAccountId} {amount : ℕ},
      (transferredState token from' to' amount s).refungible.tokensMinted =
        s.refungible.tokensMinted := by
    intro token from' to' amount
    unfold transferredState
    split
    · obtain ⟨owned, accountBalance, hmoved⟩ := movedPieces_eq s.refungible token from' to'
        (balanceOf s token from') (balanceOf s token to') amount
      simp only [writeLedger, State.setChildren, State.mapRefungible, hmoved]
    · rfl
  have hburnt : ∀ {token : Token} {owner : T.CrossAccountId} {amount : ℕ},
      (burntState token owner amount s).refungible.tokensMinted = s.refungible.tokensMinted := by
    intro token owner amount
    unfold burntState
    simp only
    split
    · rfl
    · obtain ⟨owned, accountBalance, hdebited⟩ :=
        debited_eq s.refungible token owner (balanceOf s token owner - amount)
      simp only [writeLedger, State.setChildren, State.mapRefungible, hdebited]
  cases hstep with
  | createMultipleItems hchecks hkept =>
    refine .inr ⟨_, _, rfl, hchecks, ?_⟩
    simp only [writeLedger, State.setChildren, State.mapRefungible, mintedStorage,
      List.length_zipIdx]
  | transfer hchecks => exact .inl htransferred
  | transferFrom hallowed haccess hchecks => exact .inl htransferred
  | burn hchecks => exact .inl hburnt
  | burnFrom hallowed haccess hchecks => exact .inl hburnt
  | _ => exact .inl rfl

/-- The number of minted tokens fits into 32 bits. -/
def MintedWidth (refungible : RefungibleStorage T) : Prop :=
  ∀ collection, refungible.tokensMinted.getD collection 0 ≤ u32Max

theorem StorageStep.mintedWidth {call : Call T} (hwidth : MintedWidth s.refungible)
    (hstep : StorageStep s call refungible) : MintedWidth refungible := by
  intro collection
  have hbefore := hwidth collection
  cases hstep with
  | operation hcall hfound hstep =>
    rcases hstep.tokensMinted_cases with hsame | ⟨sender, data, _, hchecks, hminted⟩
    · rwa [hsame]
    · have hnew := hchecks.width
      rw [hminted, getD_insert]
      split
      · exact hnew
      · exact hbefore
  | cleared hempty =>
    simp only [clearCollection]
    grind
  | unchanged => exact hbefore

theorem mintedWidth_of_reachable (hreachable : Reachable s) : MintedWidth s.refungible :=
  hreachable.invariant (OfStorage.refungible MintedWidth) (fun _ _ => Nat.zero_le _)
    fun _ _ _ hwidth hstep => hstep.pallets.refungible.mintedWidth hwidth

/-- A token that exists has not been counted as burnt. -/
theorem tokensBurnt_lt (hledger : Ledger refungible) (hwidth : MintedWidth refungible)
    {supply : ℕ} (hexists : refungible.totalSupply.get token = some supply) :
    refungible.tokensBurnt.getD token.1 0 < u32Max := by
  have hcounted := hledger.counted token.1
  have hminted := hwidth token.1
  have hone : 1 ≤ refungible.totalSupply.count fun key _ => key.1 = token.1 :=
    one_le_count hexists rfl
  omega

/-- In every reachable state the supply of a refungible token is the sum of its
pieces and within the limit, no account is recorded with zero pieces, and the
counters of a collection give the number of its tokens, which are numbered from
one on. -/
theorem pieces_conserved (hreachable : Reachable s) (collection : CollectionId) (token : TokenId) :
    s.refungible.totalSupply.getD (collection, token) 0 =
        s.refungible.balance.sumOf (collection, token) ∧
      s.refungible.totalSupply.getD (collection, token) 0 ≤ maxRefungiblePieces ∧
      (∀ account, s.refungible.balance.get ((collection, token), account) ≠ some 0) ∧
      totalSupply s collection =
        some (s.refungible.totalSupply.count fun key _ => key.1 = collection) ∧
      (s.refungible.totalSupply.get (collection, token) ≠ none →
        1 ≤ token ∧ token ≤ s.refungible.tokensMinted.getD collection 0) := by
  have hledger := ledger_of_reachable hreachable
  have hcounted := hledger.counted collection
  refine ⟨hledger.supply _, hledger.width _, fun account => hledger.positive _, ?_,
    hledger.numbered collection token⟩
  exact checkedSub_eq_some.mpr ⟨by omega, by omega⟩

/-- Two tokens are minted, one of them with an amount of zero; pieces are moved,
burnt and counted anew. -/
def exampleRun : List (Extrinsic reference) :=
  [reference.create .reFungible,
    ⟨.refungible 1 (.createMultipleItems .alice
      [⟨⟨[(.alice, 7), (.bob, 5), (.carol, 0)], by decide⟩, []⟩,
        ⟨⟨[(.bob, 1)], by decide⟩, []⟩]), 5⟩,
    ⟨.refungible 1 (.transfer .alice .carol 1 3), 5⟩,
    ⟨.refungible 1 (.burn .bob 1 5), 5⟩,
    ⟨.refungible 1 (.repartition .bob 2 100), 5⟩]

theorem pieces_conserved_exampleRun :
    (reference.stateOf exampleRun rfl).refungible.totalSupply.getD (1, 1) 0 = 7 ∧
      (reference.stateOf exampleRun rfl).refungible.balance.sumOf (1, 1) = 7 ∧
      ((reference.stateOf exampleRun rfl).refungible.totalSupply.count
        fun key _ => key.1 = 1) = 2 := by
  have hledger := pieces_conserved (reference.reachable_stateOf exampleRun rfl) 1 1
  exact ⟨rfl, hledger.1.symm, Option.some.inj hledger.2.2.2.1.symm⟩

end UniqueChain.Refungible
