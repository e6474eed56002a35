import UniqueChain.Refungible.Errors
import UniqueChain.Refungible.Holders

/-!
# The index of holders

`Owned` and `AccountBalance` repeat what `Balance` says: the first lists the tokens
an account holds pieces of, the second counts them.  They are written apart from
the balances, with two gaps.  A mint counts every account that it lists, also with
the amount zero, and a repartition writes the balance only, which is enough as long
as the account held pieces before.

## Strategy

`HolderIndex excess` allows for the first gap: every counter is the number of
tokens held plus an excess.  An operation keeps the excess, and a mint adds to it
the amounts of zero it lists.  The second gap is left out by the condition
`RepartitionsOwnPieces`.
-/

namespace UniqueChain.Refungible

open Execution FiniteMap

variable {T : Config} {s s' : State T} {refungible : RefungibleStorage T} {token : Token}
  {account from' to' : T.CrossAccountId} {amount : ℕ}

variable {call : Call T} {collection : CollectionId}

/-- The number of tokens of a collection that an account holds pieces of. -/
def tokensHeld (refungible : RefungibleStorage T) (collection : CollectionId)
    (account : T.CrossAccountId) : ℕ :=
  refungible.balance.count fun key _ => key.1.1 = collection ∧ key.2 = account

/-- Every holder is listed, and the counters exceed the number of tokens held by
`excess`. -/
structure HolderIndex (excess : CollectionId → T.CrossAccountId → ℕ)
    (refungible : RefungibleStorage T) : Prop where
  listed : ∀ collection account token,
    refungible.balance.get ((collection, token), account) ≠ none →
      refungible.owned.get (collection, account, token) = some true
  counted : ∀ collection account, refungible.accountBalance.getD (collection, account) 0 =
    tokensHeld refungible collection account + excess collection account

namespace HolderIndex

variable {excess : CollectionId → T.CrossAccountId → ℕ}

theorem empty : HolderIndex (fun _ _ => 0) (RefungibleStorage.empty : RefungibleStorage T) where
  listed _ _ _ hget := absurd rfl hget
  counted _ _ := by simp [RefungibleStorage.empty, FiniteMap.getD, tokensHeld, FiniteMap.count]

/-! ## Pieces change hands -/

section

variable (hindex : HolderIndex excess refungible)

include hindex

theorem removed {held : ℕ} (hheld : refungible.balance.get (token, account) = some held) :
    HolderIndex excess (dropHolder token account
      { refungible with balance := refungible.balance.erase (token, account) }) := by
  refine ⟨fun collection holder number hget => ?_, fun collection holder => ?_⟩
  · have hbefore := hindex.listed collection holder number
    simp only [dropHolder] at hget ⊢
    grind
  · have hbefore := hindex.counted collection holder
    have hcount := count_erase (p := fun key _ => key.1.1 = collection ∧ key.2 = holder) hheld
    simp only [dropHolder, tokensHeld] at hbefore ⊢
    grind

theorem kept {held : ℕ} (hheld : refungible.balance.get (token, account) = some held) :
    HolderIndex excess
      { refungible with balance := refungible.balance.insert (token, account) amount } := by
  refine ⟨fun collection holder number hget => ?_, fun collection holder => ?_⟩
  · have hbefore := hindex.listed collection holder number
    simp only at hget ⊢
    grind
  · have hbefore := hindex.counted collection holder
    have hcount := count_insert amount
      (p := fun key _ => key.1.1 = collection ∧ key.2 = holder) hheld
    simp only [tokensHeld] at hbefore ⊢
    omega

theorem added (hnone : refungible.balance.get (token, account) = none) :
    HolderIndex excess (addHolder token account
      { refungible with balance := refungible.balance.insert (token, account) amount }) := by
  refine ⟨fun collection holder number hget => ?_, fun collection holder => ?_⟩
  · have hbefore := hindex.listed collection holder number
    simp only [addHolder] at hget ⊢
    grind
  · have hbefore := hindex.counted collection holder
    have hcount := count_insert_of_none amount
      (p := fun key _ => key.1.1 = collection ∧ key.2 = holder) hnone
    simp only [addHolder, tokensHeld] at hbefore ⊢
    grind

theorem debited (hholds : refungible.balance.getD (token, account) 0 ≠ 0) (balance : ℕ) :
    HolderIndex excess (Refungible.debited token account balance refungible) := by
  have hheld := get_of_getD_ne hholds
  unfold Refungible.debited FiniteMap.putAmount
  by_cases hzero : balance = 0
  · simp only [if_pos hzero]
    exact hindex.removed hheld
  · simp only [if_neg hzero]
    exact hindex.kept hheld

theorem moved (hpieces : Pieces refungible)
    (hne : from' ≠ to') (hholds : refungible.balance.getD (token, from') 0 ≠ 0) (balanceFrom : ℕ) :
    HolderIndex excess (movedPieces token from' to' balanceFrom
      (refungible.balance.getD (token, to') 0) amount refungible) := by
  have hsent := hindex.debited hholds (balanceFrom - amount)
  -- the receiver has what it had before the sender is debited
  have hreceiver : (Refungible.debited token from' (balanceFrom - amount) refungible).balance.get
      (token, to') = refungible.balance.get (token, to') := by
    obtain ⟨owned, accountBalance, hdebited⟩ :=
      debited_eq refungible token from' (balanceFrom - amount)
    rw [hdebited, get_putAmount, if_neg fun heq => hne (Prod.mk.inj heq).2.symm]
  unfold movedPieces
  by_cases hnew : refungible.balance.getD (token, to') 0 = 0
  · simp only [if_pos hnew]
    refine hsent.added (hreceiver.trans ?_)
    cases hget : refungible.balance.get (token, to') with
    | none => rfl
    | some held =>
      rw [getD_of_get hget] at hnew
      exact absurd (hnew ▸ hget) (hpieces.positive _)
  · simp only [if_neg hnew]
    exact hsent.kept (hreceiver.trans (get_of_getD_ne hnew))

theorem burntAll (hpieces : Pieces refungible)
    (hholds : refungible.balance.getD (token, account) 0 ≠ 0)
    (hall : refungible.balance.getD (token, account) 0 = refungible.totalSupply.getD token 0) :
    HolderIndex excess (burntToken token account refungible) := by
  -- the holder of all pieces is the only one to be forgotten
  have hsole : (refungible.balance.eraseWhere fun key => key.1 = token) =
      refungible.balance.erase (token, account) := by
    refine ext_get ?_
    rintro ⟨other, holder⟩
    rw [get_eraseWhere, get_erase]
    by_cases hother : other = token
    · subst hother
      by_cases hholder : holder = account
      · simp [hholder]
      · simp [hholder, hpieces.get_eq_none hall hholder]
    · simp [hother]
  have hremoved := hindex.removed (get_of_getD_ne hholds)
  unfold burntToken
  rw [hsole]
  exact ⟨hremoved.listed, hremoved.counted⟩

end

theorem transferredState (hindex : HolderIndex excess s.refungible)
    (hpieces : Pieces s.refungible) (hholds : balanceOf s token from' ≠ 0) :
    HolderIndex excess (Refungible.transferredState token from' to' amount s).refungible := by
  unfold Refungible.transferredState
  split
  · rename_i hmoves
    exact hindex.moved hpieces hmoves.1 hholds _
  · exact hindex

theorem burntState (hindex : HolderIndex excess s.refungible) (hpieces : Pieces s.refungible)
    (hchecks : BurnChecks token account amount s) :
    HolderIndex excess (Refungible.burntState token account amount s).refungible := by
  unfold Refungible.burntState
  simp only
  split
  · rename_i hzero
    have hamount : amount = s.refungible.totalSupply.getD token 0 := by
      have hsupplied := hchecks.supplied
      omega
    exact hindex.burntAll hpieces hchecks.holds ((hchecks.last hamount).trans hamount)
  · have hdebited := hindex.debited hchecks.holds (balanceOf s token account - amount)
    exact ⟨hdebited.listed, hdebited.counted⟩

/-! ## Tokens are minted -/

end HolderIndex

/-- The amounts of zero in a list of items that are given to an account. -/
def emptyShares (data : List (CreateItemData T)) (account : T.CrossAccountId) : ℕ :=
  (data.flatMap (·.users.entries)).countP fun entry => entry.1 = account ∧ entry.2 = 0

/-- Every entry for an account counts, or it is an amount of zero. -/
theorem count_users (data : List (CreateItemData T)) (account : T.CrossAccountId) :
    (data.flatMap (·.users.keys)).count account =
      ((data.flatMap (·.users.entries)).countP fun entry => entry.1 = account ∧ entry.2 ≠ 0) +
        emptyShares data account := by
  have hkeys : data.flatMap (·.users.keys) = (data.flatMap (·.users.entries)).map Prod.fst := by
    rw [List.map_flatMap]
    rfl
  unfold emptyShares
  rw [hkeys]
  induction data.flatMap (·.users.entries) with
  | nil => rfl
  | cons entry rest ih =>
    rw [List.map_cons, List.count_cons, List.countP_cons, List.countP_cons, ih]
    by_cases haccount : entry.1 = account
    · by_cases hzero : entry.2 = 0
      · simp [haccount, hzero]
        omega
      · simp [haccount, hzero]
        omega
    · simp [haccount]

theorem countP_piecesOf {number : TokenId} {entries : List (T.CrossAccountId × ℕ)}
    {collection other : CollectionId} :
    ((piecesOf number entries).countP fun piece =>
        decide (collection = other ∧ piece.account = account)) =
      if other = collection then
        entries.countP fun entry => entry.1 = account ∧ entry.2 ≠ 0
      else 0 := by
  unfold piecesOf
  rw [List.countP_map, List.countP_filter]
  by_cases hother : collection = other
  · rw [if_pos hother.symm]
    refine List.countP_congr fun entry _ => ?_
    simp [hother]
  · rw [if_neg (Ne.symm hother), List.countP_eq_zero]
    simp [hother]

theorem tokensHeld_writeItem (hpieces : Pieces refungible) {item : CreateItemData T × TokenId}
    (hnew : refungible.totalSupply.get (collection, item.2) = none) (other : CollectionId)
    (account : T.CrossAccountId) :
    tokensHeld (writeItem collection item refungible) other account =
      tokensHeld refungible other account +
        if other = collection then
          item.1.users.entries.countP fun entry => entry.1 = account ∧ entry.2 ≠ 0
        else 0 := by
  have hunheld : ∀ piece ∈ piecesOf item.2 item.1.users.entries,
      refungible.balance.get ((collection, piece.token), piece.account) = none := by
    intro piece hpiece
    rw [(mem_piecesOf.mp hpiece).1]
    by_contra hheld
    exact hpieces.held _ hheld hnew
  unfold tokensHeld writeItem givePieces
  simp only
  rw [count_insertEach (nodup_piecesOf collection item.2 item.1.users) hunheld, countP_piecesOf]

theorem tokensHeld_writeItems
    {items : List (CreateItemData T × TokenId)} (hpieces : Pieces refungible)
    (hnodup : (items.map fun item => ((collection, item.2) : Token)).Nodup)
    (hnew : ∀ item ∈ items, refungible.totalSupply.get (collection, item.2) = none)
    (hwidth : ∀ item ∈ items, item.1.users.values.sum ≤ maxRefungiblePieces)
    (other : CollectionId) (account : T.CrossAccountId) :
    tokensHeld (writeItems collection items refungible) other account =
      tokensHeld refungible other account +
        if other = collection then
          (items.flatMap fun item => item.1.users.entries).countP fun entry =>
            entry.1 = account ∧ entry.2 ≠ 0
        else 0 := by
  induction items generalizing refungible with
  | nil =>
    rw [List.flatMap_nil, List.countP_nil, ite_self]
    rfl
  | cons item rest ih =>
    rw [List.map_cons, List.nodup_cons] at hnodup
    rw [List.forall_mem_cons] at hnew hwidth
    have hnew' : ∀ other ∈ rest,
        (writeItem collection item refungible).totalSupply.get (collection, other.2) = none := by
      intro other hother
      have hne : ((collection, other.2) : Token) ≠ (collection, item.2) := fun heq =>
        hnodup.1 (heq ▸ List.mem_map_of_mem hother)
      simp only [writeItem, givePieces]
      rw [get_insert_of_ne _ _ hne]
      exact hnew.2 other hother
    rw [writeItems_cons, ih (hpieces.writeItem hnew.1 hwidth.1) hnodup.2 hnew' hwidth.2,
      tokensHeld_writeItem hpieces hnew.1, List.flatMap_cons, List.countP_append]
    split <;> omega

namespace HolderIndex

variable {excess : CollectionId → T.CrossAccountId → ℕ}

section

variable (hindex : HolderIndex excess refungible)

include hindex

theorem minted (hledger : Ledger refungible)
    {data : List (CreateItemData T)} {tokenProperties : FiniteMap Token TokenProperties}
    (hwidth : ∀ item ∈ data, item.users.values.sum ≤ maxRefungiblePieces) :
    HolderIndex (fun other account =>
        excess other account + if other = collection then emptyShares data account else 0)
      (mintedStorage collection (data.zipIdx (refungible.tokensMinted.getD collection 0 + 1))
        (countEach collection (data.flatMap (·.users.keys)) refungible.accountBalance)
        tokenProperties refungible) := by
  set items := data.zipIdx (refungible.tokensMinted.getD collection 0 + 1) with hitems
  refine ⟨fun other holder number hget => ?_, fun other holder => ?_⟩
  · simp only [mintedStorage, writeItems, givePieces] at hget ⊢
    by_cases hgiven : ∃ piece ∈ pieces items,
        (other, holder, number) = (collection, piece.account, piece.token)
    · exact get_insertEach_const hgiven
    · have hold : refungible.balance.get ((other, number), holder) ≠ none := by
        rcases get_insertEach_ne_none.mp hget with ⟨piece, hpiece, hkey⟩ | hold
        · cases hkey
          exact absurd ⟨piece, hpiece, rfl⟩ hgiven
        · exact hold
      rw [get_insertEach_of_forall_ne fun piece hpiece heq =>
        hgiven ⟨piece, hpiece, heq⟩]
      exact hindex.listed other holder number hold
  · have hheld : ∀ accountBalance, tokensHeld (mintedStorage collection items accountBalance
        tokenProperties refungible) other holder =
          tokensHeld (writeItems collection items refungible) other holder := fun _ => rfl
    have hentries : (items.flatMap fun item => item.1.users.entries) =
        data.flatMap (·.users.entries) := by
      have hmap : items.map Prod.fst = data := List.zipIdx_map_fst _ _
      rw [← hmap, List.flatMap_map]
    rw [hheld, tokensHeld_writeItems hledger.toPieces (nodup_numbered collection data _)
      (fun item hitem => hledger.totalSupply_of_new hitem)
      (fun item hitem => hwidth item.1 (List.fst_mem_of_mem_zipIdx hitem)), hentries]
    refine (getD_countEach other holder).trans ?_
    rw [hindex.counted, count_users]
    split <;> omega

/-! ## Steps and runs -/

theorem stored {spender : T.CrossAccountId} {number : TokenId} {left : Option ℕ} :
    HolderIndex excess (storedAllowance collection from' spender number left refungible) :=
  ⟨hindex.listed, hindex.counted⟩

/-- What is recorded of a collection is forgotten as a whole. -/
theorem cleared :
    HolderIndex (fun other account => if other = collection then 0 else excess other account)
      (clearCollection collection refungible) := by
  refine ⟨fun other holder number hget => ?_, fun other holder => ?_⟩
  · have hbefore := hindex.listed other holder number
    simp only [clearCollection] at hget ⊢
    grind
  · by_cases hother : other = collection
    · have hnothing : tokensHeld (clearCollection collection refungible) other holder = 0 := by
        refine count_eq_zero fun key held hget hkey => ?_
        simp only [clearCollection, get_eraseWhere, hkey.1, hother, if_true] at hget
        cases hget
      have hcounter : (clearCollection collection refungible).accountBalance.get
          (other, holder) = none := by
        simp [clearCollection, get_eraseWhere, hother]
      rw [hnothing, getD_of_get_none hcounter, if_pos hother]
    · have hheld : tokensHeld (clearCollection collection refungible) other holder =
          tokensHeld refungible other holder := by
        refine count_congr fun key hkey => ?_
        obtain ⟨_, hcollection, _⟩ := hkey
        rw [clearCollection, get_eraseWhere, if_neg (hcollection ▸ hother)]
      have hbefore := hindex.counted other holder
      rw [hheld, if_neg hother, ← hbefore]
      simp [clearCollection, FiniteMap.getD, get_eraseWhere, hother]

end

end HolderIndex

/-- The amounts of zero that a call gives to an account. -/
def emptySharesOf : Call T → CollectionId → T.CrossAccountId → ℕ
  | .refungible collection (.createMultipleItems _ data), other, account =>
    if other = collection then emptyShares data account else 0
  | _, _, _ => 0

/-- A repartition is made by an account that holds pieces. -/
def RepartitionsOwnPieces (s : State T) : Call T → Prop
  | .refungible collection (.repartition owner token _) => balanceOf s (collection, token) owner ≠ 0
  | _ => True

theorem Step.holderIndex {excess : CollectionId → T.CrossAccountId → ℕ}
    {handle : CollectionHandle T} {call : RefungibleCall T} (hledger : Ledger s.refungible)
    (hindex : HolderIndex excess s.refungible)
    (howns : RepartitionsOwnPieces s (.refungible handle.id call)) (hstep : Step handle s call s') :
    HolderIndex (fun other account =>
      excess other account + emptySharesOf (.refungible handle.id call) other account)
      s'.refungible := by
  have hpieces := hledger.toPieces
  cases hstep with
  | createMultipleItems hchecks hkept => exact hindex.minted hledger (pieces_of_sound hchecks.sound)
  | transfer hchecks => exact hindex.transferredState hpieces hchecks.holds
  | transferFrom hallowed haccess hchecks =>
    exact (hindex.transferredState hpieces hchecks.holds).stored
  | burn hchecks => exact hindex.burntState hpieces hchecks
  | burnFrom hallowed haccess hchecks hself =>
    exact (hindex.burntState hpieces hchecks).stored
  | @repartition owner token amount hmax hpos hall =>
    have hkept : HolderIndex excess { s.refungible with
        balance := s.refungible.balance.insert ((handle.id, token), owner) amount } :=
      hindex.kept (get_of_getD_ne howns)
    exact ⟨hkept.listed, hkept.counted⟩
  | setAllowance haccess hcovered => exact hindex.stored
  | setAllowanceFrom haccess hmirror hcovered => exact hindex.stored
  | setAllowanceForAll => exact ⟨hindex.listed, hindex.counted⟩
  | modifyTokenProperties hkept happly => exact ⟨hindex.listed, hindex.counted⟩

theorem StorageStep.holderIndex {excess : CollectionId → T.CrossAccountId → ℕ}
    (hledger : Ledger s.refungible) (hindex : HolderIndex excess s.refungible)
    (howns : RepartitionsOwnPieces s call) (hstep : StorageStep s call refungible) :
    ∃ excess' : CollectionId → T.CrossAccountId → ℕ,
      (∀ other account, excess' other account ≤
        excess other account + emptySharesOf call other account) ∧
      HolderIndex excess' refungible := by
  cases hstep with
  | operation hcall hfound hoperation =>
    subst hcall
    exact ⟨_, fun _ _ => Nat.le_refl _, hoperation.holderIndex hledger hindex howns⟩
  | cleared hempty =>
    refine ⟨_, fun other account => ?_, hindex.cleared⟩
    split
    · exact Nat.zero_le _
    · exact Nat.le_add_right _ _
  | unchanged => exact ⟨excess, fun _ _ => Nat.le_add_right _ _, hindex⟩

theorem HolderIndex.holdersCounted {excess : CollectionId → T.CrossAccountId → ℕ}
    (hindex : HolderIndex excess s.refungible) : HoldersCounted s := by
  intro token account hholds
  have hone : 1 ≤ tokensHeld s.refungible token.1 account :=
    one_le_count (get_of_getD_ne hholds) ⟨rfl, rfl⟩
  have hcounted := hindex.counted token.1 account
  unfold accountBalanceOf
  omega

/-- A call that changes balances and index together: every amount of a mint is
positive, and a repartition is made by an account that holds pieces. -/
def KeepsIndex (s : State T) : Call T → Prop
  | .refungible _ (.createMultipleItems _ data) =>
    ∀ item ∈ data, ∀ entry ∈ item.users.entries, entry.2 ≠ 0
  | .refungible collection (.repartition owner token _) => balanceOf s (collection, token) owner ≠ 0
  | _ => True

theorem KeepsIndex.repartitionsOwnPieces (hkeeps : KeepsIndex s call) :
    RepartitionsOwnPieces s call := by
  unfold RepartitionsOwnPieces
  split
  · exact hkeeps
  · trivial

theorem KeepsIndex.emptySharesOf_eq_zero (hkeeps : KeepsIndex s call)
    (other : CollectionId) (account : T.CrossAccountId) : emptySharesOf call other account = 0 := by
  unfold emptySharesOf
  split
  · split
    · refine List.countP_eq_zero.mpr fun entry hentry => ?_
      obtain ⟨item, hitem, hentry⟩ := List.mem_flatMap.mp hentry
      simp [hkeeps item hitem entry hentry]
    · rfl
  · rfl

theorem holderIndex_of_reaches {balances : T.Balances} {history : History T}
    (hrun : Reaches balances history s)
    (hkeeps : ∀ event ∈ history, KeepsIndex event.state event.call.call) :
    HolderIndex (fun _ _ => 0) s.refungible := by
  refine Reaches.invariant_of_base (fun s => Ledger s.refungible)
    (fun s extrinsic => KeepsIndex s extrinsic.call) (OfStorage.refungible Ledger)
    ledger_of_reachable (OfStorage.refungible (HolderIndex fun _ _ => 0)) .empty
    (fun s extrinsic s' hledger hindex hallowed hstep => ?_) hrun hkeeps
  obtain ⟨excess, hle, hafter⟩ :=
    hstep.pallets.refungible.holderIndex hledger hindex hallowed.repartitionsOwnPieces
  have hzero : excess = fun _ _ => 0 := by
    funext other account
    have hbound := hle other account
    rw [hallowed.emptySharesOf_eq_zero] at hbound
    omega
  rwa [hzero] at hafter

/-- An entry of the balances is a positive number of pieces. -/
theorem Pieces.tokensHeld_eq (hpieces : Pieces refungible) (collection : CollectionId)
    (account : T.CrossAccountId) :
    tokensHeld refungible collection account = refungible.balance.count fun key held =>
      key.1.1 = collection ∧ key.2 = account ∧ 0 < held := by
  refine count_congr_of_iff fun key held hget => ?_
  have hpos : 0 < held := Nat.pos_of_ne_zero fun hzero => hpieces.positive key (hzero ▸ hget)
  simp [hpos]

/-- In a run in which all amounts of mints are positive and all repartitions are made
by accounts with pieces, the list of owned tokens and the counters say what the
balances say, and no call underflows. -/
theorem holder_index_exact {balances : T.Balances} {history : History T}
    (hrun : Reaches balances history s)
    (hkeeps : ∀ event ∈ history, KeepsIndex event.state event.call.call) :
    (∀ collection account token, s.refungible.owned.getD (collection, account, token) false = true ↔
        0 < balanceOf s (collection, token) account) ∧
      (∀ collection account, accountBalanceOf s collection account =
        s.refungible.balance.count fun key held =>
          key.1.1 = collection ∧ key.2 = account ∧ 0 < held) ∧
      ∀ collection call budget s',
        (Call.refungible collection call).execute.run (s.setBudget budget) ≠
          .error DispatchError.underflow s' := by
  have hreachable : Reachable s := ⟨balances, history, hrun⟩
  have hpieces := (ledger_of_reachable hreachable).toPieces
  have hindex := holderIndex_of_reaches hrun hkeeps
  -- an entry of the balances is a positive number of pieces
  have hpositive : ∀ token account, s.refungible.balance.get (token, account) ≠ none →
      0 < balanceOf s token account := by
    intro token account hentry
    obtain ⟨held, hget⟩ := Option.ne_none_iff_exists'.mp hentry
    have hne := hpieces.positive (token, account)
    rw [hget] at hne
    unfold balanceOf
    rw [getD_of_get hget]
    exact Nat.pos_of_ne_zero fun hzero => hne (hzero ▸ rfl)
  refine ⟨fun collection account token => ⟨fun howned => ?_, fun hholds => ?_⟩,
    fun collection account => ?_, fun collection call budget s' hexecute => ?_⟩
  · refine hpositive _ _ (listedHold_of_reachable hreachable collection account token ?_)
    intro hnone
    rw [getD_of_get_none hnone] at howned
    cases howned
  · refine getD_of_get (hindex.listed collection account token ?_)
    intro hnone
    rw [balanceOf, getD_of_get_none hnone] at hholds
    exact Nat.lt_irrefl 0 hholds
  · rw [accountBalanceOf, hindex.counted, Nat.add_zero]
    exact hpieces.tokensHeld_eq collection account
  · simp only [Call.execute, read_bind_error] at hexecute
    split at hexecute
    · exact execute_notUnderflow (s := s.setBudget budget)
        (HolderIndex.holdersCounted (s := s) hindex) hexecute rfl
    · cases hexecute

namespace HolderIndexExample

/-- A token with two holders. -/
def shared : CreateItemData reference := ⟨⟨[(.alice, 100), (.bob, 50)], by decide⟩, []⟩

/-- One holder gives all its pieces to the other, which changes their number. -/
def movedRun : List (Extrinsic reference) :=
  [reference.create .reFungible,
    ⟨.refungible 1 (.createMultipleItems .alice [shared]), 5⟩,
    ⟨.refungible 1 (.transfer .alice .bob 1 100), 5⟩,
    ⟨.refungible 1 (.repartition .bob 1 10), 5⟩]

/-- A token without pieces, and one of which an account is given none.  Somebody else
repartitions the first. -/
def emptyRun : List (Extrinsic reference) :=
  [reference.create .reFungible,
    ⟨.refungible 1 (.createMultipleItems .alice
      [⟨⟨[], by decide⟩, []⟩, ⟨⟨[(.alice, 100), (.bob, 0)], by decide⟩, []⟩]), 5⟩,
    ⟨.refungible 1 (.repartition .carol 1 10), 5⟩]

end HolderIndexExample

open HolderIndexExample in
theorem holder_index_exact_moved :
    (∀ collection account token,
      (reference.stateOf movedRun rfl).refungible.owned.getD (collection, account, token) false =
          true ↔ 0 < balanceOf (reference.stateOf movedRun rfl) (collection, token) account) ∧
      accountBalanceOf (reference.stateOf movedRun rfl) 1 ReferenceAccount.bob = 1 := by
  have hkeeps : ∀ event ∈ reference.historyOf movedRun rfl,
      KeepsIndex event.state event.call.call := by
    have hholds : (150 : ℕ) ≠ 0 := by decide
    have hpositive : ∀ item ∈ [shared], ∀ entry ∈ item.users.entries, entry.2 ≠ 0 := by decide
    refine List.forall_mem_cons.mpr ⟨hholds, List.forall_mem_cons.mpr ⟨trivial, ?_⟩⟩
    exact List.forall_mem_cons.mpr ⟨hpositive, List.forall_mem_cons.mpr
      ⟨trivial, fun _ hnone => nomatch hnone⟩⟩
  exact ⟨(holder_index_exact (run_replay _ _ movedRun rfl) hkeeps).1, rfl⟩

open HolderIndexExample in
/-- An account holds pieces without being listed or counted, so its burn underflows;
another is counted without holding any. -/
theorem holder_index_of_empty_shares :
    ∃ s : State reference, Reachable s ∧
      balanceOf s (1, 1) ReferenceAccount.carol = 10 ∧
      s.refungible.owned.getD (1, ReferenceAccount.carol, 1) false = false ∧
      accountBalanceOf s 1 ReferenceAccount.carol = 0 ∧
      (∃ s', (Call.refungible 1 (.burn ReferenceAccount.carol 1 10)).execute.run s =
        .error DispatchError.underflow s') ∧
      tokensHeld s.refungible 1 ReferenceAccount.bob = 0 ∧
      accountBalanceOf s 1 ReferenceAccount.bob = 1 :=
  ⟨reference.stateOf emptyRun rfl, reference.reachable_stateOf _ rfl, rfl, rfl, rfl, ⟨_, rfl⟩,
    by decide, rfl⟩

end UniqueChain.Refungible
