import UniqueChain.Model.Reference
import UniqueChain.Runtime.Steps

/-!
# The ledger of non-fungible tokens

Who owns a token is recorded in `TokenData`; `Owned`, `AccountBalance` and the
two counters of a collection repeat it in other forms, and approvals and
properties hang on it.  `Ledger` says that all of them agree.  It is shown for
each way of writing to the storage, then for every step, then for every run.
-/

namespace UniqueChain.Nonfungible

open FiniteMap

variable {T : Config} {s s' : State T} {nonfungible : NonfungibleStorage T}

/-- The maps of the pallet agree with the owners of the tokens. -/
structure Ledger (nonfungible : NonfungibleStorage T) : Prop where
  owned : ∀ collection account token,
    nonfungible.owned.get (collection, account, token) ≠ none ↔
      nonfungible.tokenData.get (collection, token) = some ⟨account⟩
  counted : ∀ collection account, nonfungible.accountBalance.getD (collection, account) 0 =
    nonfungible.tokenData.count fun key item => key.1 = collection ∧ item.owner = account
  numbered : ∀ collection token, nonfungible.tokenData.get (collection, token) ≠ none →
    1 ≤ token ∧ token ≤ nonfungible.tokensMinted.getD collection 0
  supply : ∀ collection, nonfungible.tokensMinted.getD collection 0 =
    nonfungible.tokensBurnt.getD collection 0 +
      nonfungible.tokenData.count fun key _ => key.1 = collection
  approved : ∀ key, nonfungible.allowance.get key ≠ none → nonfungible.tokenData.get key ≠ none
  described : ∀ key, nonfungible.tokenProperties.get key ≠ none →
    nonfungible.tokenData.get key ≠ none

namespace Ledger

variable {collection : CollectionId} {token : TokenId} {from' to' : T.CrossAccountId}
  {data : List (CreateItemData T)} {account : T.CrossAccountId}

theorem empty : Ledger (NonfungibleStorage.empty : NonfungibleStorage T) where
  owned _ _ _ := by simp [NonfungibleStorage.empty]
  counted _ _ := by simp [NonfungibleStorage.empty, FiniteMap.getD, FiniteMap.count]
  numbered _ _ hget := absurd rfl hget
  supply _ := by simp [NonfungibleStorage.empty, FiniteMap.getD, FiniteMap.count]
  approved _ hget := absurd rfl hget
  described _ hget := absurd rfl hget

/-! ## Writes that change no owner -/

section

variable (hledger : Ledger nonfungible)

include hledger

theorem setChildren {tokenChildren : Children} : Ledger { nonfungible with tokenChildren } :=
  ⟨hledger.owned, hledger.counted, hledger.numbered, hledger.supply, hledger.approved,
    hledger.described⟩

theorem setOperators
    {collectionAllowance : FiniteMap (CollectionId × T.CrossAccountId × T.CrossAccountId) Bool} :
    Ledger { nonfungible with collectionAllowance } :=
  ⟨hledger.owned, hledger.counted, hledger.numbered, hledger.supply, hledger.approved,
    hledger.described⟩

theorem writeAllowance {key : Token}
    {spender : Option T.CrossAccountId} (hexists : nonfungible.tokenData.get key ≠ none) :
    Ledger { nonfungible with
      allowance := Nonfungible.writeAllowance key spender nonfungible.allowance } := by
  refine ⟨hledger.owned, hledger.counted, hledger.numbered, hledger.supply, fun other hother => ?_,
    hledger.described⟩
  by_cases hkey : other = key
  · rw [hkey]
    exact hexists
  · refine hledger.approved other ?_
    cases spender with
    | none => rwa [Nonfungible.writeAllowance, get_erase_of_ne _ hkey] at hother
    | some spender => rwa [Nonfungible.writeAllowance, get_insert_of_ne _ _ hkey] at hother

theorem setProperties {key : Token} {properties : TokenProperties}
    (hexists : nonfungible.tokenData.get key ≠ none) :
    Ledger { nonfungible with
      tokenProperties := nonfungible.tokenProperties.insert key properties } := by
  refine ⟨hledger.owned, hledger.counted, hledger.numbered, hledger.supply, hledger.approved,
    fun other hother => ?_⟩
  by_cases hkey : other = key
  · rw [hkey]
    exact hexists
  · rw [get_insert_of_ne _ _ hkey] at hother
    exact hledger.described other hother

/-! ## A token changes hands -/

section

variable (howned : nonfungible.tokenData.get (collection, token) = some ⟨from'⟩)

include howned

theorem transferred {parentFrom parentTo : Option Token} :
    Ledger (transferredStorage collection from' to' token parentFrom parentTo nonfungible) := by
  have hsupply : ∀ other, (nonfungible.tokenData.insert (collection, token) ⟨to'⟩).count
      (fun key _ => key.1 = other) = nonfungible.tokenData.count fun key _ => key.1 = other := by
    intro other
    have hcount := count_insert ⟨to'⟩ (p := fun key _ => key.1 = other) howned
    omega
  refine ⟨fun other account number => ?_, fun other account => ?_, fun other number hget => ?_,
    fun other => ?_, fun key hkey => ?_, fun key hkey => ?_⟩
  · have hbefore := hledger.owned other account number
    simp only [transferredStorage]
    grind
  · have hbefore := hledger.counted other account
    have hcount := count_insert ⟨to'⟩
      (p := fun key item => key.1 = other ∧ item.owner = account) howned
    simp only [transferredStorage]
    grind
  · have hbefore := hledger.numbered other number
    simp only [transferredStorage] at hget ⊢
    grind
  · simp only [transferredStorage, hsupply]
    exact hledger.supply other
  · have hbefore := hledger.approved key
    simp only [transferredStorage] at hkey ⊢
    grind
  · have hbefore := hledger.described key hkey
    simp only [transferredStorage]
    grind

/-! ## A token is burnt -/

theorem burnt
    {parent : Option Token} : Ledger (burntStorage collection token from' parent nonfungible) := by
  refine ⟨fun other account number => ?_, fun other account => ?_, fun other number hget => ?_,
    fun other => ?_, fun key hkey => ?_, fun key hkey => ?_⟩
  · have hbefore := hledger.owned other account number
    simp only [burntStorage]
    grind
  · have hbefore := hledger.counted other account
    have hcount := count_erase (p := fun key item => key.1 = other ∧ item.owner = account) howned
    simp only [burntStorage]
    grind
  · have hbefore := hledger.numbered other number
    simp only [burntStorage] at hget ⊢
    grind
  · have hbefore := hledger.supply other
    have hcount := count_erase (p := fun key _ => key.1 = other) howned
    simp only [burntStorage]
    grind
  · have hbefore := hledger.approved key
    simp only [burntStorage] at hkey ⊢
    grind
  · have hbefore := hledger.described key
    simp only [burntStorage] at hkey ⊢
    grind

end

/-! ## Tokens are minted -/

omit hledger in
/-- Of the numbered items those of one owner are counted by the owners alone. -/
theorem countP_numbered {first : TokenId} {other : CollectionId} :
    ((data.zipIdx first).countP fun item =>
        decide (collection = other ∧ item.1.owner = account)) =
      if other = collection then (data.map (·.owner)).count account else 0 := by
  by_cases hother : collection = other
  · have hfst : (data.map (·.owner)).count account =
        ((data.zipIdx first).map Prod.fst).countP fun item => decide (item.owner = account) := by
      rw [List.zipIdx_map_fst, List.count_eq_countP, List.countP_map]
      refine List.countP_congr fun item _ => ?_
      simp
    rw [if_pos hother.symm, hfst, List.countP_map]
    refine List.countP_congr fun item _ => ?_
    simp [hother]
  · rw [if_neg (Ne.symm hother), List.countP_eq_zero]
    simp [hother]

/-- The owner of a token has a counter. -/
theorem one_le_accountBalance
    (howned : nonfungible.tokenData.get (collection, token) = some ⟨account⟩) :
    1 ≤ nonfungible.accountBalance.getD (collection, account) 0 := by
  rw [hledger.counted]
  exact one_le_count howned ⟨rfl, rfl⟩

/-- The numbers of new tokens are not in use. -/
theorem get_of_new {item : CreateItemData T × TokenId}
    (hitem : item ∈ data.zipIdx (nonfungible.tokensMinted.getD collection 0 + 1)) :
    nonfungible.tokenData.get (collection, item.2) = none := by
  by_contra hold
  have hbound := (bounds_of_mem_numbered hitem).1
  exact Nat.not_succ_le_self _
    (Nat.le_trans hbound (hledger.numbered collection item.2 hold).2)

theorem minted {tokenProperties : FiniteMap Token TokenProperties}
    (hkept : ∀ key, (∀ item ∈ data.zipIdx (nonfungible.tokensMinted.getD collection 0 + 1),
        key ≠ (collection, item.2)) →
      tokenProperties.get key = nonfungible.tokenProperties.get key) :
    Ledger (mintedStorage s collection
      (data.zipIdx (nonfungible.tokensMinted.getD collection 0 + 1))
      (countEach collection (data.map (·.owner)) nonfungible.accountBalance) tokenProperties
      nonfungible) := by
  have hdata := get_mintedData_cases collection data
    (nonfungible.tokensMinted.getD collection 0 + 1) nonfungible.tokenData
  set items := data.zipIdx (nonfungible.tokensMinted.getD collection 0 + 1) with hitems
  have hnodup : (items.map fun item => ((collection, item.2) : Token)).Nodup :=
    nodup_numbered collection data _
  have hbounds : ∀ item ∈ items, nonfungible.tokensMinted.getD collection 0 + 1 ≤ item.2 ∧
      item.2 ≤ nonfungible.tokensMinted.getD collection 0 + items.length := by
    intro item hitem
    rw [hitems, List.length_zipIdx]
    exact bounds_of_mem_numbered hitem
  have hnew : ∀ item ∈ items, nonfungible.tokenData.get (collection, item.2) = none :=
    fun item hitem => hledger.get_of_new hitem
  have hkeeps : ∀ key, nonfungible.tokenData.get key ≠ none →
      (mintedData collection items nonfungible.tokenData).get key ≠ none := by
    intro key hkey
    rcases hdata key with ⟨item, _, _, hget⟩ | ⟨_, hget⟩
    · simp [hget]
    · rwa [hget]
  have hcount : ∀ (p : Token → ItemData T → Prop) [∀ key, DecidablePred (p key)],
      (mintedData collection items nonfungible.tokenData).count p = nonfungible.tokenData.count p +
        items.countP fun item => p (collection, item.2) ⟨item.1.owner⟩ := fun p _ =>
    count_insertEach hnodup hnew
  refine ⟨fun other account number => ?_, fun other account => ?_, fun other number hget => ?_,
    fun other => ?_, fun key hkey => hkeeps key (hledger.approved key hkey), fun key hkey => ?_⟩
  · simp only [mintedStorage, mintedOwned]
    rw [get_insertEach_ne_none, hledger.owned]
    constructor
    · rintro (⟨item, hitem, heq⟩ | hold)
      · cases heq
        exact get_insertEach_of_mem hnodup hitem
      · rcases hdata (other, number) with ⟨item, hitem, hkey, _⟩ | ⟨_, hget⟩
        · rw [hkey, hnew item hitem] at hold
          cases hold
        · rwa [hget]
    · intro hget'
      rcases hdata (other, number) with ⟨item, hitem, hkey, hget⟩ | ⟨_, hget⟩
      · rw [hget] at hget'
        cases hget'
        cases hkey
        exact .inl ⟨item, hitem, rfl⟩
      · exact .inr (hget ▸ hget')
  · simp only [mintedStorage]
    rw [getD_countEach, hcount, hledger.counted]
    congr 1
    exact countP_numbered.symm
  · simp only [mintedStorage] at hget ⊢
    rcases hdata (other, number) with ⟨item, hitem, hkey, _⟩ | ⟨_, hold⟩
    · obtain ⟨rfl, rfl⟩ := Prod.mk.inj hkey
      have hbound := hbounds item hitem
      rw [getD_insert, if_pos rfl]
      exact ⟨Nat.le_trans (Nat.le_add_left 1 _) hbound.1, hbound.2⟩
    · rw [hold] at hget
      have hbefore := hledger.numbered other number hget
      grind
  · simp only [mintedStorage]
    rw [hcount]
    have hbefore := hledger.supply other
    have hnumber := countP_numbered_collection items collection other
    grind
  · simp only [mintedStorage] at hkey ⊢
    rcases hdata key with ⟨item, _, _, hget⟩ | ⟨hother, hget⟩
    · simp [hget]
    · rw [hget]
      rw [hkept key hother] at hkey
      exact hledger.described key hkey

/-! ## An empty collection is destroyed -/

theorem cleared (hempty : ∀ token, nonfungible.tokenData.get (collection, token) = none) :
    Ledger (clearCollection collection nonfungible) := by
  have hgone : ∀ key, key.1 = collection → nonfungible.tokenData.get key = none := by
    rintro ⟨_, token⟩ rfl
    exact hempty token
  have hdata : nonfungible.tokenData.eraseWhere (fun key => key.1 = collection) =
      nonfungible.tokenData := eraseWhere_eq_self hgone
  refine ⟨fun other account number => ?_, fun other account => ?_, fun other number hget => ?_,
    fun other => ?_, fun key hkey => ?_, fun key hkey => ?_⟩
  · have hbefore := hledger.owned other account number
    have hnone := hempty number
    simp only [clearCollection, hdata]
    grind
  · have hbefore := hledger.counted other account
    have hnone : other = collection → (nonfungible.tokenData.count fun key item =>
        key.1 = other ∧ item.owner = account) = 0 := fun hother =>
      count_eq_zero fun key item hget hkey => by
        simp [hgone key (hkey.1.trans hother)] at hget
    simp only [clearCollection, hdata]
    grind
  · have hbefore := hledger.numbered other number
    have hnone := hempty number
    simp only [clearCollection, hdata] at hget ⊢
    grind
  · have hbefore := hledger.supply other
    have hnone : other = collection →
      (nonfungible.tokenData.count fun key _ => key.1 = other) = 0 :=
      fun hother => count_eq_zero fun key item hget hkey => by
        simp [hgone key (hkey.trans hother)] at hget
    simp only [clearCollection, hdata]
    grind
  · have hbefore := hledger.approved key
    simp only [clearCollection, hdata] at hkey ⊢
    grind
  · simp only [clearCollection, hdata]
    exact hledger.described key hkey

end

end Ledger

/-! ## Steps and runs -/

theorem Step.ledger {handle : CollectionHandle T} {call : NonfungibleCall T}
    (hledger : Ledger s.nonfungible) (hstep : Step handle s call nonfungible) :
    Ledger nonfungible := by
  cases hstep with
  | createMultipleItems hchecks hkept => exact hledger.minted hkept
  | transfer hchecks => exact hledger.transferred hchecks.owned
  | transferFrom hallowed hchecks => exact hledger.transferred hchecks.owned
  | burn hchecks => exact hledger.burnt hchecks.owned
  | burnFrom hallowed hchecks => exact hledger.burnt hchecks.owned
  | setAllowance haccess hitem hallowed => exact hledger.writeAllowance (by simp [hitem])
  | setAllowanceFrom haccess hmirror hitem hallowed =>
    exact hledger.writeAllowance (by simp [hitem])
  | setAllowanceForAll => exact hledger.setOperators
  | modifyTokenProperties happly =>
    split
    · exact hledger
    · rename_i hupdates
      refine hledger.setProperties ?_
      have hexists := WriterFacts.tokenExists_of_apply hupdates happly
      exact Option.isSome_iff_ne_none.mp hexists

theorem StorageStep.ledger {call : Call T} (hledger : Ledger s.nonfungible)
    (hstep : StorageStep s call nonfungible) : Ledger nonfungible := by
  cases hstep with
  | operation hcall hfound hstep => exact hstep.ledger hledger
  | cleared hempty =>
    refine hledger.cleared fun token => ?_
    exact anyKey_eq_false_iff.mp hempty _ rfl
  | children => exact hledger.setChildren

theorem ledger_of_reachable (hreachable : Reachable s) : Ledger s.nonfungible :=
  hreachable.invariant (OfStorage.nonfungible Ledger) (fun _ => .empty)
    fun _ _ _ hledger hstep => hstep.pallets.nonfungible.ledger hledger

/-- In every reachable state the ledger of an NFT collection is consistent:
enumeration and counters agree with the owners of the tokens, tokens are
numbered from one on, the supply is the number of tokens, and approvals and
properties belong to existing tokens. -/
theorem ledger_consistent (hreachable : Reachable s) (collection : CollectionId)
    (account : T.CrossAccountId) (token : TokenId) :
    (s.nonfungible.owned.get (collection, account, token) ≠ none ↔
        s.nonfungible.tokenData.get (collection, token) = some ⟨account⟩) ∧
      s.nonfungible.accountBalance.getD (collection, account) 0 =
        (s.nonfungible.tokenData.count fun key item =>
          key.1 = collection ∧ item.owner = account) ∧
      (s.nonfungible.tokenData.get (collection, token) ≠ none →
        1 ≤ token ∧ token ≤ s.nonfungible.tokensMinted.getD collection 0) ∧
      totalSupply s collection =
        some (s.nonfungible.tokenData.count fun key _ => key.1 = collection) ∧
      (s.nonfungible.allowance.get (collection, token) ≠ none →
        s.nonfungible.tokenData.get (collection, token) ≠ none) ∧
      (s.nonfungible.tokenProperties.get (collection, token) ≠ none →
        s.nonfungible.tokenData.get (collection, token) ≠ none) := by
  have hledger := ledger_of_reachable hreachable
  have hsupply := hledger.supply collection
  refine ⟨hledger.owned collection account token, hledger.counted collection account,
    hledger.numbered collection token, ?_, hledger.approved _, hledger.described _⟩
  exact checkedSub_eq_some.mpr ⟨by omega, by omega⟩

/-- Two tokens are minted, one of them is given away and the other burnt. -/
def exampleRun : List (Extrinsic reference) :=
  [reference.create .nft,
    ⟨.nonfungible 1 (.createMultipleItems .alice [⟨.alice, []⟩, ⟨.alice, []⟩]), 5⟩,
    ⟨.nonfungible 1 (.transfer .alice .bob 1), 5⟩,
    ⟨.nonfungible 1 (.burn .alice 2), 5⟩]

theorem ledger_consistent_exampleRun :
    (reference.stateOf exampleRun rfl).nonfungible.owned.get (1, ReferenceAccount.bob, 1) ≠ none ∧
      totalSupply (reference.stateOf exampleRun rfl) 1 = some 1 ∧
      ((reference.stateOf exampleRun rfl).nonfungible.tokenData.count fun key _ => key.1 =
        1) = 1 := by
  have hledger := ledger_consistent (reference.reachable_stateOf exampleRun rfl) 1
    ReferenceAccount.bob 1
  exact ⟨hledger.1.mpr rfl, rfl, Option.some.inj hledger.2.2.2.1.symm⟩

end UniqueChain.Nonfungible
