import UniqueChain.Nesting.Indexed
import UniqueChain.Nonfungible.Ledger

/-!
# The index of nested NFTs

An NFT is entered under a parent exactly when its owner has the address of that
parent, so that the check for children before a burn sees every NFT the parent
still owns.

A transfer first enters the NFT under the receiver and then takes it out from
under the old owner.  If both have the address of the same token, the second
write undoes the first, and the NFT is no longer entered although its parent owns
it.  In every run without such a transfer the index is exact.
-/

namespace UniqueChain

open CollectionDispatch FiniteMap

variable {T : Config} {s s' : State T} {token : Token}

/-- The NFT is entered under those parents whose address its owner has. -/
def NftIndexed (token : Token) (nonfungible : NonfungibleStorage T) : Prop :=
  ∀ parent, IsChild nonfungible.tokenChildren parent token ↔
    ∃ item, nonfungible.tokenData.get token = some item ∧
      T.addressToToken item.owner = some parent

theorem indexed_nonfungible_iff (hasset : (Asset.nonfungible token).Registered s) :
    Indexed s (.nonfungible token) ↔ NftIndexed token s.nonfungible := by
  refine forall_congr' fun parent => iff_congr (and_iff_right hasset) ?_
  constructor
  · rintro ⟨account, hparent, hheld⟩
    exact ⟨⟨account⟩, held_nonfungible_ne_zero.mp hheld, hparent⟩
  · rintro ⟨item, hitem, hparent⟩
    exact ⟨item.owner, hparent, held_nonfungible_ne_zero.mpr hitem⟩

/-- Both accounts have the address of one and the same token. -/
def SameParent (first second : T.CrossAccountId) : Prop :=
  T.addressToToken first ≠ none ∧ T.addressToToken second = T.addressToToken first

/-- The call is a transfer of an NFT between accounts with the address of the
same token. -/
def Call.MovesWithinParent : Call T → Prop
  | .nonfungible _ (.transfer from' to' _) => SameParent from' to'
  | .nonfungible _ (.transferFrom _ from' to' _) => SameParent from' to'
  | _ => False

namespace Nonfungible

variable {handle : CollectionHandle T}

theorem nftIndexed_transferred {depositor from' to' : T.CrossAccountId} {number : TokenId}
    (hbase : IndexBase s) (hnative : handle.id ≠ nativeFungibleCollectionId)
    (hindexed : NftIndexed token s.nonfungible)
    (hchecks : TransferChecks handle depositor from' to' number s)
    (hmove : ¬ SameParent from' to') :
    NftIndexed token (transferredStorage handle.id from' to' number (nestingParent s from')
      (nestingParent s to') s.nonfungible) := by
  intro parent
  simp only [transferredStorage]
  by_cases htoken : token = (handle.id, number)
  · subst htoken
    have hbefore : IsChild s.nonfungible.tokenChildren parent (handle.id, number) ↔
        T.addressToToken from' = some parent := by
      rw [hindexed parent, hchecks.owned]
      simp
    have hfound : IsChild (addChild (nestingParent s to') (handle.id, number)
        s.nonfungible.tokenChildren) parent (handle.id, number) →
        ∃ handle, dispatch s parent.1 = some (.nonfungible handle) := by
      intro hentry
      rcases hentry.of_addChild with ⟨hparent, _⟩ | hentry
      · exact (nestingParent_eq_some.mp hparent).2
      · exact hbase.parent_found hentry
    rw [isChild_removeChild_nestingParent hnative hfound, isChild_addChild hnative,
      nestingParent_of_mayReceive hchecks.mayReceive, hbefore, get_insert_self]
    constructor
    · rintro ⟨hfrom, ⟨hto, _⟩ | hsame⟩
      · exact ⟨_, rfl, hto⟩
      · exact absurd hsame hfrom
    · rintro ⟨_, hitem, hto⟩
      cases hitem
      refine ⟨fun hfrom => hmove ⟨?_, hto.trans hfrom.symm⟩, .inl ⟨hto, rfl⟩⟩
      rw [hfrom]
      exact Option.some_ne_none _
  · rw [isChild_removeChild_of_ne htoken, isChild_addChild_of_ne htoken,
      get_insert_of_ne _ _ htoken]
    exact hindexed parent

theorem nftIndexed_burnt {owner : T.CrossAccountId} {number : TokenId} (hbase : IndexBase s)
    (hnative : handle.id ≠ nativeFungibleCollectionId) (hindexed : NftIndexed token s.nonfungible)
    (hchecks : BurnChecks handle owner number s) :
    NftIndexed token (burntStorage handle.id number owner (nestingParent s owner)
      s.nonfungible) := by
  intro parent
  simp only [burntStorage]
  by_cases htoken : token = (handle.id, number)
  · subst htoken
    rw [isChild_removeChild_nestingParent hnative hbase.parent_found, hindexed parent,
      hchecks.owned, get_erase_self]
    simp
  · rw [isChild_removeChild_of_ne htoken, get_erase_of_ne _ htoken]
    exact hindexed parent

theorem nftIndexed_minted {sender : T.CrossAccountId} {data : List (CreateItemData T)}
    {accountBalance : FiniteMap (CollectionId × T.CrossAccountId) ℕ}
    {tokenProperties : FiniteMap Token TokenProperties}
    (hledger : Ledger s.nonfungible) (hnative : handle.id ≠ nativeFungibleCollectionId)
    (hindexed : NftIndexed token s.nonfungible)
    (hchecks : mintForm.MintChecks handle sender data s) :
    NftIndexed token (mintedStorage s handle.id
      (data.zipIdx (s.nonfungible.tokensMinted.getD handle.id 0 + 1))
      accountBalance tokenProperties s.nonfungible) := by
  intro parent
  simp only [mintedStorage, mintedChildren]
  rcases get_mintedData_cases handle.id data (s.nonfungible.tokensMinted.getD handle.id 0 + 1)
      s.nonfungible.tokenData token with ⟨item, hitem, rfl, hget⟩ | ⟨hold, hget⟩
  · have hnone : ¬ IsChild s.nonfungible.tokenChildren parent (handle.id, item.2) := by
      rw [hindexed parent, hledger.get_of_new hitem]
      simp
    rw [isChild_foldl_addChild fun _ _ => hnative, hget, or_iff_left hnone]
    constructor
    · rintro ⟨other, hother, hparent, hsame⟩
      have hgetOther : (mintedData handle.id (data.zipIdx _) s.nonfungible.tokenData).get
          (handle.id, other.2) = some ⟨other.1.owner⟩ :=
        get_insertEach_of_mem (nodup_numbered handle.id data _) hother
      rw [← hsame, hget] at hgetOther
      refine ⟨_, hgetOther, ?_⟩
      rwa [← nestingParent_of_mayReceive (hchecks.mayReceive other hother _
        (List.mem_singleton_self _))]
    · rintro ⟨_, hitem', hparent⟩
      cases hitem'
      refine ⟨item, hitem, ?_, rfl⟩
      rwa [nestingParent_of_mayReceive
        (hchecks.mayReceive item hitem _ (List.mem_singleton_self _))]
  · rw [isChild_foldl_addChild_of_ne hold, hget]
    exact hindexed parent

theorem Step.nftIndexed {operation : NonfungibleCall T} {nonfungible : NonfungibleStorage T}
    (hbase : IndexBase s) (hledger : Ledger s.nonfungible)
    (hnative : handle.id ≠ nativeFungibleCollectionId)
    (hallowed : ¬ Call.MovesWithinParent (.nonfungible handle.id operation))
    (hindexed : NftIndexed token s.nonfungible) (hstep : Step handle s operation nonfungible) :
    NftIndexed token nonfungible := by
  cases hstep with
  | createMultipleItems hchecks hkept =>
    exact nftIndexed_minted hledger hnative hindexed hchecks
  | transfer hchecks => exact nftIndexed_transferred hbase hnative hindexed hchecks hallowed
  | transferFrom hallows hchecks =>
    exact nftIndexed_transferred hbase hnative hindexed hchecks hallowed
  | burn hchecks => exact nftIndexed_burnt hbase hnative hindexed hchecks
  | burnFrom hallows hchecks => exact nftIndexed_burnt hbase hnative hindexed hchecks
  | modifyTokenProperties happly =>
    split
    · exact hindexed
    · exact hindexed
  | _ => exact hindexed

end Nonfungible

/-- A step other than such a transfer keeps the index exact for every NFT. -/
theorem ChainStep.indexed_nonfungible {call : Call T} (hbase : IndexBase s)
    (hledger : Nonfungible.Ledger s.nonfungible) (hallowed : ¬ call.MovesWithinParent)
    (hindexed : Indexed s (.nonfungible token)) (hstep : ChainStep s call s') :
    Indexed s' (.nonfungible token) := by
  by_cases hother : call.collection = some token.1
  case neg => exact hstep.indexed_of_other hbase hindexed hother
  by_cases hasset : (Asset.nonfungible token).Registered s'
  case neg => exact indexed_of_not_registered (hstep.holdingsRegistered hbase.holdings) hasset
  -- the operations of the other pallets are not on collections of NFTs
  have hkind : ∀ {id : CollectionId} {kind : CollectionDispatch T}, some id = some token.1 →
      dispatch s id = some kind → s'.common = s.common → ∃ handle, kind = .nonfungible handle := by
    rintro id kind hid hfound hcommon
    cases hid
    obtain ⟨handle, hnft⟩ := (Asset.registered_congr (modeOf_congr hcommon)).mp hasset
    exact ⟨handle, Option.some.inj (hfound.symm.trans hnft)⟩
  cases hstep with
  | nonfungible hfound hoperation =>
    have hbefore : (Asset.nonfungible token).Registered s := hasset
    rw [indexed_nonfungible_iff hbefore] at hindexed
    exact (indexed_nonfungible_iff hasset).mpr (hoperation.nftIndexed hbase hledger
      (dispatch_eq_nonfungible.mp hfound).1 hallowed hindexed)
  | fungible hfound hoperation =>
    obtain ⟨_, hnft⟩ := hkind hother hfound hoperation.frame.1.common
    cases hnft
  | refungible hfound hoperation =>
    obtain ⟨_, hnft⟩ := hkind hother hfound hoperation.frame.1.common
    cases hnft
  | _ => cases hother

/-- In every run in which no NFT is transferred between accounts with the address
of the same token, an NFT is entered under a token exactly when it exists and its
owner has the address of that token. -/
theorem nft_index_exact {balances : T.Balances} {history : History T}
    (hrun : Reaches balances history s)
    (hallowed : ∀ event ∈ history, ¬ event.call.call.MovesWithinParent) (parent token : Token)
    (hnft : ∃ handle, dispatch s token.1 = some (.nonfungible handle)) :
    s.nonfungible.tokenChildren.get (parent, token) ≠ none ↔
      ∃ item, s.nonfungible.tokenData.get token = some item ∧
        T.addressToToken item.owner = some parent := by
  have hindexed : Indexed s (.nonfungible token) := by
    refine hrun.invariant_of_base (fun s => IndexBase s ∧ Nonfungible.Ledger s.nonfungible)
      (fun _ extrinsic => ¬ extrinsic.call.MovesWithinParent)
      (OfStorage.and ofStorage_indexBase (OfStorage.nonfungible Nonfungible.Ledger))
      (fun hreachable => ⟨indexBase_of_reachable hreachable,
        Nonfungible.ledger_of_reachable hreachable⟩)
      ofStorage_indexed ?_ (fun _ _ _ hbase hindexed hallows hstep =>
        hstep.indexed_nonfungible hbase.1 hbase.2 hallows hindexed) hallowed
    exact indexed_genesis
  exact (indexed_nonfungible_iff hnft).mp hindexed parent

namespace NftIndexExample

open ReferenceAccount

/-- The second of two tokens is nested in the first. -/
def nested : List (Extrinsic reference) :=
  [reference.createNesting,
    ⟨.nonfungible 1 (.createMultipleItems alice [⟨alice, []⟩, ⟨alice, []⟩]), 5⟩,
    ⟨.nonfungible 1 (.transfer alice (reference.tokenToAddress (1, 1)) 2), 5⟩]

/-- The owner of the first transfers the second from its place to the same place. -/
def lost : List (Extrinsic reference) :=
  nested ++ [⟨.nonfungible 1 (.transferFrom alice (reference.tokenToAddress (1, 1))
    (reference.tokenToAddress (1, 1)) 2), 5⟩]

end NftIndexExample

open NftIndexExample in
theorem nft_index_exact_nested :
    (reference.stateOf nested rfl).nonfungible.tokenChildren.get ((1, 1), (1, 2)) ≠ none := by
  refine (nft_index_exact (run_replay _ _ nested rfl) ?_ (1, 1) (1, 2)
    ⟨reference.handleOf (reference.stateOf nested rfl) 1 rfl, rfl⟩).mpr ⟨_, rfl, rfl⟩
  refine List.forall_mem_cons.mpr ⟨fun hsame => absurd rfl hsame.1, ?_⟩
  refine List.forall_mem_cons.mpr ⟨id, List.forall_mem_cons.mpr ⟨id, ?_⟩⟩
  exact fun _ hnone => nomatch hnone

open NftIndexExample in
theorem nft_index_misses_child :
    ∃ s : State reference, Reachable s ∧
      (∃ handle, dispatch s 1 = some (.nonfungible handle)) ∧
      s.nonfungible.tokenChildren.get ((1, 1), (1, 2)) = none ∧
      ∃ item, s.nonfungible.tokenData.get (1, 2) = some item ∧
        reference.addressToToken item.owner = some (1, 1) :=
  ⟨_, reference.reachable_stateOf lost rfl,
    ⟨reference.handleOf (reference.stateOf lost rfl) 1 rfl, rfl⟩, rfl, _, rfl, rfl⟩

end UniqueChain
