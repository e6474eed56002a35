import UniqueChain.Model.BulkMint
import UniqueChain.Refungible.Ledger

/-!
# What a bulk mint credits

A bulk mint collects its list to a map, and what was listed for an account before its last
entry is lost on the way.  The pallet itself credits everything it is given, so a bulk mint
credits everything it is asked to exactly if each amount that is followed by another one
for the same account is zero (`AssocMap.NothingLost`).
-/

namespace UniqueChain

open Execution AssocMap Results FiniteMap

variable {T : Config} {s s' : State T} {handle : CollectionHandle T}

variable {caller : H160}

theorem orRevert_bind_ok {α β : Type} {result : Except String α} {next : α → EvmExec T β}
    {value : β} :
    (orRevert result >>= next).run s = .ok value s' ↔
      ∃ a, result = .ok a ∧ (next a).run s = .ok value s' := by
  cases result with
  | error message => exact ⟨nofun, by rintro ⟨a, ⟨⟩, _⟩⟩
  | ok a => exact ⟨fun hrun => ⟨a, rfl, hrun⟩, by rintro ⟨_, ⟨⟩, hrun⟩; exact hrun⟩

/-! ## Fungible collections -/

namespace Fungible

/-- An amount with the account it is for. -/
def AmountForAddress.entry (given : AmountForAddress) : T.CrossAccountId × ℕ :=
  (T.fromEth given.to', given.amount.toNat)

theorem AmountForAddress.toEntry_ok {given : AmountForAddress} {entry : T.CrossAccountId × ℕ}
    (hentry : given.toEntry = .ok entry) : given.entry = entry := by
  unfold toEntry at hentry
  split at hentry
  · cases hentry
    rfl
  · cases hentry

theorem mintBulk_ok {amounts : List AmountForAddress}
    (hrun : (mintBulk handle caller amounts).run s = .ok () s') :
    (createMultipleItems handle (T.fromEth caller)
      (ofList (amounts.map AmountForAddress.entry))).run s = .ok () s' := by
  obtain ⟨entries, hentries, hmint⟩ := orRevert_bind_ok.mp hrun
  obtain rfl := eq_map_of_mapM_eq_ok (fun _ _ => AmountForAddress.toEntry_ok) hentries
  exact mapError_ok.mp hmint

variable {data : AssocMap T.CrossAccountId ℕ}

theorem getD_mintedBalance_self {collection : CollectionId} {account : T.CrossAccountId} :
    (mintedBalance s collection data.entries s.fungible.balance).getD (collection, account) 0 =
      balanceOf s collection account + (data.get account).getD 0 := by
  have hnodup : (data.entries.map fun entry => (collection, entry.1)).Nodup := by
    have hkeys := data.nodup_keys.map (Prod.mk_right_injective collection)
    rwa [List.map_map] at hkeys
  rcases s.fungible.balance.get_insertEach_cases
      (fun entry => balanceOf s collection entry.1 + entry.2) hnodup (collection, account)
    with ⟨entry, hentry, hkey, hget⟩ | ⟨hother, hget⟩
  · cases hkey
    rw [get_eq_some_of_mem hentry]
    exact getD_of_get hget
  · have habsent : data.get account = none := by
      refine lookup_eq_none_of_not_mem fun hmem => ?_
      obtain ⟨entry, hentry, rfl⟩ := List.mem_map.mp hmem
      exact hother entry hentry rfl
    rw [habsent]
    exact congrArg (Option.getD · 0) hget

/-- What the pallet credits. -/
theorem createMultipleItems_credits {depositor : T.CrossAccountId}
    (hrun : (createMultipleItems handle depositor data).run s = .ok () s') :
    (∀ account, balanceOf s' handle.id account =
        balanceOf s handle.id account + (data.get account).getD 0) ∧
      s'.fungible.totalSupply.getD handle.id 0 =
        s.fungible.totalSupply.getD handle.id 0 + data.values.sum := by
  obtain ⟨_, hstorage⟩ := createMultipleItems_ok hrun
  have hfungible := (State.storage_eq_iff.mp hstorage).2.2.1
  refine ⟨fun account => ?_, ?_⟩
  · rw [balanceOf, hfungible]
    exact getD_mintedBalance_self
  · rw [hfungible]
    exact getD_of_get (get_insert_self ..)

/-- Every account is credited with all that is listed for it, and the supply with the
whole list. -/
def CreditsAll (collection : CollectionId) (amounts : List AmountForAddress) (s s' : State T) :
    Prop :=
  (∀ account, balanceOf s' collection account = balanceOf s collection account +
      listed account (amounts.map AmountForAddress.entry)) ∧
    s'.fungible.totalSupply.getD collection 0 =
      s.fungible.totalSupply.getD collection 0 + (amounts.map (·.amount.toNat)).sum

theorem mintBulk_creditsAll_iff {amounts : List AmountForAddress}
    (hrun : (mintBulk handle caller amounts).run s = .ok () s') :
    CreditsAll handle.id amounts s s' ↔
      NothingLost (amounts.map (AmountForAddress.entry (T := T))) := by
  obtain ⟨hbalance, hsupply⟩ := createMultipleItems_credits (mintBulk_ok hrun)
  have hentries : (amounts.map (AmountForAddress.entry (T := T))).map Prod.snd =
      amounts.map (·.amount.toNat) := by
    rw [List.map_map]
    rfl
  constructor
  · intro hcredits
    refine getD_ofList_eq_listed_iff.mp fun account => ?_
    exact Nat.add_left_cancel ((hbalance account).symm.trans (hcredits.1 account))
  · intro hkept
    refine ⟨fun account => ?_, ?_⟩
    · rw [hbalance, getD_ofList_eq_listed_iff.mpr hkept]
    · rw [hsupply, sum_values_ofList hkept, hentries]

end Fungible

/-! ## Refungible collections -/

namespace Refungible

section Pieces

variable {refungible : RefungibleStorage T} {collection : CollectionId} {account : T.CrossAccountId}
  {items : List (CreateItemData T × TokenId)}

theorem getD_writeItem_of_ne {item : CreateItemData T × TokenId} {token : Token}
    (hne : token ≠ (collection, item.2)) :
    (writeItem collection item refungible).balance.getD (token, account) 0 =
      refungible.balance.getD (token, account) 0 := by
  refine congrArg (Option.getD · 0) (get_insertEach_of_forall_ne fun piece hpiece heq => ?_)
  obtain ⟨htoken, _, _⟩ := mem_piecesOf.mp hpiece
  rw [htoken] at heq
  exact hne (congrArg Prod.fst heq)

theorem getD_writeItem_self {item : CreateItemData T × TokenId}
    (hnew : refungible.balance.getD ((collection, item.2), account) 0 = 0) :
    (writeItem collection item refungible).balance.getD ((collection, item.2), account) 0 =
      (item.1.users.get account).getD 0 := by
  rcases refungible.balance.get_insertEach_cases (·.amount)
      (nodup_piecesOf collection item.2 item.1.users) ((collection, item.2), account)
    with ⟨piece, hpiece, hkey, hget⟩ | ⟨hother, hget⟩
  · obtain ⟨_, _, hentry⟩ := mem_piecesOf.mp hpiece
    have haccount : account = piece.account := congrArg Prod.snd hkey
    rw [haccount, get_eq_some_of_mem hentry]
    exact getD_of_get (haccount ▸ hget)
  · -- the account is not listed, or with the amount zero
    have hnothing : (item.1.users.get account).getD 0 = 0 := by
      cases hlisted : item.1.users.get account with
      | none => rfl
      | some amount =>
        by_contra hpositive
        exact hother ⟨item.2, account, amount⟩
          (mem_piecesOf.mpr ⟨rfl, hpositive, mem_of_get_eq_some hlisted⟩) rfl
    rw [hnothing]
    exact (congrArg (Option.getD · 0) hget).trans hnew

theorem getD_writeItems_of_ne {token : Token} (hne : ∀ item ∈ items, token ≠ (collection, item.2)) :
    (writeItems collection items refungible).balance.getD (token, account) 0 =
      refungible.balance.getD (token, account) 0 := by
  induction items generalizing refungible with
  | nil => rfl
  | cons item rest ih =>
    rw [List.forall_mem_cons] at hne
    rw [writeItems_cons, ih hne.2, getD_writeItem_of_ne hne.1]

/-- The new tokens have the pieces they are given. -/
theorem getD_writeItems (hnodup : (items.map fun item => ((collection, item.2) : Token)).Nodup)
    (hnew : ∀ item ∈ items, refungible.balance.getD ((collection, item.2), account) 0 = 0)
    {item : CreateItemData T × TokenId} (hitem : item ∈ items) :
    (writeItems collection items refungible).balance.getD ((collection, item.2), account) 0 =
      (item.1.users.get account).getD 0 := by
  induction items generalizing refungible with
  | nil => cases hitem
  | cons head rest ih =>
    rw [List.map_cons, List.nodup_cons] at hnodup
    rw [List.forall_mem_cons] at hnew
    have hne : ∀ other ∈ rest, ((collection, head.2) : Token) ≠ (collection, other.2) :=
      fun other hother heq => hnodup.1 (heq ▸ List.mem_map_of_mem hother)
    rw [writeItems_cons]
    rcases List.mem_cons.mp hitem with rfl | hrest
    · rw [getD_writeItems_of_ne hne, getD_writeItem_self hnew.1]
    · refine ih hnodup.2 (fun other hother => ?_) hrest
      rw [getD_writeItem_of_ne (hne other hother).symm]
      exact hnew.2 other hother

end Pieces

variable {convertUint256 : BitVec 256 → T.CrossAccountId} {token : MintTokenData}
  {tokensData : List MintTokenData}

variable (convertUint256) in
/-- The owners with their pieces, as far as they can be read. -/
def MintTokenData.entries (token : MintTokenData) : List (T.CrossAccountId × ℕ) :=
  token.owners.filterMap fun given => (given.toEntry convertUint256).toOption

variable (convertUint256) in
/-- The item that is minted. -/
def MintTokenData.item (token : MintTokenData) : CreateItemData T where
  users := ofList (token.entries convertUint256)
  properties := token.properties.filterMap fun property => property.toProperty.toOption

theorem OwnerPieces.toEntry_ok {given : OwnerPieces} {entry : T.CrossAccountId × ℕ}
    (hentry : given.toEntry convertUint256 = .ok entry) : entry.2 = given.pieces.toNat := by
  obtain ⟨owner, _, hpair⟩ := except_bind_ok.mp hentry
  cases hpair
  rfl

theorem MintTokenData.toUsers_ok {users : AssocMap T.CrossAccountId ℕ}
    (husers : token.toUsers convertUint256 = .ok users) :
    ofList (token.entries convertUint256) = users ∧
      (token.entries convertUint256).map Prod.snd = token.owners.map (·.pieces.toNat) := by
  obtain ⟨entries, hentries, hcollected⟩ := except_bind_ok.mp husers
  have hread : token.entries convertUint256 = entries := filterMap_of_mapM_eq_ok hentries
  rw [hread]
  exact ⟨(ite_eq_ok.mp hcollected).2,
    map_eq_of_mapM_eq_ok (fun _ _ => OwnerPieces.toEntry_ok) hentries⟩

theorem MintTokenData.toProperties_ok {properties : List Property}
    (hproperties : token.toProperties = .ok properties) :
    token.properties.filterMap (fun property => property.toProperty.toOption) = properties := by
  obtain ⟨converted, hconverted, hbounded⟩ := except_bind_ok.mp hproperties
  rw [filterMap_of_mapM_eq_ok hconverted]
  exact (ite_eq_ok.mp hbounded).2

theorem MintTokenData.toItem_ok {hasMultipleTokens : Bool}
    {item : CreateItemData T} (hitem : token.toItem convertUint256 hasMultipleTokens = .ok item) :
    token.item convertUint256 = item ∧
      (token.entries convertUint256).map Prod.snd = token.owners.map (·.pieces.toNat) := by
  unfold toItem at hitem
  split at hitem
  · cases hitem
  · obtain ⟨users, husers, hrest⟩ := except_bind_ok.mp hitem
    obtain ⟨properties, hproperties, hpair⟩ := except_bind_ok.mp hrest
    cases hpair
    obtain ⟨hcollected, hpieces⟩ := toUsers_ok husers
    refine ⟨?_, hpieces⟩
    rw [MintTokenData.item, hcollected, toProperties_ok hproperties]

/-- The pallet is called with the items of the tokens. -/
theorem mintBulkCross_ok
    (hrun : (mintBulkCross convertUint256 handle caller tokensData).run s = .ok () s') :
    (createMultipleItems handle (T.fromEth caller)
        (tokensData.map (MintTokenData.item convertUint256))).run s = .ok () s' ∧
      ∀ token ∈ tokensData, (token.entries convertUint256).map Prod.snd =
        token.owners.map (·.pieces.toNat) := by
  obtain ⟨data, hdata, hmint⟩ := orRevert_bind_ok.mp hrun
  refine ⟨?_, ?_⟩
  · obtain rfl := eq_map_of_mapM_eq_ok (fun _ _ hitem => (MintTokenData.toItem_ok hitem).1) hdata
    exact mapError_ok.mp hmint
  · intro token htoken
    obtain ⟨item, hitem⟩ := exists_of_mem_of_mapM_eq_ok hdata htoken
    exact (MintTokenData.toItem_ok hitem).2

/-- What the pallet credits to new tokens. -/
theorem createMultipleItems_credits (hledger : Ledger s.refungible) {sender : T.CrossAccountId}
    {data : List (CreateItemData T)}
    (hrun : (createMultipleItems handle sender data).run s = .ok () s')
    {item : CreateItemData T × TokenId}
    (hitem : item ∈ data.zipIdx (s.refungible.tokensMinted.getD handle.id 0 + 1)) :
    (∀ account, balanceOf s' (handle.id, item.2) account = (item.1.users.get account).getD 0) ∧
      s'.refungible.totalSupply.get (handle.id, item.2) = some item.1.users.values.sum := by
  obtain ⟨_, tokenProperties, _, hstorage⟩ := createMultipleItems_ok hrun
  have hrefungible := (State.storage_eq_iff.mp hstorage).2.2.2.1
  have hnodup := nodup_numbered handle.id data (s.refungible.tokensMinted.getD handle.id 0 + 1)
  refine ⟨fun account => ?_, ?_⟩
  · rw [balanceOf, hrefungible]
    refine getD_writeItems hnodup (fun other hother => ?_) hitem
    refine hledger.toPieces.getD_eq_zero ?_ account
    by_contra hold
    exact Nat.not_lt.mpr (hledger.numbered handle.id other.2 hold).2
      (bounds_of_mem_numbered hother).1
  · rw [hrefungible]
    exact get_insertEach_of_mem hnodup hitem

variable (convertUint256) in
/-- Every owner of each of the numbered tokens holds all pieces that are listed for it,
and the token has all pieces of the list. -/
def CreditsAll (collection : CollectionId) (numbered : List (MintTokenData × TokenId))
    (s : State T) : Prop :=
  ∀ item ∈ numbered,
    (∀ account, balanceOf s (collection, item.2) account =
      listed account (item.1.entries convertUint256)) ∧
    s.refungible.totalSupply.get (collection, item.2) =
      some (item.1.owners.map (·.pieces.toNat)).sum

theorem mintBulkCross_creditsAll_iff (hledger : Ledger s.refungible)
    (hrun : (mintBulkCross convertUint256 handle caller tokensData).run s = .ok () s') :
    CreditsAll convertUint256 handle.id
        (tokensData.zipIdx (s.refungible.tokensMinted.getD handle.id 0 + 1)) s' ↔
      ∀ token ∈ tokensData, NothingLost (token.entries convertUint256) := by
  obtain ⟨hmint, hpieces⟩ := mintBulkCross_ok hrun
  have hcredits : ∀ item ∈ tokensData.zipIdx (s.refungible.tokensMinted.getD handle.id 0 + 1),
      (∀ account, balanceOf s' (handle.id, item.2) account =
        ((ofList (item.1.entries convertUint256)).get account).getD 0) ∧
      s'.refungible.totalSupply.get (handle.id, item.2) =
        some (ofList (item.1.entries convertUint256)).values.sum := by
    intro item hitem
    have hmapped := List.mem_map_of_mem (f := Prod.map (MintTokenData.item convertUint256) id) hitem
    rw [← List.zipIdx_map] at hmapped
    exact createMultipleItems_credits hledger hmint hmapped
  constructor
  · intro hall token htoken
    obtain ⟨number, hitem⟩ : ∃ number, (token, number) ∈
        tokensData.zipIdx (s.refungible.tokensMinted.getD handle.id 0 + 1) := by
      rw [← List.zipIdx_map_fst (s.refungible.tokensMinted.getD handle.id 0 + 1) tokensData,
        List.mem_map] at htoken
      obtain ⟨item, hitem, rfl⟩ := htoken
      exact ⟨item.2, hitem⟩
    refine getD_ofList_eq_listed_iff.mp fun account => ?_
    exact ((hcredits _ hitem).1 account).symm.trans ((hall _ hitem).1 account)
  · intro hkept item hitem
    have hmem : item.1 ∈ tokensData := by
      rw [← List.zipIdx_map_fst (s.refungible.tokensMinted.getD handle.id 0 + 1) tokensData]
      exact List.mem_map_of_mem hitem
    obtain ⟨hbalance, hsupply⟩ := hcredits item hitem
    refine ⟨fun account => ?_, ?_⟩
    · rw [hbalance, getD_ofList_eq_listed_iff.mpr (hkept _ hmem)]
    · rw [hsupply, sum_values_ofList (hkept _ hmem), hpieces _ hmem]

end Refungible

/-- A bulk mint that succeeds credits all that it lists, if and only if each amount of its
list that is followed by one for the same account is zero; for refungible tokens this is so
for the list of each token. -/
theorem bulk_mints_credit_all_iff (convertUint256 : BitVec 256 → T.CrossAccountId)
    (handle : CollectionHandle T) (caller : H160) :
    (∀ (amounts : List Fungible.AmountForAddress) (s s' : State T),
      (Fungible.mintBulk handle caller amounts).run s = .ok () s' →
      (Fungible.CreditsAll handle.id amounts s s' ↔
        NothingLost (amounts.map (Fungible.AmountForAddress.entry (T := T))))) ∧
    ∀ (tokensData : List Refungible.MintTokenData) (s s' : State T), Reachable s →
      (Refungible.mintBulkCross convertUint256 handle caller tokensData).run s = .ok () s' →
      (Refungible.CreditsAll convertUint256 handle.id
          (tokensData.zipIdx (s.refungible.tokensMinted.getD handle.id 0 + 1)) s' ↔
        ∀ token ∈ tokensData, NothingLost (token.entries convertUint256)) :=
  ⟨fun _ _ _ hrun => Fungible.mintBulk_creditsAll_iff hrun,
    fun _ _ _ hreachable hrun => Refungible.mintBulkCross_creditsAll_iff
      (Refungible.ledger_of_reachable hreachable) hrun⟩

namespace BulkMintExample

open reference Fungible Refungible

/-- The owner of the collections, and two receivers. -/
def minter : H160 := 0xa1

def first : H160 := 0xb1

def second : H160 := 0xb2

/-- A collection of an account of the EVM. -/
def createdByMinter (mode : CollectionMode) : List (Extrinsic reference) :=
  [⟨.createCollection (.ethereum minter) (.user (.ethereum minter)) { mode }, 5⟩]

def fungibleState : State reference := stateOf (createdByMinter (.fungible 0)) rfl

def refungibleState : State reference := stateOf (createdByMinter .reFungible) rfl

def fungibleHandle : CollectionHandle reference := handleOf fungibleState 1 rfl

def refungibleHandle : CollectionHandle reference := handleOf refungibleState 1 rfl

/-- A Substrate key is cut to what the reference accounts have. -/
def convertKey (key : BitVec 256) : reference.CrossAccountId := .substrate (key.setWidth 64)

/-- One account is listed twice, but for the first time with nothing. -/
def kept : List AmountForAddress := [⟨first, 0⟩, ⟨second, 7⟩, ⟨first, 5⟩]

def keptPieces : List MintTokenData := [⟨[⟨⟨first, 0⟩, 5⟩, ⟨⟨0, 2⟩, 7⟩], []⟩]

/-- One account is listed twice. -/
def lost : List AmountForAddress := [⟨first, 5⟩, ⟨first, 7⟩]

def lostPieces : List MintTokenData := [⟨[⟨⟨first, 0⟩, 5⟩, ⟨⟨first, 0⟩, 7⟩], []⟩]

theorem bulk_mints_credit_all_kept :
    (∃ s', (mintBulk fungibleHandle minter kept).run fungibleState = .ok () s' ∧
      Fungible.CreditsAll 1 kept fungibleState s') ∧
    ∃ s', (mintBulkCross convertKey refungibleHandle minter keptPieces).run refungibleState =
        .ok () s' ∧
      Refungible.CreditsAll convertKey 1 (keptPieces.zipIdx 1) s' := by
  have hfungible := bulk_mints_credit_all_iff convertKey fungibleHandle minter
  have hrefungible := bulk_mints_credit_all_iff convertKey refungibleHandle minter
  refine ⟨⟨_, rfl, ?_⟩, ⟨_, rfl, ?_⟩⟩
  · exact (hfungible.1 kept fungibleState _ rfl).mpr (by decide)
  · exact (hrefungible.2 keptPieces refungibleState _ (reachable_stateOf _ _) rfl).mpr (by decide)

/-- Twelve are listed for the account, and seven are credited. -/
theorem bulk_mints_lose_amounts :
    (∃ s', (mintBulk fungibleHandle minter lost).run fungibleState = .ok () s' ∧
      Fungible.balanceOf s' 1 (.ethereum first) = 7 ∧
      AssocMap.listed (.ethereum first) (lost.map (AmountForAddress.entry (T := reference))) = 12 ∧
      s'.fungible.totalSupply.getD 1 0 = 7) ∧
    ∃ s', (mintBulkCross convertKey refungibleHandle minter lostPieces).run refungibleState =
        .ok () s' ∧
      Refungible.balanceOf s' (1, 1) (.ethereum first) = 7 ∧
      s'.refungible.totalSupply.get (1, 1) = some 7 :=
  ⟨⟨_, rfl, by decide⟩, ⟨_, rfl, by decide⟩⟩

end BulkMintExample

end UniqueChain
