import UniqueChain.Registry.Collections
import UniqueChain.Refungible.Ledger

/-!
# Who gains by a step

An account holds an NFT or not, and it holds an amount of a fungible token or of
the pieces of a refungible one; `held` counts all of these.  A step increases the
holding of an account only for one of the reasons of `Gain`: the account receives
something from the sender of a mint or of a transfer, and then the nesting rules
were checked for it; or it repartitions a refungible token of which it holds all
pieces.
-/

namespace UniqueChain

open CollectionDispatch FiniteMap

variable {T : Config} {s s' : State T}

variable {handle : CollectionHandle T} {account : T.CrossAccountId} {amount : ℕ}
  {collection other : CollectionId}

/-! ## Holdings -/

/-- Something that can be held. -/
inductive Asset where
  | nonfungible (token : Token)
  | fungible (collection : CollectionId)
  | refungible (token : Token)

/-- The token that stands for the asset in the index of children. -/
def Asset.child : Asset → Token
  | .nonfungible token => token
  | .fungible collection => (collection, Fungible.defaultToken)
  | .refungible token => token

/-- How much of the asset the account holds. -/
def held (s : State T) (account : T.CrossAccountId) : Asset → ℕ
  | .nonfungible token =>
    if (s.nonfungible.tokenData.get token).map (·.owner) = some account then 1 else 0
  | .fungible collection => s.fungible.balance.getD (collection, account) 0
  | .refungible token => s.refungible.balance.getD (token, account) 0

theorem held_congr (hstorage : s'.storage = s.storage)
    {asset : Asset} : held s' account asset = held s account asset := by
  obtain ⟨_, hnonfungible, hfungible, hrefungible, _⟩ := State.storage_eq_iff.mp hstorage
  unfold held
  rw [hnonfungible, hfungible, hrefungible]

theorem held_nonfungible_lt {token : Token} :
    held s account (.nonfungible token) < held s' account (.nonfungible token) ↔
      s.nonfungible.tokenData.get token ≠ some ⟨account⟩ ∧
        s'.nonfungible.tokenData.get token = some ⟨account⟩ := by
  have howner : ∀ item : Option (ItemData T),
      item.map (·.owner) = some account ↔ item = some ⟨account⟩ := by
    intro item
    cases item with
    | none => simp
    | some item =>
      cases item
      simp
  unfold held
  simp only [howner]
  split <;> split <;> simp_all

/-! ## Senders -/

/-- The account that sends a mint or a transfer. -/
def NonfungibleCall.giver : NonfungibleCall T → Option T.CrossAccountId
  | .createMultipleItems sender _ => some sender
  | .transfer from' _ _ => some from'
  | .transferFrom spender _ _ _ => some spender
  | _ => none

@[inherit_doc NonfungibleCall.giver]
def FungibleCall.giver : FungibleCall T → Option T.CrossAccountId
  | .createMultipleItems depositor _ => some depositor
  | .transfer from' _ _ => some from'
  | .transferFrom spender _ _ _ => some spender
  | _ => none

@[inherit_doc NonfungibleCall.giver]
def RefungibleCall.giver : RefungibleCall T → Option T.CrossAccountId
  | .createMultipleItems sender _ => some sender
  | .transfer from' _ _ _ => some from'
  | .transferFrom spender _ _ _ _ => some spender
  | _ => none

/-- The sender of a mint or a transfer of tokens. -/
def Call.giver : Call T → Option T.CrossAccountId
  | .nonfungible _ call => call.giver
  | .fungible _ call => call.giver
  | .refungible _ call => call.giver
  | _ => none

/-! ## Gains -/

/-- The reasons for which the holding of an account can increase. -/
inductive Gain (s : State T) (call : Call T) (account : T.CrossAccountId) (asset : Asset) : Prop
  | received {sender : T.CrossAccountId} (hsender : call.giver = some sender)
      (hreceiver : T.zeroAccount ≠ account) (hmay : MayReceive s sender account asset.child)
  -- a mint of a fungible token does not look at its receivers
  | deposited {collection : CollectionId} {depositor : T.CrossAccountId}
      {data : AssocMap T.CrossAccountId ℕ} {amount : ℕ}
      (hasset : asset = .fungible collection)
      (hcall : call = .fungible collection (.createMultipleItems depositor data))
      (hentry : (account, amount) ∈ data.entries) (hpositive : amount ≠ 0)
      (hmay : MayReceive s depositor account asset.child)
  | repartitioned {token : Token} {amount : ℕ} (hasset : asset = .refungible token)
      (hcall : call = .refungible token.1 (.repartition account token.2 amount))
      (hall : (Refungible.totalPieces s token).getD u128Max = Refungible.balanceOf s token account)

theorem Nonfungible.Step.gain {operation : NonfungibleCall T}
    {nonfungible : NonfungibleStorage T} (hstep : Nonfungible.Step handle s operation nonfungible)
    {token : Token} (hbefore : s.nonfungible.tokenData.get token ≠ some ⟨account⟩)
    (hafter : nonfungible.tokenData.get token = some ⟨account⟩) :
    token.1 = handle.id ∧
      Gain s (.nonfungible handle.id operation) account (.nonfungible token) := by
  have htransferred : ∀ {depositor from' to' : T.CrossAccountId} {number : TokenId},
      Nonfungible.TransferChecks handle depositor from' to' number s →
      (s.nonfungible.tokenData.insert (handle.id, number) ⟨to'⟩).get token = some ⟨account⟩ →
      operation.giver = some depositor →
      token.1 = handle.id ∧
        Gain s (.nonfungible handle.id operation) account (.nonfungible token) := by
    intro depositor from' to' number hchecks hget hsender
    by_cases htoken : token = (handle.id, number)
    · subst htoken
      rw [get_insert_self] at hget
      cases hget
      exact ⟨rfl, .received hsender hchecks.receiver hchecks.mayReceive⟩
    · rw [get_insert_of_ne _ _ htoken] at hget
      exact absurd hget hbefore
  cases hstep with
  | createMultipleItems hchecks hkept =>
    rename_i sender data tokenProperties
    rcases Nonfungible.get_mintedData_cases handle.id data
        (s.nonfungible.tokensMinted.getD handle.id 0 + 1) s.nonfungible.tokenData token
      with ⟨item, hitem, rfl, hget⟩ | ⟨_, hget⟩
    · have howner := hget.symm.trans hafter
      cases howner
      have hreceiver : item.1.owner ∈ data.flatMap mintForm.receivers :=
        List.mem_flatMap.mpr ⟨item.1, List.fst_mem_of_mem_zipIdx hitem, List.mem_singleton_self _⟩
      exact ⟨rfl, .received rfl (hchecks.receivers _ hreceiver)
        (hchecks.mayReceive item hitem _ (List.mem_singleton_self _))⟩
    · exact absurd (hget.symm.trans hafter) hbefore
  | transfer hchecks => exact htransferred hchecks hafter rfl
  | transferFrom hallowed hchecks => exact htransferred hchecks hafter rfl
  | burn hchecks =>
    simp only [Nonfungible.burntStorage] at hafter
    grind
  | burnFrom hallowed hchecks =>
    simp only [Nonfungible.burntStorage] at hafter
    grind
  | modifyTokenProperties happly =>
    split at hafter
    · exact absurd hafter hbefore
    · exact absurd hafter hbefore
  | _ => exact absurd hafter hbefore

theorem Fungible.getD_mintedBalance
    {data : AssocMap T.CrossAccountId ℕ} (hlt : s.fungible.balance.getD (other, account) 0 <
      (mintedBalance s collection data.entries s.fungible.balance).getD (other, account) 0) :
    other = collection ∧ ∃ amount, (account, amount) ∈ data.entries ∧ amount ≠ 0 := by
  have hnodup : (data.entries.map fun entry => (collection, entry.1)).Nodup := by
    have hpairs := data.nodup_keys.map (Prod.mk_right_injective collection)
    rwa [List.map_map] at hpairs
  unfold mintedBalance at hlt
  rcases s.fungible.balance.get_insertEach_cases
      (fun entry => balanceOf s collection entry.1 + entry.2) hnodup (other, account)
    with ⟨entry, hentry, hkey, hget⟩ | ⟨_, hget⟩
  · cases hkey
    rw [getD_of_get hget] at hlt
    refine ⟨rfl, entry.2, hentry, fun hzero => ?_⟩
    rw [hzero, Nat.add_zero] at hlt
    exact absurd hlt (Nat.lt_irrefl _)
  · unfold FiniteMap.getD at hlt
    rw [hget] at hlt
    exact absurd hlt (Nat.lt_irrefl _)

theorem Fungible.transferredState_gain
    {from' to' account : T.CrossAccountId} (hlt : s.fungible.balance.getD (other, account) 0 <
      (transferredState collection from' to' amount s).fungible.balance.getD (other, account) 0) :
    other = collection ∧ account = to' ∧ from' ≠ to' ∧ amount ≠ 0 := by
  unfold transferredState at hlt
  split at hlt
  · rename_i hmoves
    simp only [writeBalances, State.setChildren, State.mapFungible, balanceOf] at hlt
    grind
  · exact absurd hlt (Nat.lt_irrefl _)

theorem Fungible.Step.gain {operation : FungibleCall T}
    (hstep : Fungible.Step handle s operation s') {collection : CollectionId}
    (hlt : s.fungible.balance.getD (collection, account) 0 <
      s'.fungible.balance.getD (collection, account) 0) :
    collection = handle.id ∧
      Gain s (.fungible handle.id operation) account (.fungible collection) := by
  have htransferred : ∀ {depositor from' to' : T.CrossAccountId} {amount : ℕ},
      Fungible.TransferChecks handle depositor from' to' amount s →
      s.fungible.balance.getD (collection, account) 0 <
        (Fungible.transferredState handle.id from' to' amount s).fungible.balance.getD
          (collection, account) 0 →
      operation.giver = some depositor →
      collection = handle.id ∧
        Gain s (.fungible handle.id operation) account (.fungible collection) := by
    intro depositor from' to' amount hchecks hgain hsender
    obtain ⟨rfl, rfl, hmoves⟩ := Fungible.transferredState_gain hgain
    exact ⟨rfl, .received hsender hchecks.receiver (hchecks.mayReceive hmoves)⟩
  cases hstep with
  | createMultipleItems hchecks =>
    obtain ⟨rfl, amount, hentry, hpositive⟩ := Fungible.getD_mintedBalance hlt
    exact ⟨rfl, .deposited rfl rfl hentry hpositive
      (hchecks.mayReceive account (List.mem_map_of_mem hentry))⟩
  | transfer hchecks => exact htransferred hchecks hlt rfl
  | transferFrom hallowed haccess hchecks => exact htransferred hchecks hlt rfl
  | burn hchecks =>
    simp only [Fungible.burntState, State.setChildren, State.mapFungible,
      Fungible.balanceOf] at hlt
    grind
  | burnFrom hallowed haccess hchecks =>
    simp only [Fungible.burntState, State.setChildren, State.mapFungible,
      Fungible.storedAllowance, Fungible.balanceOf] at hlt
    grind
  | setAllowance haccess => exact absurd hlt (Nat.lt_irrefl _)
  | setAllowanceFrom haccess hmirror => exact absurd hlt (Nat.lt_irrefl _)

namespace Refungible

variable {token : Token} {account : T.CrossAccountId}

/-- An account whose balance a mint changes is listed with its token. -/
theorem exists_item_of_writeItems {collection : CollectionId}
    {items : List (CreateItemData T × TokenId)} {refungible : RefungibleStorage T}
    (hne : (writeItems collection items refungible).balance.getD (token, account) 0 ≠
      refungible.balance.getD (token, account) 0) :
    ∃ item ∈ items, token = (collection, item.2) ∧
      ∃ amount ≠ 0, (account, amount) ∈ item.1.users.entries := by
  by_contra hnone
  refine hne ?_
  unfold FiniteMap.getD
  simp only [writeItems, givePieces]
  rw [get_insertEach_of_forall_ne]
  intro piece hpiece heq
  obtain ⟨item, hitem, hmem⟩ := List.mem_flatMap.mp hpiece
  obtain ⟨hnumber, hpositive, hentry⟩ := mem_piecesOf.mp hmem
  obtain ⟨rfl, rfl⟩ := Prod.mk.inj heq
  exact hnone ⟨item, hitem, by rw [hnumber], piece.amount, hpositive, hentry⟩

theorem transferredState_gain {key : Token} {from' to' : T.CrossAccountId}
    (hlt : s.refungible.balance.getD (token, account) 0 <
      (transferredState key from' to' amount s).refungible.balance.getD (token, account) 0) :
    token = key ∧ account = to' ∧ from' ≠ to' ∧ amount ≠ 0 := by
  unfold transferredState at hlt
  split at hlt
  · rename_i hmoves
    obtain ⟨owned, accountBalance, hmoved⟩ := movedPieces_eq s.refungible key from' to'
      (balanceOf s key from') (balanceOf s key to') amount
    simp only [writeLedger, State.setChildren, State.mapRefungible, hmoved] at hlt
    unfold balanceOf at hlt
    grind
  · exact absurd hlt (Nat.lt_irrefl _)

theorem balance_burntState_le {key : Token} {owner : T.CrossAccountId} :
    (burntState key owner amount s).refungible.balance.getD (token, account) 0 ≤
      s.refungible.balance.getD (token, account) 0 := by
  unfold burntState
  simp only
  split
  · simp only [writeLedger, State.setChildren, State.mapRefungible, burntToken]
    grind
  · obtain ⟨owned, accountBalance, hdebited⟩ :=
      debited_eq s.refungible key owner (balanceOf s key owner - amount)
    simp only [writeLedger, State.setChildren, State.mapRefungible, hdebited]
    unfold balanceOf
    grind

theorem Step.gain {operation : RefungibleCall T} (hstep : Step handle s operation s')
    (hlt : s.refungible.balance.getD (token, account) 0 <
      s'.refungible.balance.getD (token, account) 0) :
    token.1 = handle.id ∧
      Gain s (.refungible handle.id operation) account (.refungible token) := by
  have htransferred : ∀ {depositor from' to' : T.CrossAccountId} {number : TokenId} {amount : ℕ},
      TransferChecks handle depositor from' to' number amount s →
      s.refungible.balance.getD (token, account) 0 <
        (transferredState (handle.id, number) from' to' amount s).refungible.balance.getD
          (token, account) 0 →
      operation.giver = some depositor →
      token.1 = handle.id ∧
        Gain s (.refungible handle.id operation) account (.refungible token) := by
    intro depositor from' to' number amount hchecks hgain hsender
    obtain ⟨rfl, rfl, hmoves⟩ := transferredState_gain hgain
    exact ⟨rfl, .received hsender hchecks.receiver (hchecks.mayReceive hmoves)⟩
  cases hstep with
  | createMultipleItems hchecks hkept =>
    obtain ⟨item, hitem, rfl, amount, _, hentry⟩ :=
      exists_item_of_writeItems (Nat.ne_of_lt hlt).symm
    have hkey : account ∈ item.1.users.keys := List.mem_map_of_mem hentry
    exact ⟨rfl, .received rfl (hchecks.receivers account
        (List.mem_flatMap.mpr ⟨item.1, List.fst_mem_of_mem_zipIdx hitem, hkey⟩))
      (hchecks.mayReceive item hitem account hkey)⟩
  | transfer hchecks => exact htransferred hchecks hlt rfl
  | transferFrom hallowed haccess hchecks => exact htransferred hchecks hlt rfl
  | burn hchecks => exact absurd hlt (Nat.not_lt_of_le balance_burntState_le)
  | burnFrom hallowed haccess hchecks hself =>
    exact absurd hlt (Nat.not_lt_of_le balance_burntState_le)
  | repartition hmax hpos hall =>
    rename_i owner number amount
    simp only [repartitionedState, State.mapRefungible] at hlt
    by_cases hkey : (token, account) = ((handle.id, number), owner)
    · obtain ⟨rfl, rfl⟩ := Prod.mk.inj hkey
      exact ⟨rfl, .repartitioned rfl rfl hall⟩
    · rw [getD_insert, if_neg hkey] at hlt
      exact absurd hlt (Nat.lt_irrefl _)
  | _ => exact absurd hlt (Nat.lt_irrefl _)

end Refungible

/-! ## Assets of existing collections -/

/-- The asset belongs to an existing collection of its kind. -/
def Asset.Registered (s : State T) : Asset → Prop
  | .nonfungible token => ∃ handle, dispatch s token.1 = some (.nonfungible handle)
  | .fungible collection => ∃ handle, dispatch s collection = some (.fungible handle)
  | .refungible token => ∃ handle, dispatch s token.1 = some (.refungible handle)

/-- Whose holding increases by a call has gained for one of the reasons, and the
asset belongs to an existing collection. -/
theorem ChainStep.registered_and_gain {call : Call T} (hstep : ChainStep s call s') {asset : Asset}
    (hlt : held s account asset < held s' account asset) :
    asset.Registered s ∧ Gain s call account asset := by
  cases asset with
  | nonfungible token =>
    obtain ⟨hbefore, hafter⟩ := held_nonfungible_lt.mp hlt
    have hstorage := hstep.pallets.nonfungible
    generalize s'.nonfungible = nonfungible at hafter hstorage
    cases hstorage with
    | operation hcall hfound hoperation =>
      subst hcall
      obtain ⟨hcollection, hgain⟩ := hoperation.gain hbefore hafter
      exact ⟨⟨_, hcollection ▸ hfound⟩, hgain⟩
    | cleared hempty =>
      simp only [Nonfungible.clearCollection] at hafter
      grind
    | children => exact absurd hafter hbefore
  | fungible collection =>
    have hstorage := hstep.pallets.fungible
    simp only [held] at hlt
    generalize s'.fungible = fungible at hlt hstorage
    cases hstorage with
    | operation hcall hfound hoperation =>
      subst hcall
      obtain ⟨hcollection, hgain⟩ := hoperation.gain hlt
      exact ⟨⟨_, hcollection ▸ hfound⟩, hgain⟩
    | cleared hempty =>
      simp only [Fungible.clearCollection] at hlt
      grind
    | unchanged => exact absurd hlt (Nat.lt_irrefl _)
  | refungible token =>
    have hstorage := hstep.pallets.refungible
    simp only [held] at hlt
    generalize s'.refungible = refungible at hlt hstorage
    cases hstorage with
    | operation hcall hfound hoperation =>
      subst hcall
      obtain ⟨hcollection, hgain⟩ := hoperation.gain hlt
      exact ⟨⟨_, hcollection ▸ hfound⟩, hgain⟩
    | cleared hempty =>
      simp only [Refungible.clearCollection] at hlt
      grind
    | unchanged => exact absurd hlt (Nat.lt_irrefl _)

/-- Whose holding increases by a call has gained for one of the reasons. -/
theorem ChainStep.gain {call : Call T} (hstep : ChainStep s call s') {asset : Asset}
    (hlt : held s account asset < held s' account asset) : Gain s call account asset :=
  (hstep.registered_and_gain hlt).2

end UniqueChain
