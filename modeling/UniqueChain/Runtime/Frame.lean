import UniqueChain.Runtime.Apart

/-!
# What an operation leaves alone

An operation on a collection writes under keys of that collection, and in the
index of children to entries whose child is a token or a balance of it: nesting
makes the parent, which may belong to another collection, remember the child.

A transfer writes under the keys of the two accounts and the token it names, and
between them nothing is lost or gained.
-/

namespace UniqueChain

open Execution CollectionDispatch FiniteMap

variable {T : Config} {s s' : State T}

variable {call : Call T} {owner : T.CrossAccountId} {balance : ℕ}

/-! ## The index of children -/

section Children

variable {p : Token × Token → Prop} {before children : Children} {parent : Option Token}
  {child : Token}

section

variable (hagrees : AgreesOff p before children)

include hagrees

theorem agreesOff_addChild (hchild : ∀ under, p (under, child)) :
    AgreesOff p before (addChild parent child children) := by
  unfold addChild
  cases parent with
  | none => exact hagrees
  | some under =>
    simp only
    split
    · exact hagrees
    · exact hagrees.insert (hchild under) true

theorem agreesOff_removeChild (hchild : ∀ under, p (under, child)) :
    AgreesOff p before (removeChild parent child children) := by
  unfold removeChild
  cases parent with
  | none => exact hagrees
  | some under =>
    simp only
    split
    · exact hagrees
    · exact hagrees.erase (hchild under)

/-- Entering the children of a list one by one. -/
theorem agreesOff_foldl_addChild {ι : Type} {items : List ι} {parentOf : ι → Option Token}
    {childOf : ι → Token} (hchild : ∀ item ∈ items, ∀ under, p (under, childOf item)) :
    AgreesOff p before (items.foldl (fun children item =>
      addChild (parentOf item) (childOf item) children) children) := by
  induction items generalizing children with
  | nil => exact hagrees
  | cons item rest ih =>
    rw [List.forall_mem_cons] at hchild
    exact ih (agreesOff_addChild hagrees hchild.1) hchild.2

theorem agreesOff_debitedChildren (hchild : ∀ under, p (under, child)) :
    AgreesOff p before (debitedChildren parent child balance children) := by
  unfold debitedChildren
  split
  · exact agreesOff_removeChild hagrees hchild
  · exact hagrees

end

end Children

/-! ## Transfers

What a transfer may change, in the storage of each pallet. -/

/-- The key names the collection and one of the two accounts. -/
def NamesParty (collection : CollectionId) (from' to' : T.CrossAccountId)
    (key : CollectionId × T.CrossAccountId) : Prop :=
  key.1 = collection ∧ (key.2 = from' ∨ key.2 = to')

/-- The key names the token and one of the two accounts. -/
def NamesHolding (token : Token) (from' to' : T.CrossAccountId)
    (key : CollectionId × T.CrossAccountId × TokenId) : Prop :=
  (key.1, key.2.2) = token ∧ (key.2.1 = from' ∨ key.2.1 = to')

/-- How many of the NFT `token` the account holds: one or none. -/
def Nonfungible.holding (s : State T) (token : Token) (account : T.CrossAccountId) : ℕ :=
  (s.nonfungible.tokenData.get token).elim 0 fun item => if item.owner = account then 1 else 0

/-- An NFT has moved between the accounts, and nothing else has changed but its
allowance and index entries with it as child. -/
structure Nonfungible.MovesOnly (token : Token) (from' to' : T.CrossAccountId) (s s' : State T) :
    Prop where
  common : s'.common = s.common
  balances : s'.balances = s.balances
  unique : s'.unique = s.unique
  fungible : s'.fungible = s.fungible
  refungible : s'.refungible = s.refungible
  tokensMinted : s'.nonfungible.tokensMinted = s.nonfungible.tokensMinted
  tokensBurnt : s'.nonfungible.tokensBurnt = s.nonfungible.tokensBurnt
  tokenProperties : s'.nonfungible.tokenProperties = s.nonfungible.tokenProperties
  collectionAllowance : s'.nonfungible.collectionAllowance = s.nonfungible.collectionAllowance
  tokenAuxProperties : s'.nonfungible.tokenAuxProperties = s.nonfungible.tokenAuxProperties
  tokenData : AgreesOff (· = token) s.nonfungible.tokenData s'.nonfungible.tokenData
  owned : AgreesOff (NamesHolding token from' to') s.nonfungible.owned s'.nonfungible.owned
  accountBalance : AgreesOff (NamesParty token.1 from' to') s.nonfungible.accountBalance
    s'.nonfungible.accountBalance
  allowance : AgreesOff (· = token) s.nonfungible.allowance s'.nonfungible.allowance
  tokenChildren : AgreesOff (·.2 = token) s.nonfungible.tokenChildren s'.nonfungible.tokenChildren
  others : ∀ account, account ≠ from' → account ≠ to' →
    holding s' token account = holding s token account
  combined : holding s' token from' + holding s' token to' =
    holding s token from' + holding s token to'

/-- An amount has moved between the balances of the accounts, and nothing else has
changed but allowances and index entries with the collection's balance as child. -/
structure Fungible.MovesOnly (collection : CollectionId) (from' to' : T.CrossAccountId)
    (s s' : State T) : Prop where
  common : s'.common = s.common
  balances : s'.balances = s.balances
  unique : s'.unique = s.unique
  refungible : s'.refungible = s.refungible
  nonfungible : s'.nonfungible =
    { s.nonfungible with tokenChildren := s'.nonfungible.tokenChildren }
  totalSupply : s'.fungible.totalSupply = s.fungible.totalSupply
  balance : AgreesOff (NamesParty collection from' to') s.fungible.balance s'.fungible.balance
  allowance : AgreesOff (·.1 = collection) s.fungible.allowance s'.fungible.allowance
  tokenChildren : AgreesOff (·.2 = (collection, defaultToken)) s.nonfungible.tokenChildren
    s'.nonfungible.tokenChildren
  combined : balanceOf s' collection from' + balanceOf s' collection to' =
    balanceOf s collection from' + balanceOf s collection to'

/-- Pieces of the token have moved between the accounts, and nothing else has
changed but allowances of the token and index entries with it as child. -/
structure Refungible.MovesOnly (token : Token) (from' to' : T.CrossAccountId) (s s' : State T) :
    Prop where
  common : s'.common = s.common
  balances : s'.balances = s.balances
  unique : s'.unique = s.unique
  fungible : s'.fungible = s.fungible
  nonfungible : s'.nonfungible =
    { s.nonfungible with tokenChildren := s'.nonfungible.tokenChildren }
  tokensMinted : s'.refungible.tokensMinted = s.refungible.tokensMinted
  tokensBurnt : s'.refungible.tokensBurnt = s.refungible.tokensBurnt
  tokenProperties : s'.refungible.tokenProperties = s.refungible.tokenProperties
  totalSupply : s'.refungible.totalSupply = s.refungible.totalSupply
  collectionAllowance : s'.refungible.collectionAllowance = s.refungible.collectionAllowance
  owned : AgreesOff (NamesHolding token from' to') s.refungible.owned s'.refungible.owned
  accountBalance : AgreesOff (NamesParty token.1 from' to') s.refungible.accountBalance
    s'.refungible.accountBalance
  balance : AgreesOff (fun key => key.1 = token ∧ (key.2 = from' ∨ key.2 = to'))
    s.refungible.balance s'.refungible.balance
  allowance : AgreesOff (·.1 = token) s.refungible.allowance s'.refungible.allowance
  tokenChildren : AgreesOff (·.2 = token) s.nonfungible.tokenChildren s'.nonfungible.tokenChildren
  combined : balanceOf s' token from' + balanceOf s' token to' =
    balanceOf s token from' + balanceOf s token to'

namespace Nonfungible

variable {handle : CollectionHandle T} {depositor from' to' : T.CrossAccountId} {token : TokenId}

theorem movesOnly_transferred {parentFrom parentTo : Option Token}
    (hchecks : TransferChecks handle depositor from' to' token s) :
    MovesOnly (handle.id, token) from' to' s (s.mapNonfungible
      (transferredStorage handle.id from' to' token parentFrom parentTo)) := by
  have howned : ∀ account, holding s (handle.id, token) account =
      if from' = account then 1 else 0 := by
    intro account
    unfold holding
    rw [hchecks.owned]
    rfl
  have hmoved : ∀ account, holding (s.mapNonfungible
      (transferredStorage handle.id from' to' token parentFrom parentTo)) (handle.id, token)
        account = if to' = account then 1 else 0 := by
    intro account
    unfold holding
    simp only [State.mapNonfungible, transferredStorage, get_insert_self]
    rfl
  constructor
  case tokenData => exact .insert (.refl _) (by rfl) _
  case owned =>
    simp only [State.mapNonfungible, transferredStorage]
    split
    · exact .refl _
    · exact .insert (.erase (.refl _) ⟨rfl, .inl rfl⟩) ⟨rfl, .inr rfl⟩ true
  case accountBalance =>
    simp only [State.mapNonfungible, transferredStorage]
    split
    · exact .refl _
    · exact .insert (.putAmount (.refl _) (by exact ⟨rfl, .inl rfl⟩) _) ⟨rfl, .inr rfl⟩ _
  case allowance => exact .erase (.refl _) rfl
  case tokenChildren =>
    exact agreesOff_removeChild (agreesOff_addChild (.refl _) fun _ => rfl) fun _ => rfl
  case others =>
    intro account hfrom hto
    rw [hmoved, howned, if_neg hto.symm, if_neg hfrom.symm]
  case combined =>
    rw [hmoved, hmoved, howned, howned, if_pos rfl, if_pos rfl]
    simp only [eq_comm, add_comm]
  all_goals rfl

end Nonfungible

namespace Fungible

variable {handle : CollectionHandle T} {collection : CollectionId}
  {depositor from' to' spender : T.CrossAccountId} {amount : ℕ} {left : Option ℕ}

theorem agreesOff_storedAllowance {fungible : FungibleStorage T} :
    AgreesOff (·.1 = collection) fungible.allowance
      (storedAllowance collection from' spender left fungible).allowance := by
  cases left with
  | none => exact .refl _
  | some left => exact .putAmount (.refl _) (by rfl) left

theorem movesOnly_transferred (hchecks : TransferChecks handle depositor from' to' amount s) :
    MovesOnly handle.id from' to' s (transferredState handle.id from' to' amount s) := by
  unfold transferredState
  split
  · rename_i hmoves
    have hcovered := hchecks.covered
    constructor
    case balance =>
      exact .insert (.putAmount (.refl _) (by exact ⟨rfl, .inl rfl⟩) _) ⟨rfl, .inr rfl⟩ _
    case allowance => exact .refl _
    case tokenChildren =>
      exact agreesOff_debitedChildren (agreesOff_addChild (.refl _) fun _ => rfl) fun _ => rfl
    case combined =>
      unfold balanceOf at hcovered ⊢
      simp only [writeBalances, State.mapFungible, State.setChildren, getD_insert, getD_putAmount,
        Prod.mk.injEq, true_and, if_true, if_neg hmoves.1]
      omega
    all_goals rfl
  · constructor
    all_goals rfl

/-- Storing what is left of an allowance moves nothing. -/
theorem MovesOnly.storedAllowance (hmoves : MovesOnly collection from' to' s s') :
    MovesOnly collection from' to' s
      (s'.mapFungible (storedAllowance collection owner spender left)) where
  common := hmoves.common
  balances := hmoves.balances
  unique := hmoves.unique
  refungible := hmoves.refungible
  nonfungible := hmoves.nonfungible
  totalSupply := hmoves.totalSupply
  balance := hmoves.balance
  allowance key hkey := (agreesOff_storedAllowance key hkey).trans (hmoves.allowance key hkey)
  tokenChildren := hmoves.tokenChildren
  combined := hmoves.combined

end Fungible

namespace Refungible

variable {handle : CollectionHandle T} {token : Token}
  {depositor from' to' spender : T.CrossAccountId} {amount : ℕ} {left : Option ℕ}

theorem agreesOff_storedAllowance {refungible : RefungibleStorage T} :
    AgreesOff (·.1 = token) refungible.allowance
      (storedAllowance token.1 from' spender token.2 left refungible).allowance := by
  cases left with
  | none => exact .refl _
  | some left => exact .putAmount (.refl _) (by rfl) left

/-- A write to the ledger that leaves everything alone but the pieces the accounts
hold of the token. -/
structure HoldingsOnly (token : Token) (from' to' : T.CrossAccountId)
    (before after : RefungibleStorage T) : Prop where
  tokensMinted : after.tokensMinted = before.tokensMinted
  tokensBurnt : after.tokensBurnt = before.tokensBurnt
  tokenProperties : after.tokenProperties = before.tokenProperties
  totalSupply : after.totalSupply = before.totalSupply
  allowance : after.allowance = before.allowance
  collectionAllowance : after.collectionAllowance = before.collectionAllowance
  owned : AgreesOff (NamesHolding token from' to') before.owned after.owned
  accountBalance : AgreesOff (NamesParty token.1 from' to') before.accountBalance
    after.accountBalance
  balance : AgreesOff (fun key => key.1 = token ∧ (key.2 = from' ∨ key.2 = to'))
    before.balance after.balance

namespace HoldingsOnly

variable {before after : RefungibleStorage T} {account : T.CrossAccountId}

theorem refl (refungible : RefungibleStorage T) :
    HoldingsOnly token from' to' refungible refungible := by
  constructor
  all_goals rfl

section

variable (honly : HoldingsOnly token from' to' before after)

include honly

section

variable (haccount : account = from' ∨ account = to')

include haccount

theorem dropHolder : HoldingsOnly token from' to' before (dropHolder token account after) :=
  { honly with
    owned := honly.owned.erase ⟨rfl, haccount⟩
    accountBalance := honly.accountBalance.insert ⟨rfl, haccount⟩ _ }

theorem addHolder : HoldingsOnly token from' to' before (addHolder token account after) :=
  { honly with
    owned := honly.owned.insert ⟨rfl, haccount⟩ true
    accountBalance := honly.accountBalance.insert ⟨rfl, haccount⟩ _ }

theorem debited : HoldingsOnly token from' to' before (debited token account balance after) := by
  have hwritten : HoldingsOnly token from' to' before
      { after with balance := after.balance.putAmount (token, account) balance } :=
    { honly with balance := honly.balance.putAmount ⟨rfl, haccount⟩ _ }
  unfold Refungible.debited
  simp only
  split
  · exact hwritten.dropHolder haccount
  · exact hwritten

end

end

theorem movedPieces {balanceFrom balanceTo : ℕ} (refungible : RefungibleStorage T) :
    HoldingsOnly token from' to' refungible
      (movedPieces token from' to' balanceFrom balanceTo amount refungible) := by
  have hsent : HoldingsOnly token from' to' refungible
      (Refungible.debited token from' (balanceFrom - amount) refungible) :=
    (refl refungible).debited (.inl rfl)
  have hreceived : HoldingsOnly token from' to' refungible
      { Refungible.debited token from' (balanceFrom - amount) refungible with
        balance := (Refungible.debited token from' (balanceFrom - amount)
          refungible).balance.insert (token, to') (balanceTo + amount) } :=
    { hsent with balance := hsent.balance.insert ⟨rfl, .inr rfl⟩ _ }
  unfold Refungible.movedPieces
  simp only
  split
  · exact hreceived.addHolder (.inr rfl)
  · exact hreceived

end HoldingsOnly

theorem movesOnly_transferred {number : TokenId}
    (hchecks : TransferChecks handle depositor from' to' number amount s) :
    MovesOnly (handle.id, number) from' to' s
      (transferredState (handle.id, number) from' to' amount s) := by
  unfold transferredState
  split
  · rename_i hmoves
    have hcovered := hchecks.covered
    have honly : HoldingsOnly (handle.id, number) from' to' s.refungible
        (movedPieces (handle.id, number) from' to' (balanceOf s (handle.id, number) from')
          (balanceOf s (handle.id, number) to') amount s.refungible) := .movedPieces s.refungible
    constructor
    case tokensMinted => exact honly.tokensMinted
    case tokensBurnt => exact honly.tokensBurnt
    case tokenProperties => exact honly.tokenProperties
    case totalSupply => exact honly.totalSupply
    case collectionAllowance => exact honly.collectionAllowance
    case owned => exact honly.owned
    case accountBalance => exact honly.accountBalance
    case balance => exact honly.balance
    case allowance => exact fun key _ => congrArg (·.get key) honly.allowance
    case tokenChildren =>
      exact agreesOff_debitedChildren (agreesOff_addChild (.refl _) fun _ => rfl) fun _ => rfl
    case combined =>
      obtain ⟨owned, accountBalance, hmoved⟩ := movedPieces_eq s.refungible (handle.id, number)
        from' to' (balanceOf s (handle.id, number) from') (balanceOf s (handle.id, number) to')
        amount
      unfold balanceOf at hcovered hmoved ⊢
      simp only [writeLedger, State.mapRefungible, State.setChildren, hmoved, getD_insert,
        getD_putAmount, Prod.mk.injEq, true_and, if_true, if_neg hmoves.1]
      omega
    all_goals rfl
  · constructor
    all_goals rfl

/-- Storing what is left of an allowance moves nothing. -/
theorem MovesOnly.storedAllowance (hmoves : MovesOnly token from' to' s s') :
    MovesOnly token from' to' s
      (s'.mapRefungible (storedAllowance token.1 owner spender token.2 left)) :=
  { hmoves with
    allowance := fun key hkey =>
      (agreesOff_storedAllowance key hkey).trans (hmoves.allowance key hkey) }

end Refungible

/-! ## Other collections -/

/-- Nothing outside the collection is changed but entries of the index of children
whose child belongs to it. -/
structure TouchesOnly (collection : CollectionId) (s s' : State T) : Prop where
  common : s'.common = s.common
  balances : s'.balances = s.balances
  unique : s'.unique = s.unique
  others : ∀ other ≠ collection, s.SameAt other s'
  tokenChildren : AgreesOff (·.2.1 = collection) s.nonfungible.tokenChildren
    s'.nonfungible.tokenChildren

section Steps

variable {handle : CollectionHandle T}

/-- The index after a call has entered what accounts received from its sender, as the nesting
rules let it, and has removed entries. -/
inductive Reindexed (s : State T) (call : Call T) : Children → Prop
  | start : Reindexed s call s.nonfungible.tokenChildren
  | added {children : Children} {sender account : T.CrossAccountId} {child : Token}
      (hbefore : Reindexed s call children) (hcollection : call.collection = some child.1)
      (hgiver : call.giver = some sender) (hmay : MayReceive s sender account child) :
      Reindexed s call (addChild (nestingParent s account) child children)
  | removed {children : Children} {parent : Option Token} {child : Token}
      (hbefore : Reindexed s call children) (hcollection : call.collection = some child.1) :
      Reindexed s call (removeChild parent child children)

namespace Reindexed

variable {children : Children} {collection : CollectionId}

theorem debited {parent : Option Token} {child : Token} (hbefore : Reindexed s call children)
    (hcollection : call.collection = some child.1) :
    Reindexed s call (debitedChildren parent child balance children) := by
  unfold debitedChildren
  split
  · exact hbefore.removed hcollection
  · exact hbefore

theorem foldl_addChild {ι : Type} {items : List ι} {sender : T.CrossAccountId}
    {accountOf : ι → T.CrossAccountId} {childOf : ι → Token} (hbefore : Reindexed s call children)
    (hgiver : call.giver = some sender)
    (hitems : ∀ item ∈ items, call.collection = some (childOf item).1 ∧
      MayReceive s sender (accountOf item) (childOf item)) :
    Reindexed s call (items.foldl (fun children item =>
      addChild (nestingParent s (accountOf item)) (childOf item) children) children) := by
  induction items generalizing children with
  | nil => exact hbefore
  | cons item rest ih =>
    obtain ⟨⟨hcollection, hmay⟩, hrest⟩ := List.forall_mem_cons.mp hitems
    exact ih (hbefore.added hcollection hgiver hmay) hrest

/-- Only entries for children in the collection of the call change. -/
theorem agreesOff (hindex : Reindexed s call children) (hcall : call.collection = some collection) :
    AgreesOff (·.2.1 = collection) s.nonfungible.tokenChildren children := by
  induction hindex with
  | start => exact .refl _
  | added hbefore hcollection hgiver hmay ih =>
    exact agreesOff_addChild ih fun _ => Option.some.inj (hcollection.symm.trans hcall)
  | removed hbefore hcollection ih =>
    exact agreesOff_removeChild ih fun _ => Option.some.inj (hcollection.symm.trans hcall)

end Reindexed

theorem Nonfungible.Step.reindexed {operation : NonfungibleCall T}
    {nonfungible : NonfungibleStorage T} (hstep : Nonfungible.Step handle s operation nonfungible) :
    Reindexed s (.nonfungible handle.id operation) nonfungible.tokenChildren := by
  cases hstep with
  | createMultipleItems hchecks hkept =>
    exact Reindexed.start.foldl_addChild rfl fun item hitem =>
      ⟨rfl, hchecks.mayReceive item hitem _ (List.mem_singleton_self _)⟩
  | transfer hchecks => exact (Reindexed.start.added rfl rfl hchecks.mayReceive).removed rfl
  | transferFrom hallowed hchecks =>
    exact (Reindexed.start.added rfl rfl hchecks.mayReceive).removed rfl
  | burn hchecks => exact Reindexed.start.removed rfl
  | burnFrom hallowed hchecks => exact Reindexed.start.removed rfl
  | modifyTokenProperties happly =>
    split
    · exact .start
    · exact .start
  | _ => exact .start

theorem Fungible.Step.reindexed {operation : FungibleCall T}
    (hstep : Fungible.Step handle s operation s') :
    Reindexed s (.fungible handle.id operation) s'.nonfungible.tokenChildren := by
  have htransferred : ∀ {depositor from' to' : T.CrossAccountId} {amount : ℕ},
      Fungible.TransferChecks handle depositor from' to' amount s →
      Call.giver (.fungible handle.id operation) = some depositor →
      Reindexed s (.fungible handle.id operation)
        (Fungible.transferredState handle.id from' to' amount s).nonfungible.tokenChildren := by
    intro depositor from' to' amount hchecks hgiver
    unfold Fungible.transferredState
    split
    · rename_i hmoves
      exact (Reindexed.start.added rfl hgiver (hchecks.mayReceive hmoves)).debited rfl
    · exact .start
  cases hstep with
  | createMultipleItems hchecks =>
    exact Reindexed.start.foldl_addChild rfl fun account haccount =>
      ⟨rfl, hchecks.mayReceive account haccount⟩
  | transfer hchecks => exact htransferred hchecks rfl
  | transferFrom hallowed haccess hchecks => exact htransferred hchecks rfl
  | burn hchecks => exact Reindexed.start.debited rfl
  | burnFrom hallowed haccess hchecks => exact Reindexed.start.debited rfl
  | _ => exact .start

theorem Refungible.Step.reindexed {operation : RefungibleCall T}
    (hstep : Refungible.Step handle s operation s') :
    Reindexed s (.refungible handle.id operation) s'.nonfungible.tokenChildren := by
  have htransferred : ∀ {depositor from' to' : T.CrossAccountId} {number : TokenId} {amount : ℕ},
      Refungible.TransferChecks handle depositor from' to' number amount s →
      Call.giver (.refungible handle.id operation) = some depositor →
      Reindexed s (.refungible handle.id operation)
        (Refungible.transferredState (handle.id, number) from' to' amount
          s).nonfungible.tokenChildren := by
    intro depositor from' to' number amount hchecks hgiver
    unfold Refungible.transferredState
    split
    · rename_i hmoves
      exact (Reindexed.start.added rfl hgiver (hchecks.mayReceive hmoves)).debited rfl
    · exact .start
  have hburnt : ∀ {owner : T.CrossAccountId} {number : TokenId} {amount : ℕ},
      Reindexed s (.refungible handle.id operation)
        (Refungible.burntState (handle.id, number) owner amount s).nonfungible.tokenChildren := by
    intro owner number amount
    unfold Refungible.burntState
    simp only
    split
    · exact Reindexed.start.removed rfl
    · exact Reindexed.start.debited rfl
  cases hstep with
  | createMultipleItems hchecks hkept =>
    refine Reindexed.start.foldl_addChild rfl fun piece hpiece => ⟨rfl, ?_⟩
    obtain ⟨item, hitem, hmem⟩ := List.mem_flatMap.mp hpiece
    obtain ⟨hnumber, _, hentry⟩ := Refungible.mem_piecesOf.mp hmem
    rw [hnumber]
    exact hchecks.mayReceive item hitem _ (List.mem_map_of_mem hentry)
  | transfer hchecks => exact htransferred hchecks rfl
  | transferFrom hallowed haccess hchecks => exact htransferred hchecks rfl
  | burn hchecks => exact hburnt
  | burnFrom hallowed haccess hchecks hself => exact hburnt
  | _ => exact .start

end Steps

/-- An operation on a collection touches nothing else. -/
theorem ChainStep.touchesOnly {collection : CollectionId}
    (hcall : call.collection = some collection) (hstep : ChainStep s call s') :
    TouchesOnly collection s s' := by
  have hothers : ∀ other ≠ collection, s.SameAt other s' := by
    intro other hother
    refine hstep.sameAt (fun heq => hother (Option.some.inj (heq.symm.trans hcall))) ?_
    rintro sender rfl
    cases hcall
  cases hstep with
  | nonfungible hfound hoperation =>
    cases hcall
    exact ⟨rfl, rfl, rfl, hothers, hoperation.reindexed.agreesOff rfl⟩
  | fungible hfound hoperation =>
    cases hcall
    obtain ⟨hcommon, hbalances, hunique, _⟩ := hoperation.frame.1
    exact ⟨hcommon, hbalances, hunique, hothers, hoperation.reindexed.agreesOff rfl⟩
  | refungible hfound hoperation =>
    cases hcall
    obtain ⟨hcommon, hbalances, hunique, _⟩ := hoperation.frame.1
    exact ⟨hcommon, hbalances, hunique, hothers, hoperation.reindexed.agreesOff rfl⟩
  | _ => cases hcall

/-- A transfer, by its owner or by a spender, moves what it names and nothing else. -/
def Call.MovesOnly (s s' : State T) : Call T → Prop
  | .nonfungible collection (.transfer from' to' token) =>
    Nonfungible.MovesOnly (collection, token) from' to' s s'
  | .nonfungible collection (.transferFrom _ from' to' token) =>
    Nonfungible.MovesOnly (collection, token) from' to' s s'
  | .fungible collection (.transfer from' to' _) => Fungible.MovesOnly collection from' to' s s'
  | .fungible collection (.transferFrom _ from' to' _) =>
    Fungible.MovesOnly collection from' to' s s'
  | .refungible collection (.transfer from' to' token _) =>
    Refungible.MovesOnly (collection, token) from' to' s s'
  | .refungible collection (.transferFrom _ from' to' token _) =>
    Refungible.MovesOnly (collection, token) from' to' s s'
  | _ => True

theorem ChainStep.movesOnly (hstep : ChainStep s call s') : call.MovesOnly s s' := by
  cases hstep with
  | nonfungible hfound hoperation =>
    cases hoperation with
    | transfer hchecks => exact Nonfungible.movesOnly_transferred hchecks
    | transferFrom hallowed hchecks => exact Nonfungible.movesOnly_transferred hchecks
    | _ => trivial
  | fungible hfound hoperation =>
    cases hoperation with
    | transfer hchecks => exact Fungible.movesOnly_transferred hchecks
    | transferFrom hallowed haccess hchecks =>
      exact (Fungible.movesOnly_transferred hchecks).storedAllowance
    | _ => trivial
  | refungible hfound hoperation =>
    cases hoperation with
    | transfer hchecks => exact Refungible.movesOnly_transferred hchecks
    | transferFrom hallowed haccess hchecks =>
      exact (Refungible.movesOnly_transferred hchecks).storedAllowance
    | _ => trivial
  | _ => trivial

/-! ## Runs

What was said of `ChainStep` holds of a step, which may differ from it in events,
logs and the budget. -/

section Storage

variable {s₀ s₁ : State T}

theorem TouchesOnly.of_storage {collection : CollectionId} (hbefore : s.storage = s₀.storage)
    (hafter : s'.storage = s₁.storage) (htouches : TouchesOnly collection s₀ s₁) :
    TouchesOnly collection s s' := by
  have hothers := htouches.others
  cases s; cases s'; cases s₀; cases s₁
  simp only [State.storage, Prod.mk.injEq] at hbefore hafter
  obtain ⟨rfl, rfl, rfl, rfl, rfl, rfl⟩ := hbefore
  obtain ⟨rfl, rfl, rfl, rfl, rfl, rfl⟩ := hafter
  exact { htouches with
    others := fun other hother => { hothers other hother with } }

theorem Call.MovesOnly.of_storage (hbefore : s.storage = s₀.storage)
    (hafter : s'.storage = s₁.storage) (hmoves : call.MovesOnly s₀ s₁) : call.MovesOnly s s' := by
  cases s; cases s'; cases s₀; cases s₁
  simp only [State.storage, Prod.mk.injEq] at hbefore hafter
  obtain ⟨rfl, rfl, rfl, rfl, rfl, rfl⟩ := hbefore
  obtain ⟨rfl, rfl, rfl, rfl, rfl, rfl⟩ := hafter
  unfold Call.MovesOnly at hmoves ⊢
  split at hmoves
  · exact { hmoves with }
  · exact { hmoves with }
  · exact { hmoves with }
  · exact { hmoves with }
  · exact { hmoves with }
  · exact { hmoves with }
  · trivial

end Storage

/-- A successful operation on a collection touches nothing else, and a transfer
touches nothing but what it names. -/
theorem operation_touches_only {extrinsic : Extrinsic T} {collection : CollectionId}
    (hcall : extrinsic.call.collection = some collection) (hstep : step s extrinsic = some s') :
    TouchesOnly collection s s' ∧ extrinsic.call.MovesOnly s s' := by
  obtain ⟨s₁, hchain, hstorage⟩ := chainStep_of_step hstep
  have hbudget : s.storage = (s.setBudget extrinsic.budget).storage := rfl
  exact ⟨(hchain.touchesOnly hcall).of_storage hbudget hstorage,
    hchain.movesOnly.of_storage hbudget hstorage⟩

namespace FrameExample

open ReferenceAccount

/-- Two NFT collections; a token of the second lies under a token of the first. -/
def exampleRun : List (Extrinsic reference) :=
  [reference.createNesting, reference.create .nft,
    ⟨.nonfungible 1 (.createMultipleItems alice [⟨alice, []⟩]), 5⟩,
    ⟨.nonfungible 2 (.createMultipleItems alice [⟨reference.tokenToAddress (1, 1), []⟩]), 5⟩]

def start : State reference := reference.stateOf exampleRun rfl

/-- Its owner takes the nested token out. -/
def takeOut : Extrinsic reference :=
  ⟨.nonfungible 2 (.transferFrom alice (reference.tokenToAddress (1, 1)) bob 1), 5⟩

def finish : State reference := (step start takeOut).get rfl

/-- Of the first collection, the index entry alone has changed. -/
theorem operation_touches_only_nested :
    start.nonfungible.tokenChildren.get ((1, 1), (2, 1)) = some true ∧
      finish.nonfungible.tokenChildren.get ((1, 1), (2, 1)) = none ∧
      start.SameAt 1 finish ∧
      Nonfungible.MovesOnly (2, 1) (reference.tokenToAddress (1, 1)) bob start finish := by
  have hstep : step start takeOut = some finish := (Option.some_get _).symm
  obtain ⟨htouches, hmoves⟩ := operation_touches_only rfl hstep
  exact ⟨by decide, by decide, htouches.others 1 (by decide), hmoves⟩

end FrameExample

end UniqueChain
