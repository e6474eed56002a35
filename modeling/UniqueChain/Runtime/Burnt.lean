import UniqueChain.Refungible.Holders
import UniqueChain.Runtime.Tokens

/-!
# Burnt tokens

A burnt token does not come back: its number was given out, and numbers are not
given out again (`Gone`).  Everything else that is stored of a token hangs on its
existence, so a token that is gone has left nothing behind, in the state after the
burn and in all later ones.

The exception is `burn_from` on the last pieces of a refungible token.  It deletes
the token with all allowances and then stores what is left of the allowance it was
made with.
-/

namespace UniqueChain

open CollectionDispatch FiniteMap

variable {T : Config} {s s' : State T} {call : Call T} {token : Token} {view : TokenView T}

variable {history : History T} {balances : T.Balances} {event : CallRecord (State T) (Extrinsic T)}

/-! ## Tokens that are gone -/

/-- The number of the token was given out, and the token does not exist. -/
structure Gone (view : TokenView T) (token : Token) (s : State T) : Prop where
  registered : token.1 ≤ s.common.createdCollectionCount
  numbered : CollectionExists s token.1 → token.2 ≤ view.minted s token.1
  gone : ¬ view.Exists s token

theorem Gone.ofStorage : OfStorage (Gone view token) := by
  intro s s' hstorage hgone
  obtain ⟨hexists, hminted, _⟩ := view.ofStorage hstorage
  have hcommon := (State.storage_eq_iff.mp hstorage).1
  refine ⟨?_, ?_, ?_⟩
  · rw [hcommon]
    exact hgone.registered
  · unfold CollectionExists
    rw [hcommon, hminted]
    exact hgone.numbered
  · rw [hexists]
    exact hgone.gone

/-- The number of a token that was given out stays below the counter. -/
theorem TokensStep.numbered (hstep : ChainStep s call s') (htokens : TokensStep view s s')
    (hregistered : token.1 ≤ s.common.createdCollectionCount)
    (hnumbered : CollectionExists s token.1 → token.2 ≤ view.minted s token.1)
    (hexists : CollectionExists s' token.1) : token.2 ≤ view.minted s' token.1 :=
  Nat.le_trans (hnumbered (hstep.pallets.common.existed hregistered hexists))
    (htokens.minted_le token.1 hexists)

theorem Gone.step (hgone : Gone view token s) (hstep : ChainStep s call s')
    (htokens : TokensStep view s s') : Gone view token s' where
  registered := Nat.le_trans hgone.registered hstep.pallets.common.createdCollectionCount_le
  numbered := htokens.numbered hstep hgone.registered hgone.numbered
  gone hexists := by
    rcases htokens.traced token hexists with ⟨hexisted, _⟩ | ⟨hcollection, hnew⟩
    · exact hgone.gone hexisted
    · exact absurd (Nat.lt_of_lt_of_le hnew (hgone.numbered hcollection)) (Nat.lt_irrefl _)

/-- A step that ends the existence of a token. -/
theorem Gone.of_step (hstep : ChainStep s call s') (htokens : TokensStep view s s')
    (hregistered : token.1 ≤ s.common.createdCollectionCount)
    (hnumbered : token.2 ≤ view.minted s token.1) (hgone : ¬ view.Exists s' token) :
    Gone view token s' where
  registered := Nat.le_trans hregistered hstep.pallets.common.createdCollectionCount_le
  numbered := htokens.numbered hstep hregistered fun _ => hnumbered
  gone := hgone

/-- A token that a call of a run has ended is gone at the end of the run. -/
theorem gone_of_reaches
    (htokens : ∀ s (call : Call T) s' budget, Reachable s → ChainStep (s.setBudget budget) call s' →
      TokensStep view (s.setBudget budget) s')
    (hmade : ∀ s', Reachable event.state →
      ChainStep (event.state.setBudget event.call.budget) event.call.call s' → Gone view token s')
    (hrun : Reaches balances history s) (hevent : event ∈ history) : Gone view token s := by
  refine Run.since (fun earlier s' hearlier hstep => ?_)
    (fun earlier s extrinsic s' hearlier hgone hstep => ?_) hrun hevent
  · obtain ⟨s₁, hchain, hsame⟩ := chainStep_of_step hstep
    exact Gone.ofStorage hsame (hmade s₁ ⟨balances, earlier, hearlier⟩ hchain)
  · obtain ⟨s₁, hchain, hsame⟩ := chainStep_of_step hstep
    have hbefore : Gone view token (s.setBudget extrinsic.budget) :=
      Gone.ofStorage State.storage_setBudget hgone
    exact Gone.ofStorage hsame
      (hbefore.step hchain (htokens _ _ _ _ ⟨balances, earlier, hearlier⟩ hchain))

/-! ## Non-fungible tokens -/

namespace Nonfungible

/-- The call burns the token. -/
inductive Burns (token : Token) : Call T → Prop
  | burn {sender : T.CrossAccountId} : Burns token (.nonfungible token.1 (.burn sender token.2))
  | burnFrom {spender from' : T.CrossAccountId} :
      Burns token (.nonfungible token.1 (.burnFrom spender from' token.2))

/-- Nothing is stored of the token. -/
structure NoResidue (token : Token) (nonfungible : NonfungibleStorage T) : Prop where
  tokenData : nonfungible.tokenData.get token = none
  owned : ∀ account, nonfungible.owned.get (token.1, account, token.2) = none
  allowance : nonfungible.allowance.get token = none
  tokenProperties : nonfungible.tokenProperties.get token = none
  tokenAuxProperties : ∀ key, nonfungible.tokenAuxProperties.get (token, key) = none

theorem burnt_of_chainStep (hburns : Burns token call) (hstep : ChainStep s call s') :
    CollectionExists s token.1 ∧ s.nonfungible.tokenData.get token ≠ none ∧
      s'.nonfungible.tokenData.get token = none := by
  obtain ⟨collection, number⟩ := token
  cases hburns with
  | burn =>
    cases hstep with
    | nonfungible hfound hoperation =>
      cases hoperation with
      | burn hchecks =>
        refine ⟨.of_nonfungible hfound, ?_, get_erase_self _ _⟩
        rw [hchecks.owned]
        exact Option.some_ne_none _
  | burnFrom =>
    cases hstep with
    | nonfungible hfound hoperation =>
      cases hoperation with
      | burnFrom hallowed hchecks =>
        refine ⟨.of_nonfungible hfound, ?_, get_erase_self _ _⟩
        rw [hchecks.owned]
        exact Option.some_ne_none _

/-- Nothing writes to the auxiliary properties. -/
def NoAuxProperties (nonfungible : NonfungibleStorage T) : Prop :=
  ∀ key, nonfungible.tokenAuxProperties.get key = none

theorem StorageStep.noAuxProperties {nonfungible : NonfungibleStorage T}
    (hnone : NoAuxProperties s.nonfungible) (hstep : StorageStep s call nonfungible) :
    NoAuxProperties nonfungible := by
  have hburnt : ∀ {collection number owner parent}, NoAuxProperties
      (burntStorage collection number owner parent s.nonfungible) := by
    intro collection number owner parent key
    simp only [burntStorage, get_eraseWhere, hnone key, ite_self]
  cases hstep with
  | operation hcall hfound hoperation =>
    cases hoperation with
    | burn hchecks => exact hburnt
    | burnFrom hallowed hchecks => exact hburnt
    | modifyTokenProperties happly =>
      split
      · exact hnone
      · exact hnone
    | _ => exact hnone
  | cleared hempty => exact hnone
  | children => exact hnone

theorem noAuxProperties_of_reachable (hreachable : Reachable s) : NoAuxProperties s.nonfungible :=
  hreachable.invariant (OfStorage.nonfungible NoAuxProperties) (fun _ _ => rfl)
    fun _ _ _ hnone hstep => hstep.pallets.nonfungible.noAuxProperties hnone

theorem noResidue_of_gone (hreachable : Reachable s) (hgone : Gone tokenView token s) :
    NoResidue token s.nonfungible := by
  have hledger := ledger_of_reachable hreachable
  have hdata : s.nonfungible.tokenData.get token = none := not_not.mp hgone.gone
  refine ⟨hdata, fun account => ?_, ?_, ?_, fun key => noAuxProperties_of_reachable hreachable _⟩
  · by_contra howned
    rw [(hledger.owned _ _ _).mp howned] at hdata
    cases hdata
  · by_contra happroved
    exact hledger.approved token happroved hdata
  · by_contra hdescribed
    exact hledger.described token hdescribed hdata

theorem gone_of_burns (hrun : Reaches balances history s)
    (hevent : event ∈ history) (hburns : Burns token event.call.call) : Gone tokenView token s := by
  refine gone_of_reaches (fun _ _ _ _ _ hstep => tokensStep_of_chainStep hstep)
    (fun s' hreachable hstep => ?_) hrun hevent
  obtain ⟨hcollection, hexists, hgone⟩ := burnt_of_chainStep hburns hstep
  exact .of_step hstep (tokensStep_of_chainStep hstep)
    (registered_of_reachable hreachable _ hcollection)
    ((ledger_of_reachable hreachable).numbered _ _ hexists).2 (not_not.mpr hgone)

end Nonfungible

/-! ## Refungible tokens -/

namespace Refungible

/-- The call burns all pieces of the token. -/
inductive BurnsAll (token : Token) (refungible : RefungibleStorage T) : Call T → Prop
  | burn {owner : T.CrossAccountId} {amount : ℕ}
      (hall : amount = refungible.totalSupply.getD token 0) :
      BurnsAll token refungible (.refungible token.1 (.burn owner token.2 amount))
  | burnFrom {spender from' : T.CrossAccountId} {amount : ℕ}
      (hall : amount = refungible.totalSupply.getD token 0) :
      BurnsAll token refungible (.refungible token.1 (.burnFrom spender from' token.2 amount))

/-- Nothing is stored of the token. -/
structure NoResidue (token : Token) (refungible : RefungibleStorage T) : Prop where
  totalSupply : refungible.totalSupply.get token = none
  balance : ∀ account, refungible.balance.get (token, account) = none
  owned : ∀ account, refungible.owned.get (token.1, account, token.2) = none
  allowance : ∀ accounts, refungible.allowance.get (token, accounts) = none
  tokenProperties : refungible.tokenProperties.get token = none

theorem get_totalSupply_burntAll {owner : T.CrossAccountId} {amount : ℕ}
    (hall : amount = s.refungible.totalSupply.getD token 0) :
    (burntState token owner amount s).refungible.totalSupply.get token = none := by
  unfold burntState
  simp only [← hall, Nat.sub_self, if_true, writeLedger, State.setChildren, State.mapRefungible,
    burntToken, get_erase_self]

theorem burnt_of_chainStep (hledger : Ledger s.refungible)
    (hburns : BurnsAll token s.refungible call) (hstep : ChainStep s call s') :
    CollectionExists s token.1 ∧ s.refungible.totalSupply.get token ≠ none ∧
      s'.refungible.totalSupply.get token = none := by
  obtain ⟨collection, number⟩ := token
  cases hburns with
  | burn hall =>
    cases hstep with
    | refungible hfound hoperation =>
      cases hoperation with
      | burn hchecks =>
        obtain ⟨supply, hsupply⟩ := hledger.exists_of_balance hchecks.holds
        exact ⟨.of_refungible hfound, hsupply ▸ Option.some_ne_none _,
          get_totalSupply_burntAll hall⟩
  | burnFrom hall =>
    cases hstep with
    | refungible hfound hoperation =>
      cases hoperation with
      | burnFrom hallowed haccess hchecks hself =>
        obtain ⟨supply, hsupply⟩ := hledger.exists_of_balance hchecks.holds
        exact ⟨.of_refungible hfound, hsupply ▸ Option.some_ne_none _,
          get_totalSupply_burntAll hall⟩

theorem noResidue_of_gone (hreachable : Reachable s) (happroved : ApprovedExist s.refungible)
    (hgone : Gone tokenView token s) : NoResidue token s.refungible := by
  have hledger := ledger_of_reachable hreachable
  have hsupply : s.refungible.totalSupply.get token = none := not_not.mp hgone.gone
  have hbalance : ∀ account, s.refungible.balance.get (token, account) = none := by
    intro account
    by_contra hheld
    exact hledger.held (token, account) hheld hsupply
  refine ⟨hsupply, hbalance, fun account => ?_, fun accounts => ?_, ?_⟩
  · by_contra hlisted
    exact listedHold_of_reachable hreachable _ _ _ hlisted (hbalance account)
  · by_contra hallowance
    exact happroved (token, accounts) hallowance hsupply
  · by_contra hdescribed
    exact hledger.described token hdescribed hsupply

theorem gone_of_burnsAll (hrun : Reaches balances history s)
    (hevent : event ∈ history) (hburns : BurnsAll token event.state.refungible event.call.call) :
    Gone tokenView token s := by
  refine gone_of_reaches
    (fun s _ _ budget hreachable hstep => ?_) (fun s' hreachable hstep => ?_) hrun hevent
  · have hledger := ledger_of_reachable hreachable
    exact tokensStep_of_chainStep (s := s.setBudget budget) hledger hstep
  have hledger := ledger_of_reachable hreachable
  obtain ⟨hcollection, hexists, hgone⟩ :=
    burnt_of_chainStep (s := event.state.setBudget event.call.budget) hledger hburns hstep
  exact .of_step hstep
    (tokensStep_of_chainStep (s := event.state.setBudget event.call.budget) hledger hstep)
    (registered_of_reachable hreachable _ hcollection)
    (hledger.numbered _ _ hexists).2 (not_not.mpr hgone)

end Refungible

/-- A burnt token leaves nothing behind, in the state after the burn and in every
later one, in each run in which burns of the last pieces of a refungible token use
up the allowance they are made with. -/
theorem burnt_token_leaves_nothing {balances : T.Balances} {history : History T}
    {event : CallRecord (State T) (Extrinsic T)} (hrun : Reaches balances history s)
    (hused : ∀ event ∈ history, Refungible.UsesUpAllowance event.state event.call.call)
    (hevent : event ∈ history) (token : Token) :
    (Nonfungible.Burns token event.call.call → Nonfungible.NoResidue token s.nonfungible) ∧
      (Refungible.BurnsAll token event.state.refungible event.call.call →
        Refungible.NoResidue token s.refungible) := by
  have hreachable : Reachable s := ⟨balances, history, hrun⟩
  refine ⟨fun hburns => ?_, fun hburns => ?_⟩
  · exact Nonfungible.noResidue_of_gone hreachable
      (Nonfungible.gone_of_burns hrun hevent hburns)
  · exact Refungible.noResidue_of_gone hreachable
      (Refungible.approvedExist_of_reaches hrun hused)
      (Refungible.gone_of_burnsAll hrun hevent hburns)

namespace BurntExample

/-- Pieces of a token that another account may spend, up to the given amount. -/
def approved (amount : ℕ) : List (Extrinsic reference) :=
  [reference.create .reFungible,
    ⟨.refungible 1 (.createMultipleItems .alice [⟨⟨[(.alice, 100)], by decide⟩, []⟩]), 5⟩,
    ⟨.refungible 1 (.setAllowance .alice .bob 1 amount), 5⟩]

def spent : List (Extrinsic reference) :=
  approved 100 ++ [⟨.refungible 1 (.burnFrom .bob .alice 1 100), 5⟩]

/-- The holder burns half of the pieces before the other account burns the rest. -/
def outlived : List (Extrinsic reference) :=
  approved 100 ++ [⟨.refungible 1 (.burn .alice 1 50), 5⟩,
    ⟨.refungible 1 (.burnFrom .bob .alice 1 50), 5⟩]

end BurntExample

open BurntExample in
theorem burnt_token_leaves_nothing_spent :
    ∃ event ∈ reference.historyOf spent rfl,
      Refungible.BurnsAll (1, 1) event.state.refungible event.call.call ∧
        Refungible.NoResidue (1, 1) (reference.stateOf spent rfl).refungible := by
  have hevent : ∃ event ∈ reference.historyOf spent rfl,
      Refungible.BurnsAll (1, 1) event.state.refungible event.call.call :=
    ⟨_, List.mem_cons_self .., .burnFrom rfl⟩
  obtain ⟨event, hmem, hburns⟩ := hevent
  refine ⟨event, hmem, hburns, (burnt_token_leaves_nothing (run_replay _ _ spent rfl)
    ?_ hmem (1, 1)).2 hburns⟩
  refine List.forall_mem_cons.mpr ⟨fun _ => .inr (by decide), ?_⟩
  refine List.forall_mem_cons.mpr ⟨trivial, List.forall_mem_cons.mpr ⟨trivial, ?_⟩⟩
  exact List.forall_mem_cons.mpr ⟨trivial, fun _ hnone => nomatch hnone⟩

open BurntExample in
theorem burnt_token_leaves_allowance :
    ∃ history s, Reaches reference.noBalances history s ∧
      (∃ event ∈ history, Refungible.BurnsAll (1, 1) event.state.refungible event.call.call) ∧
      s.refungible.totalSupply.get (1, 1) = none ∧
      s.refungible.allowance.get ((1, 1), ReferenceAccount.alice, ReferenceAccount.bob) = some 50 :=
  ⟨_, _, run_replay _ _ outlived rfl, ⟨_, List.mem_cons_self .., .burnFrom rfl⟩, rfl, rfl⟩

end UniqueChain
