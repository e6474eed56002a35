import UniqueChain.ForeignAssets.Steps
import UniqueChain.Properties.NewTokens

/-!
# Operations for accounts that are no tokens

An XCM operation gives things only to accounts that are no token addresses.  For
such a receiver the nesting rules ask only that it is not the address of a
collection, so it can be said exactly when a transfer or a mint succeeds.
-/

namespace UniqueChain

open Execution CollectionDispatch

variable {T : Config} {s s' : State T}

section Nesting

variable {sender account : T.CrossAccountId} {child : Token}

section

variable (huser : T.addressToToken account = none)

include huser

theorem nestIfSentToToken_ok_of_user :
    (nestIfSentToToken sender account child).run s = .ok () s' ↔
      isCollection (T.asEth account) = false ∧ s = s' := by
  unfold nestIfSentToToken
  simp [tryExecIfToken_ok, huser]

theorem checkNesting_ok_of_user :
    (checkNesting sender account child).run s = .ok () s' ↔
      isCollection (T.asEth account) = false ∧ s = s' := by
  unfold checkNesting
  simp [tryExecIfToken_ok, huser]

theorem nestable_of_user : Nestable s account ↔ isCollection (T.asEth account) = false := by
  unfold Nestable
  simp [huser]

end

end Nesting

variable {handle : CollectionHandle T} {depositor from' to' : T.CrossAccountId}

namespace Nonfungible

variable {token : TokenId}

theorem balanceAfterReceiving_ok_iff {start : State T} :
    (∃ balanceTo, (balanceAfterReceiving handle from' to' start).run s = .ok balanceTo s) ↔
      (from' ≠ to' → start.nonfungible.accountBalance.getD (handle.id, to') 0 + 1 ≤
        handle.collection.limits.accountTokenOwnershipLimit) := by
  unfold balanceAfterReceiving
  by_cases hsame : from' = to'
  · simp [hsame]
  · simp only [if_neg hsame, okOr_bind_ok, ensure_bind_ok, checkedAdd_eq_some, pure_ok]
    constructor
    · rintro ⟨balanceTo, _, ⟨_, rfl⟩, hlimit, _⟩ _
      exact hlimit
    · intro hlimit
      have hbelow : handle.collection.limits.accountTokenOwnershipLimit ≤ u32Max :=
        Nat.le_trans (Nat.min_le_right _ _) (by decide)
      exact ⟨_, _, ⟨Nat.le_trans (hlimit hsame) hbelow, rfl⟩, hlimit hsame, rfl, trivial⟩

/-- When a transfer to an account that is no token succeeds. -/
theorem transferInternal_succeeds_iff (huser : T.addressToToken to' = none) :
    (∃ s', (transferInternal handle depositor from' to' token).run s = .ok () s') ↔
      handle.collection.limits.transfersEnabled = true ∧
        s.nonfungible.tokenData.get (handle.id, token) = some ⟨from'⟩ ∧
        (handle.collection.permissions.access = .allowList →
          handle.allowlisted s from' = true ∧ handle.allowlisted s to' = true) ∧
        T.zeroAccount ≠ to' ∧
        1 ≤ s.nonfungible.accountBalance.getD (handle.id, from') 0 ∧
        (from' ≠ to' → s.nonfungible.accountBalance.getD (handle.id, to') 0 + 1 ≤
          handle.collection.limits.accountTokenOwnershipLimit) ∧
        isCollection (T.asEth to') = false := by
  simp only [transferInternal, ensure_bind_ok, read_bind_ok, okOr_bind_ok,
    CollectionHandle.checkAccess_bind_ok, ensureCorrectReceiver_bind_ok, checkedSub_eq_some]
  constructor
  · rintro ⟨s', henabled, item, hitem, rfl, haccess, hreceiver, _, ⟨hcounted, rfl⟩, hrun⟩
    obtain ⟨balanceTo, _, hbalance, hrun⟩ := bind_ok.mp hrun
    obtain ⟨rfl, _⟩ := balanceAfterReceiving_ok hbalance
    obtain ⟨middle, hnest, hrun⟩ := bind_unit_ok.mp hrun
    exact ⟨henabled, hitem, fun hlist => ⟨haccess hlist _ (by simp), haccess hlist _ (by simp)⟩,
      hreceiver, hcounted, balanceAfterReceiving_ok_iff.mp ⟨balanceTo, hbalance⟩,
      ((nestIfSentToToken_ok_of_user huser).mp hnest).1⟩
  · rintro ⟨henabled, hitem, haccess, hreceiver, hcounted, hlimit, hcollection⟩
    obtain ⟨balanceTo, hbalance⟩ : ∃ balanceTo,
        (balanceAfterReceiving handle from' to' s).run s = .ok balanceTo s :=
      balanceAfterReceiving_ok_iff.mpr hlimit
    obtain ⟨s', hwrites⟩ : ∃ s', (unnestIfNested from' (handle.id, token) >>= fun _ =>
        update (transferWrites handle.id from' to' token
          (s.nonfungible.accountBalance.getD (handle.id, from') 0 - 1) balanceTo)).run s =
        .ok () s' := by
      simp only [unnestIfNested_bind_ok, update_ok, exists_eq']
    have hnest : (nestIfSentToToken depositor to' (handle.id, token)).run s = .ok () s :=
      (nestIfSentToToken_ok_of_user huser).mpr ⟨hcollection, rfl⟩
    refine ⟨s', henabled, ⟨from'⟩, hitem, rfl, fun hlist user hlisted => ?_, hreceiver, _,
      ⟨hcounted, rfl⟩, bind_ok.mpr ⟨balanceTo, s, hbalance, bind_unit_ok.mpr
        ⟨s, hnest, hwrites⟩⟩⟩
    obtain ⟨hfrom, hto⟩ := haccess hlist
    rcases List.mem_pair.mp hlisted with rfl | rfl
    · exact hfrom
    · exact hto

/-- When the mint of one token without properties for such an account succeeds. -/
theorem createMultipleItems_succeeds_iff_of_user (huser : T.addressToToken to' = none) :
    (∃ s', (createMultipleItems handle depositor [⟨to', []⟩]).run s = .ok () s') ↔
      (handle.isOwnerOrAdmin s depositor = true ∨
        handle.collection.permissions.mintMode = true ∧
          handle.allowlisted s depositor = true ∧ handle.allowlisted s to' = true) ∧
        T.zeroAccount ≠ to' ∧
        s.nonfungible.tokensMinted.getD handle.id 0 + 1 ≤ u32Max ∧
        s.nonfungible.tokensMinted.getD handle.id 0 + 1 ≤ handle.collection.limits.tokenLimit ∧
        s.nonfungible.accountBalance.getD (handle.id, to') 0 + 1 ≤
          handle.collection.limits.accountTokenOwnershipLimit ∧
        isCollection (T.asEth to') = false := by
  have hcounted : (∃ balances, (mintBalances handle s [to']).run s = .ok balances s) ↔
      s.nonfungible.accountBalance.getD (handle.id, to') 0 + 1 ≤
        handle.collection.limits.accountTokenOwnershipLimit := by
    have hbelow : handle.collection.limits.accountTokenOwnershipLimit ≤ u32Max :=
      Nat.le_trans (Nat.min_le_right _ _) (by decide)
    simp only [mintBalances, countReceivers, okOr_bind_ok, ensure_bind_ok, checkedAdd_eq_some,
      pure_ok]
    constructor
    · rintro ⟨_, _, ⟨_, rfl⟩, hlimit, _⟩
      exact hlimit
    · intro hlimit
      exact ⟨_, _, ⟨Nat.le_trans hlimit hbelow, rfl⟩, hlimit, rfl, trivial⟩
  have hchecked : ∀ {s₁}, (checkEachNesting mintForm.receivers handle.id depositor
      (s.nonfungible.tokensMinted.getD handle.id 0 + 1) [⟨to', []⟩]).run s = .ok () s₁ ↔
        isCollection (T.asEth to') = false ∧ s = s₁ := by
    intro s₁
    rw [← mintCheckNesting_eq]
    simp only [mintCheckNesting, bind_unit_ok, checkNesting_ok_of_user huser, pure_ok, true_and]
    constructor
    · rintro ⟨_, ⟨hcollection, rfl⟩, rfl⟩
      exact ⟨hcollection, rfl⟩
    · rintro ⟨hcollection, rfl⟩
      exact ⟨_, ⟨hcollection, rfl⟩, rfl⟩
  rw [createMultipleItems_eq, MintForm.create_succeeds mintForm_lawful]
  constructor
  · rintro ⟨⟨⟨balances, s₁⟩, hprepared⟩, _⟩
    have hreceiver := hprepared.receivers to' (by simp)
    refine ⟨hprepared.authority.imp_right fun hlisted => ⟨hlisted.1, hlisted.2 _ (by simp),
      hlisted.2 _ (by simp)⟩, hreceiver, hprepared.width, hprepared.limit,
      hcounted.mp ⟨balances, hprepared.counted⟩, (hchecked.mp hprepared.nested).1⟩
  · rintro ⟨hauthority, hreceiver, hwidth, hlimit, howned, hcollection⟩
    obtain ⟨balances, hbalances⟩ := hcounted.mpr howned
    have hrule : (mintForm.rule handle depositor s ⟨to', []⟩).isSome = true := by
      rw [MintForm.rule, newTokenRule_nil, Option.isSome_some]
    have hprepared : mintForm.Prepared handle depositor [⟨to', []⟩] s balances s := by
      refine ⟨⟨hauthority.imp_right fun hlisted => ⟨hlisted.1, ?_⟩, ?_, ⟨[], rfl, by simp⟩, hwidth,
        hlimit⟩, hbalances, hchecked.mpr ⟨hcollection, rfl⟩⟩
      · simpa using hlisted.2
      · simpa using hreceiver
    refine ⟨⟨(balances, s), hprepared⟩, fun item hitem => ?_⟩
    rw [List.mem_singleton.mp hitem]
    exact ⟨(nestable_of_user huser).mpr hcollection, hrule⟩

end Nonfungible

namespace Fungible

variable {amount : ℕ}

/-- When the mint of one amount for such an account succeeds. -/
theorem createMultipleItems_succeeds_iff_of_user (huser : T.addressToToken to' = none)
    (hnodup : [(to', amount)].map Prod.fst |>.Nodup) :
    (∃ s', (createMultipleItems handle depositor ⟨[(to', amount)], hnodup⟩).run s = .ok () s') ↔
      (handle.isOwnerOrAdmin s depositor = true ∨
        handle.collection.permissions.mintMode = true ∧
          handle.allowlisted s depositor = true ∧ handle.allowlisted s to' = true) ∧
        s.fungible.totalSupply.getD handle.id 0 + amount ≤ u128Max ∧
        balanceOf s handle.id to' + amount ≤ u128Max ∧
        isCollection (T.asEth to') = false := by
  have hsupply : ∀ totalSupply,
      checkedSum u128Max (s.fungible.totalSupply.getD handle.id 0) [amount] = some totalSupply ↔
        s.fungible.totalSupply.getD handle.id 0 + amount ≤ u128Max ∧
          s.fungible.totalSupply.getD handle.id 0 + amount = totalSupply := by
    intro totalSupply
    simp [checkedSum, checkedAdd_eq_some]
  have hitems : ∀ items, updatedBalances s handle.id [(to', amount)] = some items ↔
      balanceOf s handle.id to' + amount ≤ u128Max ∧
        [(to', amount, balanceOf s handle.id to' + amount)] = items := by
    intro items
    simp [updatedBalances, Option.bind_eq_some_iff, checkedAdd_eq_some, balanceOf, and_assoc]
  have hnesting : ∀ {s s' : State T}, (forEach (fun account => checkNesting depositor account
      (handle.id, defaultToken)) [to']).run s = .ok () s' ↔
        isCollection (T.asEth to') = false ∧ s = s' := by
    intro s s'
    simp only [forEach_cons_ok, forEach_nil_ok, checkNesting_ok_of_user huser]
    constructor
    · rintro ⟨_, ⟨hcollection, rfl⟩, rfl⟩
      exact ⟨hcollection, rfl⟩
    · rintro ⟨hcollection, rfl⟩
      exact ⟨_, ⟨hcollection, rfl⟩, rfl⟩
  simp only [createMultipleItems, CollectionHandle.checkMintAuthority_bind_ok, read_bind_ok,
    okOr_bind_ok, AssocMap.keys, AssocMap.values, List.map_cons, List.map_nil, hsupply, hitems,
    bind_ok_of_check hnesting, update_bind_ok, List.mem_cons, List.not_mem_nil, or_false,
    forall_eq_or_imp, forall_eq]
  constructor
  · rintro ⟨s', hauthority, _, ⟨hwidth, rfl⟩, hcollection, _, ⟨hbalance, rfl⟩, _⟩
    exact ⟨hauthority, hwidth, hbalance, hcollection⟩
  · rintro ⟨hauthority, hwidth, hbalance, hcollection⟩
    have hmint : ∀ (s : State T) (balance : ℕ), ∃ s', (forEach (mintItem handle.id)
        [(to', amount, balance)]).run s = .ok () s' := by
      intro s balance
      simp only [forEach_cons_ok, forEach_nil_ok, mintItem, update_bind_ok]
      exact ⟨_, _, bind_unit_ok.mpr ⟨_, nestIfSentToTokenUnchecked_ok_iff.mpr
        ⟨(nestable_of_user huser).mpr hcollection, rfl⟩, update_ok.mpr rfl⟩, rfl⟩
    obtain ⟨s', hs'⟩ := hmint _ _
    exact ⟨s', hauthority, _, ⟨hwidth, rfl⟩, hcollection, _, ⟨hbalance, rfl⟩, hs'⟩

end Fungible

end UniqueChain
