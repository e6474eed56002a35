import UniqueChain.Runtime.Holdings

/-!
# The zero account

The zero Ethereum address is reserved and should own nothing.  Every operation
that gives something away checks its receivers for it, except the mint of
fungible tokens; and the repartition of a token without pieces gives them to
whoever asks.  These two are the only ways in which the zero account can come to
hold something.
-/

namespace UniqueChain

variable {T : Config} {s s' : State T}

/-- The call is neither a mint of a fungible token that lists the zero account
with an amount, nor a repartition by it of a token without pieces. -/
def SparesZeroAccount (s : State T) : Call T → Prop
  | .fungible _ (.createMultipleItems _ data) =>
    ∀ entry ∈ data.entries, entry.1 = T.zeroAccount → entry.2 = 0
  | .refungible collection (.repartition owner token _) =>
    owner = T.zeroAccount → Refungible.totalPieces s (collection, token) ≠ some 0
  | _ => True

/-- The zero account holds nothing. -/
def ZeroAccountEmpty (s : State T) : Prop := ∀ asset, held s T.zeroAccount asset = 0

theorem ofStorage_zeroAccountEmpty : OfStorage (ZeroAccountEmpty (T := T)) := by
  intro s s' hstorage hempty asset
  rw [held_congr hstorage]
  exact hempty asset

/-- The zero account gains nothing by a call that spares it. -/
theorem not_gain_of_sparesZeroAccount {call : Call T} {asset : Asset}
    (hempty : ZeroAccountEmpty s) (hspares : SparesZeroAccount s call) :
    ¬ Gain s call T.zeroAccount asset := by
  intro hgain
  cases hgain with
  | received hsender hreceiver hmay => exact hreceiver rfl
  | deposited hasset hcall hentry hpositive hmay =>
    subst hcall
    exact hpositive (hspares _ hentry rfl)
  | @repartitioned token amount hasset hcall hall =>
    subst hcall
    refine hspares rfl ?_
    -- all pieces of the token are none
    have hnone : Refungible.balanceOf s token T.zeroAccount = 0 := hempty (.refungible token)
    rw [hnone] at hall
    cases hpieces : Refungible.totalPieces s token with
    | none =>
      rw [hpieces] at hall
      cases hall
    | some pieces =>
      rw [hpieces] at hall
      exact congrArg some hall

theorem ChainStep.zeroAccountEmpty {call : Call T} (hempty : ZeroAccountEmpty s)
    (hspares : SparesZeroAccount s call) (hstep : ChainStep s call s') : ZeroAccountEmpty s' := by
  intro asset
  by_contra hheld
  have hgain : held s T.zeroAccount asset < held s' T.zeroAccount asset := by
    rw [hempty asset]
    exact Nat.pos_of_ne_zero hheld
  exact not_gain_of_sparesZeroAccount hempty hspares (hstep.gain hgain)

/-- In every run whose calls all spare the zero account, it owns no NFT and has
no balance of any fungible collection and no pieces of any refungible token. -/
theorem zeroAccount_owns_nothing {balances : T.Balances} {history : History T}
    (hrun : Reaches balances history s)
    (hspares : ∀ event ∈ history, SparesZeroAccount event.state event.call.call) :
    (∀ token, s.nonfungible.tokenData.get token ≠ some ⟨T.zeroAccount⟩) ∧
      (∀ token, s.refungible.balance.getD (token, T.zeroAccount) 0 = 0) ∧
      ∀ collection, s.fungible.balance.getD (collection, T.zeroAccount) 0 = 0 := by
  have hempty : ZeroAccountEmpty s := by
    refine hrun.invariant (fun s extrinsic => SparesZeroAccount s extrinsic.call)
      ofStorage_zeroAccountEmpty ?_ (fun s extrinsic s' hempty hspares hstep => ?_) hspares
    · intro asset
      cases asset <;> rfl
    · exact ChainStep.zeroAccountEmpty (s := s.setBudget extrinsic.budget)
        (ofStorage_zeroAccountEmpty State.storage_setBudget hempty) hspares hstep
  refine ⟨fun token howned => ?_, fun token => hempty (.refungible token),
    fun collection => hempty (.fungible collection)⟩
  have hnone := hempty (.nonfungible token)
  simp [held, howned] at hnone

namespace ZeroAccountExample

/-- A mint of seven units to one account. -/
def mintTo (account : ReferenceAccount) : Extrinsic reference :=
  ⟨.fungible 1 (.createMultipleItems ReferenceAccount.alice (AssocMap.empty.insert account 7)), 5⟩

def sparingRun : List (Extrinsic reference) :=
  [reference.create (.fungible 0), mintTo .bob,
    ⟨.fungible 1 (.transfer ReferenceAccount.bob ReferenceAccount.carol 3), 5⟩]

theorem zeroAccount_owns_nothing_example :
    (reference.stateOf sparingRun rfl).fungible.balance.getD (1, reference.zeroAccount) 0 = 0 ∧
      (reference.stateOf sparingRun rfl).fungible.balance.getD (1, ReferenceAccount.carol)
      0 = 3 := by
  have hmint : SparesZeroAccount (reference.stateOf (sparingRun.take 1) rfl)
      (mintTo ReferenceAccount.bob).call := by
    show ∀ entry ∈ ((AssocMap.empty.insert ReferenceAccount.bob 7).entries :
      List (ReferenceAccount × ℕ)), entry.1 = ReferenceAccount.ethereum 0 → entry.2 = 0
    decide
  have hnothing := zeroAccount_owns_nothing
    (run_replay _ (genesis reference.noBalances) sparingRun rfl)
    (List.forall_iff_forall_mem.mp ⟨trivial, hmint, trivial⟩)
  exact ⟨hnothing.2.2 1, rfl⟩

def mintingRun : List (Extrinsic reference) :=
  [reference.create (.fungible 0), mintTo reference.zeroAccount]

/-- The owner of a fungible collection mints to the zero account. -/
theorem zeroAccount_receives_mint :
    Reachable (reference.stateOf mintingRun rfl) ∧
      (reference.stateOf mintingRun rfl).fungible.balance.getD (1, reference.zeroAccount) 0 = 7 :=
  ⟨reference.reachable_stateOf mintingRun rfl, rfl⟩

end ZeroAccountExample

end UniqueChain
