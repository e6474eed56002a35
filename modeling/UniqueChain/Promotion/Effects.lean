import UniqueChain.Model.AppPromotion

/-!
# What staking and unstaking do

For every operation of the app promotion pallet but the payout: what it requires,
and what it writes to the stakes, the counters, the pending amounts and the
freezes.  Later proofs read these and do not look at the code again.
-/

namespace UniqueChain.AppPromotion

open Execution

variable {T : Config} {s s' : State T} {env : Environment} {stakerId : T.AccountId} {amount : ℕ}

/-- The amount an account has frozen. -/
def frozenOf (s : State T) (account : T.AccountId) : ℕ := T.currency.frozen s.ledger account

/-- The total of the stakes of an account. -/
def stakedBy (staked : FiniteMap (Key T) Stake) (account : T.AccountId) : ℕ :=
  staked.sum fun key stake => if key.1 = account then stake.amount else 0

/-- The part of a list of pending amounts that belongs to an account. -/
def pendingIn (pendings : List (T.AccountId × ℕ)) (account : T.AccountId) : ℕ :=
  (pendings.map fun pending => if pending.1 = account then pending.2 else 0).sum

/-- The total of what an account has pending. -/
def pendingOf (pendingUnstake : FiniteMap ℕ (List (T.AccountId × ℕ))) (account : T.AccountId) : ℕ :=
  pendingUnstake.sum fun _ pendings => pendingIn pendings account

theorem sum_stakesOf (s : State T) (stakerId : T.AccountId) :
    ((stakesOf s stakerId).map fun stake => stake.2.amount).sum = stakedBy s.staked stakerId :=
  s.staked.sum_prefixEntries stakerId Stake.amount

/-! ## Freezes -/

theorem getD_getFrozenBalance (s : State T) (account : T.AccountId) :
    (getFrozenBalance s account).getD 0 = frozenOf s account := by
  unfold getFrozenBalance frozenOf
  by_cases hzero : T.currency.frozen s.ledger account = 0
  · simp [hzero]
  · simp [hzero]

theorem frozenOf_setFreezeWithResult (account other : T.AccountId) (amount : ℕ) (s : State T) :
    frozenOf (setFreezeWithResult account amount s) other =
      if other = account then amount else frozenOf s other := by
  unfold frozenOf setFreezeWithResult
  by_cases hzero : amount = 0
  · simp only [if_pos hzero, T.currency.thaw_frozen, Function.update_apply]
    rw [hzero]
  · simp only [if_neg hzero, T.currency.setFreeze_frozen, Function.update_apply]

theorem addFreezeBalance_ok :
    (addFreezeBalance stakerId amount).run s = .ok () s' ↔
      frozenOf s stakerId + amount ≤ u128Max ∧
        s' = setFreezeWithResult stakerId (frozenOf s stakerId + amount) s := by
  simp only [addFreezeBalance, getD_getFrozenBalance, read_bind_ok, okOr_bind_ok, update_ok,
    checkedAdd_eq_some]
  constructor
  · rintro ⟨freeze, ⟨hle, rfl⟩, rfl⟩
    exact ⟨hle, rfl⟩
  · rintro ⟨hle, rfl⟩
    exact ⟨_, ⟨hle, rfl⟩, rfl⟩

/-- A pending amount is taken out of the freeze of its account. -/
theorem frozenOf_releasePending (s : State T) (pending : T.AccountId × ℕ) (other : T.AccountId) :
    frozenOf (releasePending s pending) other =
      frozenOf s other - if other = pending.1 then pending.2 else 0 := by
  have hfrozen := getD_getFrozenBalance s pending.1
  unfold releasePending
  cases hget : getFrozenBalance s pending.1 with
  | none =>
    rw [hget] at hfrozen
    by_cases hother : other = pending.1
    · rw [if_pos hother, hother, ← hfrozen]
      simp
    · simp [hother]
  | some frozen =>
    rw [hget] at hfrozen
    simp only [Option.getD_some] at hfrozen
    rw [frozenOf_setFreezeWithResult]
    by_cases hother : other = pending.1
    · rw [if_pos hother, if_pos hother, hother, ← hfrozen]
      unfold checkedSub
      by_cases hle : pending.2 ≤ frozen
      · simp [hle]
      · simp only [if_neg hle, Option.getD_none]
        omega
    · simp [hother]

/-- Everything but the ledger. -/
structure SameRecords (s s' : State T) : Prop where
  totalStaked : s'.totalStaked = s.totalStaked
  admin : s'.admin = s.admin
  staked : s'.staked = s.staked
  stakesPerAccount : s'.stakesPerAccount = s.stakesPerAccount
  pendingUnstake : s'.pendingUnstake = s.pendingUnstake
  previousCalculatedRecord : s'.previousCalculatedRecord = s.previousCalculatedRecord

theorem SameRecords.refl : SameRecords s s := ⟨rfl, rfl, rfl, rfl, rfl, rfl⟩

theorem sameRecords_setFreezeWithResult : SameRecords s (setFreezeWithResult stakerId amount s) :=
  ⟨rfl, rfl, rfl, rfl, rfl, rfl⟩

theorem SameRecords.trans {middle : State T} (hfirst : SameRecords s middle)
    (hsecond : SameRecords middle s') : SameRecords s s' :=
  ⟨hsecond.totalStaked.trans hfirst.totalStaked, hsecond.admin.trans hfirst.admin,
    hsecond.staked.trans hfirst.staked, hsecond.stakesPerAccount.trans hfirst.stakesPerAccount,
    hsecond.pendingUnstake.trans hfirst.pendingUnstake,
    hsecond.previousCalculatedRecord.trans hfirst.previousCalculatedRecord⟩

theorem sameRecords_releasePending (pending : T.AccountId × ℕ) :
    SameRecords s (releasePending s pending) := by
  unfold releasePending
  split
  · exact sameRecords_setFreezeWithResult
  · exact .refl

/-- A list of pending amounts is taken out of the freezes. -/
theorem foldl_releasePending (s : State T) (pendings : List (T.AccountId × ℕ)) :
    SameRecords s (pendings.foldl releasePending s) ∧
      ∀ account, frozenOf (pendings.foldl releasePending s) account =
        frozenOf s account - pendingIn pendings account := by
  induction pendings generalizing s with
  | nil => exact ⟨.refl, fun account => by simp [pendingIn]⟩
  | cons pending rest ih =>
    obtain ⟨hrecords, hfrozen⟩ := ih (releasePending s pending)
    refine ⟨(sameRecords_releasePending pending).trans hrecords, fun account => ?_⟩
    rw [List.foldl_cons, hfrozen, frozenOf_releasePending]
    simp only [pendingIn, List.map_cons, List.sum_cons, eq_comm (a := account)]
    omega

/-! ## Staking -/

/-- The relay block from which on a stake made at the given relay block earns. -/
def firstRecalcBlock (config : PalletConfiguration) (relayBlock : ℕ) : ℕ :=
  wrapBlock ((relayBlock / config.recalculationInterval +
    if relayBlock % config.recalculationInterval = 0 then 1 else 2) *
      config.recalculationInterval)

/-- What a stake requires and does. -/
structure Staked (env : Environment) (stakerId : T.AccountId) (amount : ℕ)
    (s s' : State T) : Prop where
  count_lt : s.stakesPerAccount.getD stakerId 0 < 10
  amount_pos : 0 < amount
  interval_ne_zero : env.config.recalculationInterval ≠ 0
  frozen_le : frozenOf s stakerId + amount ≤ u128Max
  totalStaked : s'.totalStaked = s.totalStaked + amount
  staked : s'.staked = s.staked.insert (stakerId, env.relayBlock)
    ⟨(s.staked.getD (stakerId, env.relayBlock) ⟨0, 0⟩).amount + amount,
      firstRecalcBlock env.config env.relayBlock⟩
  stakesPerAccount : s'.stakesPerAccount =
    s.stakesPerAccount.insert stakerId (s.stakesPerAccount.getD stakerId 0 + 1)
  pendingUnstake : s'.pendingUnstake = s.pendingUnstake
  previousCalculatedRecord : s'.previousCalculatedRecord = s.previousCalculatedRecord
  frozen : ∀ account, frozenOf s' account =
    frozenOf s account + if account = stakerId then amount else 0

theorem stake_ok (hrun : (stake env stakerId amount).run s = .ok () s') :
    Staked env stakerId amount s s' := by
  unfold stake at hrun
  rw [read_bind_ok, ensure_bind_ok, ensure_bind_ok, okOr_bind_ok] at hrun
  obtain ⟨hcount, hamount, free, _, hrun⟩ := hrun
  rw [ensure_bind_ok, bind_unit_ok] at hrun
  obtain ⟨_, frozen, hfreeze, hrun⟩ := hrun
  obtain ⟨hle, rfl⟩ := addFreezeBalance_ok.mp hfreeze
  simp only [ensure_bind_ok, okOr_bind_ok, update_bind_ok, update_ok, checkedAdd_eq_some] at hrun
  obtain ⟨hinterval, _, ⟨_, rfl⟩, _, ⟨_, rfl⟩, rfl⟩ := hrun
  refine ⟨hcount, ?_, hinterval, hle, rfl, rfl, rfl, rfl, rfl, fun account => ?_⟩
  · have hnominal := T.nominal_pos
    omega
  · have hfrozen := frozenOf_setFreezeWithResult stakerId account (frozenOf s stakerId + amount)
      s
    refine Eq.trans hfrozen ?_
    by_cases haccount : account = stakerId
    · rw [if_pos haccount, if_pos haccount, haccount]
    · rw [if_neg haccount, if_neg haccount, Nat.add_zero]

/-! ## Unstaking -/

/-- What is common to both ways of unstaking: an amount is pending from now on. -/
structure Unstaked (env : Environment) (stakerId : T.AccountId) (amount : ℕ)
    (s s' : State T) : Prop where
  totalStaked : s'.totalStaked + amount = s.totalStaked
  pendingUnstake : s'.pendingUnstake =
    s.pendingUnstake.insert
    (wrapBlock (env.blockNumber + env.config.pendingInterval)) (s.pendingUnstake.getD
        (wrapBlock (env.blockNumber + env.config.pendingInterval)) [] ++ [(stakerId, amount)])
  previousCalculatedRecord : s'.previousCalculatedRecord = s.previousCalculatedRecord
  ledger : s'.ledger = s.ledger

/-- A part of the stakes is unstaked, the oldest first. -/
structure UnstakedPartially (env : Environment) (stakerId : T.AccountId) (amount : ℕ)
    (s s' : State T) : Prop extends Unstaked env stakerId amount s s' where
  amount_le : amount ≤ wrapBalance (stakedBy s.staked stakerId)
  deleted_le : (takeFromStakes amount (stakesOf s stakerId)).2 % 2 ^ 8 ≤
    s.stakesPerAccount.getD stakerId 0
  staked : s'.staked =
    (takeFromStakes amount (stakesOf s stakerId)).1.foldl (changeStake stakerId) s.staked
  stakesPerAccount : s'.stakesPerAccount = s.stakesPerAccount.insert stakerId
    (s.stakesPerAccount.getD stakerId 0 - (takeFromStakes amount (stakesOf s stakerId)).2 % 2 ^ 8)

/-- All stakes of an account are unstaked. -/
structure UnstakedAll (env : Environment) (stakerId : T.AccountId) (s s' : State T) : Prop extends
      Unstaked env stakerId (wrapBalance (stakedBy s.staked stakerId)) s s' where
  staked : s'.staked = s.staked.eraseWhere fun key => key.1 = stakerId
  stakesPerAccount : s'.stakesPerAccount = s.stakesPerAccount.erase stakerId

/-- Stakes that add up to nothing are removed. -/
structure Drained (stakerId : T.AccountId) (s s' : State T) : Prop where
  amount_eq_zero : wrapBalance (stakedBy s.staked stakerId) = 0
  after : s' = { s with staked := s.staked.eraseWhere fun key => key.1 = stakerId }

theorem Drained.staked (hdrained : Drained stakerId s s') :
    s'.staked = s.staked.eraseWhere fun key => key.1 = stakerId := by
  rw [hdrained.after]

theorem unstakePartialInternal_ok
    (hrun : (unstakePartialInternal env stakerId amount).run s = .ok () s') :
    (amount = 0 ∧ s' = s) ∨ UnstakedPartially env stakerId amount s s' := by
  unfold unstakePartialInternal at hrun
  rcases ite_ok.mp hrun with ⟨hzero, hrun⟩ | ⟨_, hrun⟩
  · exact .inl ⟨hzero, (pure_ok.mp hrun).2.symm⟩
  · right
    simp only [read_bind_ok, ensure_bind_ok, okOr_bind_ok, update_bind_ok, update_ok,
      checkedSub_eq_some, sum_stakesOf] at hrun
    obtain ⟨_, hle, _, ⟨htotal, rfl⟩, _, ⟨hcount, rfl⟩, rfl⟩ := hrun
    exact ⟨⟨Nat.sub_add_cancel htotal, rfl, rfl, rfl⟩, hle, hcount, rfl, rfl⟩

theorem unstakeAllInternal_ok (hrun : (unstakeAllInternal env stakerId).run s = .ok () s') :
    Drained stakerId s s' ∨ UnstakedAll env stakerId s s' := by
  unfold unstakeAllInternal at hrun
  simp only [read_bind_ok, ensure_bind_ok, update_bind_ok, sum_stakesOf] at hrun
  obtain ⟨_, hrun⟩ := hrun
  rcases ite_ok.mp hrun with ⟨hzero, hrun⟩ | ⟨_, hrun⟩
  · exact .inl ⟨hzero, (pure_ok.mp hrun).2.symm⟩
  · right
    simp only [okOr_bind_ok, update_bind_ok, update_ok, checkedSub_eq_some] at hrun
    obtain ⟨_, ⟨htotal, rfl⟩, rfl⟩ := hrun
    exact ⟨⟨Nat.sub_add_cancel htotal, rfl, rfl, rfl⟩, rfl, rfl⟩

/-! ## Releasing -/

/-- The pending amounts of some blocks are released. -/
structure Resolved (blocks : List ℕ) (s s' : State T) : Prop where
  totalStaked : s'.totalStaked = s.totalStaked
  staked : s'.staked = s.staked
  stakesPerAccount : s'.stakesPerAccount = s.stakesPerAccount
  previousCalculatedRecord : s'.previousCalculatedRecord = s.previousCalculatedRecord
  pendingUnstake : ∀ block, s'.pendingUnstake.get block =
    if block ∈ blocks then none else s.pendingUnstake.get block
  pending_le : ∀ account, pendingOf s'.pendingUnstake account ≤ pendingOf s.pendingUnstake account
  frozen : ∀ account, frozenOf s' account =
    frozenOf s account - (pendingOf s.pendingUnstake account - pendingOf s'.pendingUnstake account)

theorem term_pendingIn (pendingUnstake : FiniteMap ℕ (List (T.AccountId × ℕ))) (block : ℕ)
    (account : T.AccountId) :
    pendingUnstake.term (fun _ pendings => pendingIn pendings account) block =
      pendingIn (pendingUnstake.getD block []) account := by
  unfold FiniteMap.term FiniteMap.getD
  cases pendingUnstake.get block with
  | none => simp [pendingIn]
  | some pendings => rfl

theorem pendingIn_append (first second : List (T.AccountId × ℕ)) (account : T.AccountId) :
    pendingIn (first ++ second) account = pendingIn first account + pendingIn second account := by
  simp [pendingIn]

/-- What is taken out of storage is what is no longer there. -/
theorem takePendings_spec (pendingUnstake : FiniteMap ℕ (List (T.AccountId × ℕ)))
    (blocks : List ℕ) :
    (∀ block, (takePendings pendingUnstake blocks).2.get block =
        if block ∈ blocks then none else pendingUnstake.get block) ∧
      ∀ account, pendingOf (takePendings pendingUnstake blocks).2 account +
        pendingIn (takePendings pendingUnstake blocks).1 account =
          pendingOf pendingUnstake account := by
  induction blocks generalizing pendingUnstake with
  | nil => exact ⟨fun _ => by simp [takePendings], fun _ => by simp [takePendings, pendingIn]⟩
  | cons block rest ih =>
    obtain ⟨hget, hsum⟩ := ih (pendingUnstake.erase block)
    refine ⟨fun other => ?_, fun account => ?_⟩
    · simp only [takePendings, hget, FiniteMap.get_erase, List.mem_cons]
      by_cases hother : other = block
      · simp [hother]
      · simp [hother]
    · have herase := pendingUnstake.sum_erase (fun _ pendings => pendingIn pendings account) block
      have hrest := hsum account
      rw [term_pendingIn] at herase
      simp only [takePendings, pendingIn_append]
      unfold pendingOf at hrest ⊢
      omega

/-- What a list of blocks has pending is taken out of storage and out of the freezes. -/
theorem resolved_takePendings (blocks : List ℕ) (s : State T) :
    Resolved blocks s ((takePendings s.pendingUnstake blocks).1.foldl releasePending
      { s with pendingUnstake := (takePendings s.pendingUnstake blocks).2 }) := by
  obtain ⟨hget, hsum⟩ := takePendings_spec s.pendingUnstake blocks
  obtain ⟨hrecords, hfrozen⟩ := foldl_releasePending
    { s with pendingUnstake := (takePendings s.pendingUnstake blocks).2 }
    (takePendings s.pendingUnstake blocks).1
  refine ⟨hrecords.totalStaked, hrecords.staked, hrecords.stakesPerAccount,
    hrecords.previousCalculatedRecord, ?_, fun account => ?_, fun account => ?_⟩
  · rw [hrecords.pendingUnstake]
    exact hget
  · rw [hrecords.pendingUnstake]
    exact (hsum account) ▸ Nat.le_add_right ..
  · rw [hfrozen, hrecords.pendingUnstake]
    have htaken := hsum account
    have hsame : frozenOf
        { s with pendingUnstake := (takePendings s.pendingUnstake blocks).2 } account =
          frozenOf s account := rfl
    rw [hsame]
    show _ = frozenOf s account - (pendingOf s.pendingUnstake account -
      pendingOf (takePendings s.pendingUnstake blocks).2 account)
    omega

theorem resolveSkippedBlocks_ok {blocks : List ℕ}
    (hrun : (resolveSkippedBlocks env blocks).run s = .ok () s') :
    (∀ block ∈ blocks, block < env.blockNumber) ∧ Resolved blocks s s' := by
  unfold resolveSkippedBlocks at hrun
  simp only [ensure_bind_ok, read_bind_ok, update_ok] at hrun
  obtain ⟨hpast, rfl⟩ := hrun
  exact ⟨hpast, resolved_takePendings blocks s⟩

theorem onInitialize_cases (env : Environment) (s : State T) : onInitialize env s = s ∨
      Resolved [env.blockNumber] s (onInitialize env s) := by
  unfold onInitialize
  split
  · exact .inl rfl
  · have hresolved := resolved_takePendings [env.blockNumber] s
    simp only [takePendings, List.append_nil] at hresolved
    exact .inr hresolved

end UniqueChain.AppPromotion
