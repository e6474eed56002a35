import UniqueChain.Library.Currency
import UniqueChain.Library.Execution
import UniqueChain.Library.Iteration
import UniqueChain.Library.Perbill
import UniqueChain.Library.Transition
import UniqueChain.Model.Primitives

/-!
# The app promotion pallet

Accounts stake an amount of the native currency, which is frozen and earns
interest once per interval of relay blocks.  Unstaked amounts stay frozen until a
later block of the parachain.  The interest of all stakers is paid out in pages:
a call continues behind the record at which the last one stopped.

Amounts are 128 bits and block numbers 32 bits wide.  Where the source uses the
operators `+`, `-` and `*` and not their checked variants, they wrap around.
Storage is iterated in the order of the hashed keys.  Only the values under keys
that the payout loop has passed are written by it, so the loop goes through the
entries that are there when it starts.
-/

namespace UniqueChain.AppPromotion

open Execution

/-- The parameters of the pallet. -/
structure Config where
  AccountId : Type
  [decEqAccountId : DecidableEq AccountId]
  currency : FreezeCurrency AccountId
  treasuryAccountId : AccountId
  /-- The unit of the currency. -/
  nominal : ℕ
  nominal_pos : 0 < nominal
  /-- The key of a stake in storage. -/
  hashedKeyFor : AccountId × ℕ → ℕ
  hashedKeyFor_injective : Function.Injective hashedKeyFor

attribute [instance] Config.decEqAccountId

/-- The configuration that governance may override. -/
structure PalletConfiguration where
  recalculationInterval : ℕ
  pendingInterval : ℕ
  intervalIncome : Perbill
  maxStakersPerCalculation : ℕ

/-- What governance overrides of the configuration. -/
structure AppPromotionConfiguration where
  recalculationInterval : Option ℕ
  pendingInterval : Option ℕ
  intervalIncome : Option Perbill
  maxStakersPerCalculation : Option ℕ

/-- The most stakers paid by a call. -/
def maxNumberPayouts : ℕ := 100

/-- The configuration, with the intervals and the income of the runtime as defaults. -/
def PalletConfiguration.get (recalculationInterval pendingInterval : ℕ) (intervalIncome : Perbill)
    (config : AppPromotionConfiguration) : PalletConfiguration where
  recalculationInterval := config.recalculationInterval.getD recalculationInterval
  pendingInterval := config.pendingInterval.getD pendingInterval
  intervalIncome := config.intervalIncome.getD intervalIncome
  maxStakersPerCalculation := config.maxStakersPerCalculation.getD maxNumberPayouts

/-- What a call reads besides the storage of the pallet and the currency. -/
structure Environment where
  /-- The number of the relay block. -/
  relayBlock : ℕ
  /-- The number of the block of the parachain. -/
  blockNumber : ℕ
  config : PalletConfiguration
  isMaintenanceModeEnabled : Bool

/-- The errors of the pallet. -/
inductive Error where
  | badOrigin
  | adminNotSet
  | noPermission
  | pendingForBlockOverflow
  | insufficientStakedBalance
  | overflow
  | underflow
  | currency
  | panicked
  deriving DecidableEq

/-- The events of the pallet. -/
inductive Event (T : Config) where
  | stakingRecalculation (staker : T.AccountId) (base income : ℕ)
  | stake (staker : T.AccountId) (amount : ℕ)
  | unstake (staker : T.AccountId) (amount : ℕ)
  | setAdmin (admin : T.AccountId)

/-- A stake: its amount, and the relay block from which on it earns again. -/
structure Stake where
  amount : ℕ
  recalcBlock : ℕ
  deriving DecidableEq

/-- The key of a stake: the staker and the relay block of the stake. -/
abbrev Key (T : Config) := T.AccountId × ℕ

/-- The storage of the pallet. -/
structure State (T : Config) where
  totalStaked : ℕ
  admin : Option T.AccountId
  staked : FiniteMap (Key T) Stake
  stakesPerAccount : FiniteMap T.AccountId ℕ
  pendingUnstake : FiniteMap ℕ (List (T.AccountId × ℕ))
  previousCalculatedRecord : Option (Key T)
  ledger : T.currency.Ledger
  events : List (Event T)

variable {T : Config}

variable (s : State T)

/-- The latest event first. -/
def State.depositEvent (event : Event T) : State T :=
  { s with events := event :: s.events }

/-! ## Arithmetic -/

/-- Unchecked `u128` arithmetic. -/
def wrapBalance (amount : ℕ) : ℕ := amount % 2 ^ 128

/-- Unchecked `u32` arithmetic. -/
def wrapBlock (block : ℕ) : ℕ := block % 2 ^ 32

/-- The most amounts that are released at a block. -/
def pendingLimitPerBlock : ℕ := 3

/-- The stakers paid if no number is given. -/
def defaultNumberPayouts : ℕ := 20

/-- What `income - base` is after the interest of `iters` intervals. -/
def calculateIncome (intervalIncome : Perbill) (base iters : ℕ) : ℕ :=
  let income := (fun income => wrapBalance (income + intervalIncome.mul income))^[iters] base
  wrapBalance (income + 2 ^ 128 - base)

variable (config : PalletConfiguration)

/-- The start of the current interval. -/
def getCurrentRecalcBlock (currentRelayBlock : ℕ) : ℕ :=
  currentRelayBlock / config.recalculationInterval * config.recalculationInterval

/-! ## Freezing -/

/-- What the pallet has frozen, if anything. -/
def getFrozenBalance (staker : T.AccountId) : Option ℕ :=
  let res := T.currency.frozen s.ledger staker
  if res = 0 then none else some res

/-- Sets the freeze of a staker, or lifts it. -/
def setFreezeWithResult (staker : T.AccountId) (amount : ℕ) (s : State T) : State T :=
  { s with
    ledger := if amount = 0 then T.currency.thaw s.ledger staker
      else T.currency.setFreeze s.ledger staker amount }

/-- Raises the freeze of a staker. -/
def addFreezeBalance (staker : T.AccountId) (amount : ℕ) : Execution Error (State T) Unit := do
  let s ← read
  let freeze ← okOr (checkedAdd u128Max ((getFrozenBalance s staker).getD 0) amount) .overflow
  update (setFreezeWithResult staker freeze)

/-- Take an amount that is no longer pending out of what is frozen. -/
def releasePending (pending : T.AccountId × ℕ) : State T :=
  match getFrozenBalance s pending.1 with
  | some frozen => setFreezeWithResult pending.1 ((checkedSub frozen pending.2).getD 0) s
  | none => s

/-! ## Staking -/

/-- What an account can still freeze. -/
def freeBalance (stakerId : T.AccountId) : Option ℕ :=
  let balance := T.currency.balance s.ledger stakerId
  match getFrozenBalance s stakerId with
  | some frozenByPallet => checkedSub balance frozenByPallet
  | none => some balance

variable (env : Environment)

/-- Freezes an amount and records it. -/
def stake (stakerId : T.AccountId) (amount : ℕ) : Execution Error (State T) Unit := do
  let s ← read
  ensure (s.stakesPerAccount.getD stakerId 0 < 10) .noPermission
  ensure (100 * T.nominal ≤ amount) .underflow
  let free ← okOr (freeBalance s stakerId) .underflow
  ensure (amount ≤ free) .underflow
  addFreezeBalance stakerId amount
  let interval := env.config.recalculationInterval
  -- the remainder of a division by zero panics
  ensure (interval ≠ 0) .panicked
  let blockNumber := env.relayBlock
  let recalculateAfterInterval := if blockNumber % interval = 0 then 1 else 2
  let recalcBlock := wrapBlock ((blockNumber / interval + recalculateAfterInterval) * interval)
  let old := s.staked.getD (stakerId, blockNumber) ⟨0, 0⟩
  let staked ← okOr (checkedAdd u128Max old.amount amount) .overflow
  update fun s =>
    { s with staked := s.staked.insert (stakerId, blockNumber) ⟨staked, recalcBlock⟩ }
  let totalStaked ← okOr (checkedAdd u128Max s.totalStaked amount) .overflow
  update fun s =>
    { s with
      totalStaked := totalStaked
      stakesPerAccount :=
        s.stakesPerAccount.insert stakerId (s.stakesPerAccount.getD stakerId 0 + 1) }
  update (·.depositEvent (.stake stakerId amount))

/-! ## Unstaking -/

/-- The stakes of an account, from the oldest to the latest. -/
def stakesOf (stakerId : T.AccountId) : List (ℕ × Stake) :=
  s.staked.prefixEntries stakerId

/-- Take an amount out of stakes, the oldest first: what remains of the stakes that
are touched, and how many of them are used up. -/
def takeFromStakes : ℕ → List (ℕ × Stake) → List (ℕ × ℕ) × ℕ
  | _, [] => ([], 0)
  | accAmount, (block, stake) :: rest =>
    if accAmount = 0 then
      ([], 0)
    else if accAmount < stake.amount then
      ([(block, stake.amount - accAmount)], 0)
    else
      let others := takeFromStakes (accAmount - stake.amount) rest
      ((block, 0) :: others.1, others.2 + 1)

/-- Write back what remains of a stake. -/
def changeStake (stakerId : T.AccountId) (staked : FiniteMap (Key T) Stake) (change : ℕ × ℕ) :
    FiniteMap (Key T) Stake :=
  if change.2 = 0 then
    staked.erase (stakerId, change.1)
  else
    staked.insert (stakerId, change.1)
      { staked.getD (stakerId, change.1) ⟨0, 0⟩ with amount := change.2 }

/-- Takes an amount out of the oldest stakes. -/
def unstakePartialInternal (stakerId : T.AccountId)
    (unstakedBalance : ℕ) : Execution Error (State T) Unit := do
  if unstakedBalance = 0 then
    pure ()
  else do
    let s ← read
    let unpendingBlock := wrapBlock (env.blockNumber + env.config.pendingInterval)
    let pendings := s.pendingUnstake.getD unpendingBlock []
    ensure (pendings.length < pendingLimitPerBlock) .pendingForBlockOverflow
    let stakes := stakesOf s stakerId
    let totalStaked := wrapBalance (stakes.map fun stake => stake.2.amount).sum
    ensure (unstakedBalance ≤ totalStaked) .insufficientStakedBalance
    let total ← okOr (checkedSub s.totalStaked unstakedBalance) .underflow
    let changed := takeFromStakes unstakedBalance stakes
    let count ← okOr (checkedSub (s.stakesPerAccount.getD stakerId 0) (changed.2 % 2 ^ 8))
      .underflow
    update fun s =>
      { s with
        totalStaked := total
        stakesPerAccount := s.stakesPerAccount.insert stakerId count
        staked := changed.1.foldl (changeStake stakerId) s.staked
        pendingUnstake :=
          s.pendingUnstake.insert unpendingBlock (pendings ++ [(stakerId, unstakedBalance)]) }
    update (·.depositEvent (.unstake stakerId unstakedBalance))

/-- Takes all stakes of an account back. -/
def unstakeAllInternal (stakerId : T.AccountId) : Execution Error (State T) Unit := do
  let s ← read
  let block := wrapBlock (env.blockNumber + env.config.pendingInterval)
  let pendings := s.pendingUnstake.getD block []
  ensure (pendings.length < pendingLimitPerBlock) .pendingForBlockOverflow
  let totalStaked := wrapBalance ((stakesOf s stakerId).map fun stake => stake.2.amount).sum
  update fun s => { s with staked := s.staked.eraseWhere fun key => key.1 = stakerId }
  if totalStaked = 0 then
    pure ()
  else do
    let total ← okOr (checkedSub s.totalStaked totalStaked) .underflow
    update fun s =>
      { s with
        pendingUnstake := s.pendingUnstake.insert block (pendings ++ [(stakerId, totalStaked)])
        totalStaked := total
        stakesPerAccount := s.stakesPerAccount.erase stakerId }
    update (·.depositEvent (.unstake stakerId totalStaked))

/-! ## Releasing what was unstaked -/

/-- Releases the amounts pending for the block. -/
def onInitialize (s : State T) : State T :=
  if env.isMaintenanceModeEnabled then
    s
  else
    let blockPending := s.pendingUnstake.getD env.blockNumber []
    blockPending.foldl releasePending
      { s with pendingUnstake := s.pendingUnstake.erase env.blockNumber }

/-- Take the pending lists of some blocks out of storage, one after the other. -/
def takePendings : FiniteMap ℕ (List (T.AccountId × ℕ)) → List ℕ →
    List (T.AccountId × ℕ) × FiniteMap ℕ (List (T.AccountId × ℕ))
  | pendingUnstake, [] => ([], pendingUnstake)
  | pendingUnstake, block :: rest =>
    let others := takePendings (pendingUnstake.erase block) rest
    (pendingUnstake.getD block [] ++ others.1, others.2)

/-- Releases the amounts of blocks that were missed. -/
def resolveSkippedBlocks (pendingBlocks : List ℕ) : Execution Error (State T) Unit := do
  ensure (∀ block ∈ pendingBlocks, block < env.blockNumber) .noPermission
  let s ← read
  let pendings := takePendings s.pendingUnstake pendingBlocks
  update fun s => pendings.1.foldl releasePending { s with pendingUnstake := pendings.2 }

/-! ## Paying out -/

/-- What the payout loop carries along: the account it is at, the block of the last
record of it, and what has accrued for it. -/
structure Accrual (T : Config) where
  lastId : Option T.AccountId := none
  lastBlock : ℕ := 0
  incomeAcc : ℕ := 0
  amountAcc : ℕ := 0

/-- Transfer what has accrued to the account the loop is at, and freeze it. -/
def flushStake (accrual : Accrual T) : Execution Error (State T) (Accrual T) :=
  match accrual.lastId with
  | none => pure accrual
  | some lastId => do
    if accrual.incomeAcc ≠ 0 then
      let s ← read
      let ledger ← okOr
        (T.currency.transfer s.ledger T.treasuryAccountId lastId accrual.incomeAcc) .currency
      update ({ · with ledger := ledger })
      addFreezeBalance lastId accrual.incomeAcc
      let s ← read
      let totalStaked ← okOr (checkedAdd u128Max s.totalStaked accrual.incomeAcc) .overflow
      update ({ · with totalStaked := totalStaked })
      update (·.depositEvent
        (.stakingRecalculation lastId accrual.amountAcc accrual.incomeAcc))
    return { accrual with incomeAcc := 0, amountAcc := 0 }

/-- The number of intervals a stake is paid for. -/
def dueIntervals (currentRecalcBlock : ℕ) (stake : Stake) : ℕ :=
  (currentRecalcBlock - stake.recalcBlock) / config.recalculationInterval + 1

/-- The income of a stake that is due. -/
def incomeOf (currentRecalcBlock : ℕ) (stake : Stake) : ℕ :=
  calculateIncome config.intervalIncome stake.amount (dueIntervals config currentRecalcBlock stake)

/-- Adds the income to a stake, unless it overflows. -/
def recalculateAndInsertStake (key : Key T) (nextRecalcBlock base income : ℕ)
    (accrual : Accrual T) : Execution Error (State T) (Accrual T) :=
  match checkedAdd u128Max base income with
  | some res => do
    update fun s => { s with staked := s.staked.insert key ⟨res, nextRecalcBlock⟩ }
    return { accrual with incomeAcc := wrapBalance (accrual.incomeAcc + income) }
  | none => pure accrual

/-- The income of a record, if it is due. -/
def accrueRecord (currentRecalcBlock nextRecalcBlock : ℕ)
    (entry : Key T × Stake) (accrual : Accrual T) : Execution Error (State T) (Accrual T) :=
  if entry.2.recalcBlock ≤ currentRecalcBlock then
    recalculateAndInsertStake entry.1 nextRecalcBlock entry.2.amount
      (incomeOf config currentRecalcBlock entry.2)
      { accrual with amountAcc := wrapBalance (accrual.amountAcc + entry.2.amount) }
  else
    pure accrual

/-- One stake of a payout. -/
def payRecord (currentRecalcBlock nextRecalcBlock : ℕ)
    (entry : Key T × Stake) (accrual : Accrual T) : Execution Error (State T) (Accrual T) := do
  let accrual ← accrueRecord config currentRecalcBlock nextRecalcBlock entry accrual
  return { accrual with lastBlock := entry.1.2 }

/-- The payout loop over the records that are left, for at most `stakersNumber` more
accounts. -/
def payoutLoop (config : PalletConfiguration) (currentRecalcBlock nextRecalcBlock : ℕ) :
    ℕ → Accrual T → List (Key T × Stake) → Execution Error (State T) Unit
  | _, accrual, [] => do
    let _ ← flushStake accrual
  | stakersNumber, accrual, entry :: rest =>
    if accrual.lastId = some entry.1.1 then do
      let accrual ← payRecord config currentRecalcBlock nextRecalcBlock entry accrual
      payoutLoop config currentRecalcBlock nextRecalcBlock stakersNumber accrual rest
    else if 0 < stakersNumber then do
      let accrual ← flushStake accrual
      let accrual ← payRecord config currentRecalcBlock nextRecalcBlock entry
        { accrual with lastId := some entry.1.1 }
      payoutLoop config currentRecalcBlock nextRecalcBlock (stakersNumber - 1) accrual rest
    else do
      match accrual.lastId with
      | some staker =>
        update ({ · with previousCalculatedRecord := some (staker, accrual.lastBlock) })
      | none => pure ()
      let _ ← flushStake accrual

/-- The records that a payout goes through: all of them, or those behind the record
at which the last payout stopped. -/
def recordsLeft : List (Key T × Stake) :=
  match s.previousCalculatedRecord with
  | none => s.staked.entries T.hashedKeyFor_injective
  | some record => s.staked.entriesAfter T.hashedKeyFor_injective record

/-- Pay out to at most the given number of stakers. -/
def payoutPage (stakersNumber : ℕ) : Execution Error (State T) Unit := do
  let config := env.config
  -- the division by the interval panics if it is zero
  ensure (config.recalculationInterval ≠ 0) .panicked
  let currentRecalcBlock := getCurrentRecalcBlock config env.relayBlock
  let nextRecalcBlock := wrapBlock (currentRecalcBlock + config.recalculationInterval)
  let s ← read
  update ({ · with previousCalculatedRecord := none })
  payoutLoop config currentRecalcBlock nextRecalcBlock stakersNumber {} (recordsLeft s)

/-- Pays a number of stakers, from where the last call ended. -/
def payoutStakers (adminId : T.AccountId)
    (stakersNumber : Option ℕ) : Execution Error (State T) Unit := do
  let s ← read
  let admin ← okOr s.admin .adminNotSet
  ensure (adminId = admin) .noPermission
  let stakersNumber := stakersNumber.getD defaultNumberPayouts
  ensure (stakersNumber ≤ env.config.maxStakersPerCalculation ∧ stakersNumber ≠ 0) .noPermission
  payoutPage env stakersNumber

/-! ## Runs -/

/-- Who calls. -/
inductive Origin (T : Config) where
  | root
  | signed (who : T.AccountId)

/-- The call of the configuration pallet. -/
def setAppPromotionConfigurationOverride (origin : Origin T)
    (configuration : AppPromotionConfiguration) : Execution Error AppPromotionConfiguration Unit :=
  match origin with
  | .root => update fun _ => configuration
  | .signed _ => fail .badOrigin

/-- Root appoints the admin. -/
def setAdminAddress (origin : Origin T) (admin : T.AccountId) : Execution Error (State T) Unit :=
  match origin with
  | .root => do
    update ({ · with admin := some admin })
    update (·.depositEvent (.setAdmin admin))
  | .signed _ => fail .badOrigin

/-- The calls of the pallet. -/
inductive Call (T : Config) where
  | setAdminAddress (admin : T.AccountId)
  | stake (amount : ℕ)
  | unstakeAll
  | unstakePartial (amount : ℕ)
  | payoutStakers (stakersNumber : Option ℕ)
  | resolveSkippedBlocks (pendingBlocks : List ℕ)

/-- Root is not a staker. -/
def ensureSigned : Origin T → Execution Error (State T) T.AccountId
  | .signed who => pure who
  | .root => fail .badOrigin

/-- What a call does. -/
def Call.execute (origin : Origin T) :
    Call T → Execution Error (State T) Unit
  | .setAdminAddress admin => AppPromotion.setAdminAddress origin admin
  | .stake amount => do
    let stakerId ← ensureSigned origin
    AppPromotion.stake env stakerId amount
  | .unstakeAll => do
    let stakerId ← ensureSigned origin
    unstakeAllInternal env stakerId
  | .unstakePartial amount => do
    let stakerId ← ensureSigned origin
    unstakePartialInternal env stakerId amount
  | .payoutStakers stakersNumber => do
    let adminId ← ensureSigned origin
    AppPromotion.payoutStakers env adminId stakersNumber
  | .resolveSkippedBlocks pendingBlocks => do
    let _ ← ensureSigned origin
    AppPromotion.resolveSkippedBlocks env pendingBlocks

/-- What happens to the pallet: a dispatched call, or the beginning of a block. -/
inductive Action (T : Config) where
  | call (origin : Origin T) (call : Call T)
  | onInitialize

/-- What happens to the pallet, and when. -/
structure Input (T : Config) where
  env : Environment
  action : Action T

/-- The state after an action; a call that fails is rejected. -/
def step (input : Input T) : Option (State T) :=
  match input.action with
  | .call origin call =>
    match (call.execute input.env origin).run s with
    | .ok _ s' => some s'
    | .error _ _ => none
  | .onInitialize => some (onInitialize input.env s)

/-- The pallet before anything has happened, with the given ledger. -/
def genesis (ledger : T.currency.Ledger) : State T where
  totalStaked := 0
  admin := none
  staked := .empty
  stakesPerAccount := .empty
  pendingUnstake := .empty
  previousCalculatedRecord := none
  ledger := ledger
  events := []

/-- The calls and block beginnings of a run, the latest first. -/
abbrev History (T : Config) := List (CallRecord (State T) (Input T))

end UniqueChain.AppPromotion
