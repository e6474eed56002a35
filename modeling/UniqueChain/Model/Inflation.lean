import UniqueChain.Library.Perbill
import UniqueChain.Library.Transition

/-!
# The inflation pallet

From a start block on, an amount is minted into the treasury for every interval of
relay blocks.  The amount is recalculated once a year of relay blocks.  A block
makes at most one payment and at most one recalculation; both have a counter of
their own, which is compared with the current relay block.

Block numbers are 32 bits wide and wrap around.  What the pallet asks the currency
to mint is kept in the state; whether the currency does it is ignored by the code.
-/

namespace UniqueChain.Inflation

/-! ## Constants -/

def relayMinutes : ℕ := 60000 / 6000

def relayHours : ℕ := relayMinutes * 60

def relayDays : ℕ := relayHours * 24

/-- A year of relay blocks: 365 days and a quarter. -/
def year : ℕ := relayDays * 365 + relayDays / 4

def totalYearsUntilFlat : ℕ := 9

def startInflationPercent : ℕ := 10

def endInflationPercent : ℕ := 4

/-- A block number in the width of its type. -/
def wrap (block : ℕ) : ℕ := block % 2 ^ 32

/-- The number of blocks between two payments. -/
structure Config where
  inflationBlockInterval : ℕ
  interval_lt : inflationBlockInterval < 2 ^ 32

/-- The storage of the pallet, and the payments made. -/
structure State where
  startingYearTotalIssuance : ℕ := 0
  blockInflation : ℕ := 0
  nextInflationBlock : ℕ := 0
  nextRecalculationBlock : ℕ := 0
  startBlock : ℕ := 0
  /-- What `onInitialize` asked to mint into the treasury, the latest first. -/
  payments : List ℕ := []

/-- What a block reads from the relay chain and from the currency. -/
structure Environment where
  relayBlock : ℕ
  totalIssuance : ℕ
  /-- Whether the currency accepts a deposit into the treasury. -/
  acceptsDeposit : ℕ → Bool

variable (T : Config)

/-- The amount of one interval in the given year, for the given total issuance. -/
def intervalInflation (currentYear totalIssuance : ℕ) : ℕ :=
  let onePercent := Perbill.ofPercent 1
  if currentYear ≤ totalYearsUntilFlat then
    (Perbill.ofRational
      (wrap (T.inflationBlockInterval * (startInflationPercent * totalYearsUntilFlat -
        currentYear * (startInflationPercent - endInflationPercent))))
      (year * totalYearsUntilFlat)).mul (onePercent.mul totalIssuance)
  else
    (Perbill.ofRational (wrap (T.inflationBlockInterval * endInflationPercent)) year).mul
      (onePercent.mul totalIssuance)

/-- The year of the schedule a block belongs to. -/
def yearOf (s : State) (block : ℕ) : ℕ :=
  wrap (block + 2 ^ 32 - s.startBlock) / year

/-- Sets the payment of the year of a block. -/
def recalculateInflation (env : Environment) (recalculationBlock : ℕ) (s : State) : State :=
  let currentYear := yearOf s recalculationBlock
  { s with
    blockInflation := intervalInflation T currentYear env.totalIssuance
    startingYearTotalIssuance := env.totalIssuance
    nextRecalculationBlock := wrap (recalculationBlock + year) }

/-- A payment is due: the pallet was started and the relay chain has reached the
next block of a payment. -/
def PaymentDue (env : Environment) (s : State) : Prop :=
  s.nextInflationBlock ≠ 0 ∧ s.nextInflationBlock ≤ env.relayBlock

instance (env : Environment) (s : State) : Decidable (PaymentDue env s) :=
  inferInstanceAs (Decidable (_ ∧ _))

/-- At most one recalculation and one payment in a block. -/
def onInitialize (env : Environment) (s : State) : State :=
  if PaymentDue env s then
    let recalculated :=
      if s.nextRecalculationBlock ≤ env.relayBlock then
        recalculateInflation T env s.nextRecalculationBlock s
      else s
    { recalculated with
      payments := recalculated.blockInflation :: recalculated.payments
      nextInflationBlock := wrap (s.nextInflationBlock + T.inflationBlockInterval) }
  else s

/-- The origin of a call. -/
inductive Origin where
  | root
  | signed
  deriving DecidableEq

/-- Root starts the inflation, once. -/
def startInflation (env : Environment) (origin : Origin)
    (inflationStartRelayBlock : ℕ) (s : State) : Option State :=
  if origin = .root then
    if s.startBlock = 0 then
      let started := recalculateInflation T env inflationStartRelayBlock
        { s with startBlock := inflationStartRelayBlock }
      if env.acceptsDeposit started.blockInflation then
        some { started with
          nextInflationBlock := wrap (inflationStartRelayBlock + T.inflationBlockInterval) }
      else none
    else some s
  else none

/-- One block after the other. -/
def blockStep (s : State) (env : Environment) : Option State :=
  some (onInitialize T env s)

/-! ## With the treasury -/

/-- The pallet together with the balance of the treasury. -/
structure Chain where
  pallet : State := {}
  treasury : ℕ := 0

/-- What the pallet is run for: the call of its extrinsic, and the hook of a block. -/
inductive Input where
  | startInflation (env : Environment) (origin : Origin) (inflationStartRelayBlock : ℕ)
  | onInitialize (env : Environment)

/-- The first deposit is made when the start block is set.  A payment that the
currency refuses is forgotten. -/
def step (chain : Chain) : Input → Option Chain
  | .startInflation env origin inflationStartRelayBlock => do
    let pallet ← startInflation T env origin inflationStartRelayBlock chain.pallet
    let deposit := if chain.pallet.startBlock = 0 then pallet.blockInflation else 0
    some ⟨pallet, chain.treasury + deposit⟩
  | .onInitialize env =>
    let pallet := onInitialize T env chain.pallet
    let minted :=
      if PaymentDue env chain.pallet ∧ env.acceptsDeposit pallet.blockInflation = true then
        pallet.blockInflation
      else 0
    some ⟨pallet, chain.treasury + minted⟩

end UniqueChain.Inflation
