import UniqueChain.Library.Execution
import UniqueChain.Model.Primitives

/-!
# The gas recorder of EVM calls

A call of a collection from the EVM counts its gas in a `SubstrateRecorder`: one cell, shared
with the budgets that are lent to nested operations.  `call` charges the predicted weight
before the method runs, gives back what the method reports as unspent, and hands the
difference between the gas it was given and the gas that is left to the EVM.

The methods themselves are arbitrary here: a `Method` is any program that charges the
recorder, looks at the answer of each charge and goes on as it likes.
-/

namespace UniqueChain.EvmCoder

open Execution

/-- `u64::MAX`. -/
def u64Max : ℕ := 2 ^ 64 - 1

/-- `saturating_mul` of `u64`. -/
def saturatingMul (a b : ℕ) : ℕ := min (a * b) u64Max

/-- `saturating_add` of `u64`. -/
def saturatingAdd (a b : ℕ) : ℕ := min (a + b) u64Max

/-! ## Weights -/

/-- The computation time and the proof size of a call. -/
@[ext] structure Weight where
  refTime : ℕ
  proofSize : ℕ
  deriving DecidableEq

namespace Weight

instance : Add Weight := ⟨fun a b => ⟨a.refTime + b.refTime, a.proofSize + b.proofSize⟩⟩

instance : Sub Weight := ⟨fun a b => ⟨a.refTime - b.refTime, a.proofSize - b.proofSize⟩⟩

instance : Min Weight := ⟨fun a b => ⟨min a.refTime b.refTime, min a.proofSize b.proofSize⟩⟩

instance : LE Weight := ⟨fun a b => a.refTime ≤ b.refTime ∧ a.proofSize ≤ b.proofSize⟩

end Weight

/-- What the recorder reads of the runtime: the weight of an access to the database, and how
weight is converted to gas. -/
structure GasConfig where
  read : ℕ
  write : ℕ
  weightToGas : Weight → ℕ

/-! ## Errors and results of methods -/

/-- The errors of the EVM that occur here. -/
inductive ExitError where
  | outOfGas
  | other (reason : String)
  deriving DecidableEq

/-- How a method of a contract fails. -/
inductive Error where
  | revert (message : String)
  | fatal (reason : String)
  | error (exit : ExitError)
  deriving DecidableEq

/-- Static information about a call. -/
structure DispatchInfo where
  weight : Weight

/-- What is known of the weight after the dispatch. -/
structure PostDispatchInfo where
  actualWeight : Option Weight

namespace PostDispatchInfo

/-- The weight used, at most the one announced. -/
def calcActualWeight (postInfo : PostDispatchInfo) (info : DispatchInfo) : Weight :=
  match postInfo.actualWeight with
  | some actualWeight => min actualWeight info.weight
  | none => info.weight

/-- The weight announced and not used. -/
def calcUnspent (postInfo : PostDispatchInfo) (info : DispatchInfo) : Weight :=
  info.weight - postInfo.calcActualWeight info

end PostDispatchInfo

/-- A value and the weight it took. -/
structure WithPostDispatchInfo (α : Type) where
  data : α
  postInfo : PostDispatchInfo

/-- What a method returns. -/
abbrev ResultWithPostInfo (α : Type) :=
  Except (WithPostDispatchInfo Error) (WithPostDispatchInfo α)

/-- The weight of a result or an error. -/
def postInfoOf {α : Type} : ResultWithPostInfo α → PostDispatchInfo
  | .ok result => result.postInfo
  | .error result => result.postInfo

/-- The result without its weight. -/
def dataOf {α : Type} : ResultWithPostInfo α → Except Error α
  | .ok result => .ok result.data
  | .error result => .error result.data

/-! ## The recorder -/

/-- The gas of a call. -/
structure SubstrateRecorder where
  initialGas : ℕ
  gasLimit : ℕ
  deriving DecidableEq

namespace SubstrateRecorder

/-- All gas is left. -/
def new (gasLimit : ℕ) : SubstrateRecorder where
  initialGas := gasLimit
  gasLimit := gasLimit

/-- The gas that is left. -/
def gasLeft (recorder : SubstrateRecorder) : ℕ := recorder.gasLimit

end SubstrateRecorder

/-- An operation that takes gas. -/
abbrev GasExec (α : Type) := Execution Error SubstrateRecorder α

/-- Takes gas, or fails if there is too little. -/
def consumeGas (gas : ℕ) : GasExec Unit := do
  ensure (gas ≠ u64Max) (.error .outOfGas)
  let recorder ← read
  ensure (gas ≤ recorder.gasLimit) (.error .outOfGas)
  update fun recorder => { recorder with gasLimit := recorder.gasLimit - gas }

/-- The sum is one of `u64`, and not checked. -/
def returnGas (gas : ℕ) (recorder : SubstrateRecorder) : SubstrateRecorder :=
  { recorder with gasLimit := (recorder.gasLimit + gas) % 2 ^ 64 }

variable (config : GasConfig)

/-- Takes gas for reads of the storage. -/
def consumeStoreReads (reads : ℕ) : GasExec Unit :=
  consumeGas (config.weightToGas ⟨saturatingMul config.read reads, 0⟩)

/-- Takes gas for writes to the storage. -/
def consumeStoreWrites (writes : ℕ) : GasExec Unit :=
  consumeGas (config.weightToGas ⟨saturatingMul config.write writes, 0⟩)

/-- Takes gas for both. -/
def consumeStoreReadsAndWrites (reads writes : ℕ) : GasExec Unit :=
  let reads := saturatingMul config.read reads
  -- the source takes the weight of a read here, too
  let writes := saturatingMul config.read writes
  consumeGas (config.weightToGas ⟨saturatingAdd reads writes, 0⟩)

/-- The gas of a read of a word. -/
def gSloadWord : ℕ := 800

/-- The gas of a write of a word. -/
def gSstoreWord : ℕ := 20000

/-- Takes gas for a read of a word. -/
def consumeSload : GasExec Unit := consumeGas gSloadWord

/-- Takes gas for a write of a word. -/
def consumeSstore : GasExec Unit := consumeGas gSstoreWord

/-- Takes gas for writes of words. -/
def consumeSstores (amount : ℕ) : GasExec Unit := consumeGas (saturatingMul gSstoreWord amount)

/-- A budget that borrows the recorder. -/
structure GasCallsBudget where
  gasPerCall : ℕ

/-- Whether a charge was accepted. -/
def accepted (body : GasExec Unit) : GasExec Bool := do
  let result ← attempt body
  pure result.isOk

/-- Units of the nesting budget are paid with gas. -/
def GasCallsBudget.consumeCustom (budget : GasCallsBudget) (calls : ℕ) : GasExec Bool :=
  if calls * budget.gasPerCall ≤ u64Max then accepted (consumeGas (calls * budget.gasPerCall))
  else pure false

/-! ## The methods of a collection that charge reads and writes together -/

/-- The methods of a collection's contract that charge for accesses. -/
inductive CollectionMethod where
  | setCollectionSponsor
  | setCollectionSponsorCross
  | removeCollectionSponsor
  | setCollectionLimit
  | addCollectionAdminCross
  | removeCollectionAdminCross
  | addCollectionAdmin
  | removeCollectionAdmin
  | setNesting
  | setNestingBool
  | setNestingCollectionIds
  | setCollectionAccess
  | setCollectionMintMode

/-- How many reads and writes a method charges before it does anything else. -/
def CollectionMethod.storeAccesses : CollectionMethod → ℕ × ℕ
  | .addCollectionAdminCross | .removeCollectionAdminCross | .addCollectionAdmin
  | .removeCollectionAdmin => (2, 2)
  | _ => (1, 1)

/-- What a method takes before it does anything. -/
def CollectionMethod.charge (method : CollectionMethod) : GasExec Unit :=
  consumeStoreReadsAndWrites config method.storeAccesses.1 method.storeAccesses.2

/-! ## Calls -/

/-- One charge of the recorder. -/
inductive Charge where
  | gas (amount : ℕ)
  | sload
  | sstore
  | sstores (amount : ℕ)
  | storeReads (reads : ℕ)
  | storeWrites (writes : ℕ)
  | storeReadsAndWrites (reads writes : ℕ)
  | budget (lent : GasCallsBudget) (calls : ℕ)

/-- Whether the gas sufficed. -/
def Charge.perform : Charge → GasExec Bool
  | .gas amount => accepted (consumeGas amount)
  | .sload => accepted consumeSload
  | .sstore => accepted consumeSstore
  | .sstores amount => accepted (consumeSstores amount)
  | .storeReads reads => accepted (consumeStoreReads config reads)
  | .storeWrites writes => accepted (consumeStoreWrites config writes)
  | .storeReadsAndWrites reads writes => accepted (consumeStoreReadsAndWrites config reads writes)
  | .budget lent calls => lent.consumeCustom calls

/-- What a method does to the recorder: it charges it, sees whether the charge was accepted,
and returns, reverts or goes on as it likes. -/
inductive Method (α : Type) where
  | finish (result : ResultWithPostInfo α)
  | charge (first : Charge) (next : Bool → Method α)

/-- The run of a method with its charges. -/
def Method.run {α : Type} : Method α → GasExec (ResultWithPostInfo α)
  | .finish result => pure result
  | .charge first next => do
    let answer ← first.perform config
    (next answer).run

/-- A contract: how it reads its input, the weight it predicts and what its methods do. -/
structure Contract (Call : Type) where
  parseFull : List UInt8 → Except Error (Option Call)
  dispatchInfo : Call → DispatchInfo
  call : Call → Method (List UInt8)

/-- The first four bytes of the input, the first one the most significant. -/
def selectorOf (input : List UInt8) : ℕ :=
  if 4 ≤ input.length then (input.take 4).foldl (fun value byte => 256 * value + byte.toNat) 0
  else 0

/-- The error for calls of unknown methods. -/
def unrecognizedSelector (input : List UInt8) : Error :=
  .revert ("unrecognized selector: 0x" ++
    String.ofList ((Nat.toDigits 16 (selectorOf input)).leftpad 8 '0'))

variable {Call : Type}

/-- Decodes the input and runs the method. -/
def callInternal (contract : Contract Call) (input : List UInt8) : GasExec (Option (List UInt8)) :=
  match contract.parseFull input with
  | .error error => fail error
  | .ok none => fail (unrecognizedSelector input)
  | .ok (some call) => do
    let dispatchInfo := contract.dispatchInfo call
    consumeGas (config.weightToGas dispatchInfo.weight)
    let result ← (contract.call call).run config
    let unspent := (postInfoOf result).calcUnspent dispatchInfo
    update (returnGas (config.weightToGas unspent))
    match dataOf result with
    | .ok data => pure (some data)
    | .error error => fail error

/-- What the EVM gets back. -/
inductive PrecompileResult where
  | returned (output : List UInt8)
  | revert (message : String)
  | fatal (reason : String)
  | error (exit : ExitError)

/-- The cost that is recorded, a difference of `u64` that is not checked, and the result. -/
def evmToPrecompileOutput (outcome : Outcome Error SubstrateRecorder (Option (List UInt8))) :
    ℕ × Option PrecompileResult :=
  ((outcome.state.initialGas + 2 ^ 64 - outcome.state.gasLeft) % 2 ^ 64,
    match outcome with
    | .ok (some output) _ => some (.returned output)
    | .ok none _ => none
    | .error (.revert message) _ => some (.revert message)
    | .error (.fatal reason) _ => some (.fatal reason)
    | .error (.error exit) _ => some (.error exit))

/-- A call with a gas limit: the recorder after it, the cost it records and its result. -/
def call (contract : Contract Call) (gasLimit : ℕ) (input : List UInt8) :
    SubstrateRecorder × ℕ × Option PrecompileResult :=
  let outcome := (callInternal config contract input).run (.new gasLimit)
  (outcome.state, evmToPrecompileOutput outcome)

end UniqueChain.EvmCoder
