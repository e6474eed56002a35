import UniqueChain.Library.FixedU128
import UniqueChain.Model.UniqueCall

/-!
# Fees of extrinsics

The extension that charges for an extrinsic works in three stages.  `validate`
computes the fee and finds out who pays it, `prepare` withdraws it, and after the
dispatch `post_dispatch_details` gives back what was not used.  Long calls that write
properties are charged more: the fee is multiplied by a coefficient.
-/

namespace UniqueChain

open Execution

/-- A call of the pallet `unique`, or of another pallet. -/
inductive RuntimeCall (T : Config) (Other : Type) where
  | unique (call : UniqueCall T)
  | other (call : Other)

/-- What the extension is generic over: how fees are computed, who sponsors a call, and
how the currency is charged. -/
structure ChargeConfig (T : Config) where
  Storage : Type
  OtherCall : Type
  DispatchInfo : Type
  PostDispatchInfo : Type
  TransactionValidityError : Type
  badSigner : TransactionValidityError
  /-- What a withdrawal leaves to be settled, and its amount. -/
  LiquidityInfo : Type
  peek : LiquidityInfo → ℕ
  /-- The first argument of both is the length; the multiplier of the fees is constant
  during a block. -/
  computeFee : ℕ → DispatchInfo → ℕ → ℕ
  computeFee_le : ∀ len info tip, computeFee len info tip ≤ u128Max
  computeActualFee : ℕ → DispatchInfo → PostDispatchInfo → ℕ → ℕ
  totalWeight : DispatchInfo → ℕ
  maxBlockWeight : ℕ
  maxBlockLength : ℕ
  getSponsor : T.AccountId → RuntimeCall T OtherCall →
    Execution TransactionValidityError Storage (Option T.AccountId)
  canWithdrawFee : T.AccountId → RuntimeCall T OtherCall → DispatchInfo → ℕ → ℕ →
    Execution TransactionValidityError Storage Unit
  withdrawFee : T.AccountId → RuntimeCall T OtherCall → DispatchInfo → ℕ → ℕ →
    Execution TransactionValidityError Storage LiquidityInfo
  correctAndDepositFee : T.AccountId → DispatchInfo → PostDispatchInfo → ℕ → ℕ → LiquidityInfo →
    Execution TransactionValidityError Storage Unit
  freeBalance : Storage → T.AccountId → ℕ

abbrev ChargeExec {T : Config} (C : ChargeConfig T) (α : Type) :=
  Execution C.TransactionValidityError C.Storage α

variable {T : Config}

/-- The calls that write properties. -/
def UniqueCall.writesProperties : UniqueCall T → Bool
  | .setTokenProperties .. => true
  | .setTokenPropertyPermissions => true
  | .deleteTokenProperties => true
  | .setCollectionProperties => true
  | .deleteCollectionProperties => true
  | _ => false

def propertyCoefficient : FixedU128 := .saturatingFromRational 179426 100000

def applyCalculateCoefficient {Other : Type} (call : RuntimeCall T Other) (len fee : ℕ) : ℕ :=
  match call with
  | .other _ => fee
  | .unique call =>
    if call.writesProperties then
      if len > 2048 then propertyCoefficient.saturatingMulInt fee else fee
    else
      fee

namespace ChargeTransactionPayment

variable (C : ChargeConfig T)

/-- The length is cut to 32 bits. -/
def traditionalFee (len : ℕ) (call : RuntimeCall T C.OtherCall) (info : C.DispatchInfo)
    (tip : ℕ) : ℕ :=
  applyCalculateCoefficient call len (C.computeFee (len % 2 ^ 32) info tip)

def getPriority (len : ℕ) (info : C.DispatchInfo) (finalFee : ℕ) : ℕ :=
  let weightSaturation := C.maxBlockWeight / max (C.totalWeight info) 1
  let lenSaturation := C.maxBlockLength / max len 1
  let coefficient := min weightSaturation lenSaturation
  min (min (finalFee * coefficient) u128Max) (2 ^ 64 - 1)

def canWithdrawFee (tip : ℕ) (who : T.AccountId) (call : RuntimeCall T C.OtherCall)
    (info : C.DispatchInfo) (len : ℕ) : ChargeExec C (ℕ × T.AccountId) := do
  let fee := traditionalFee C len call info tip
  let sponsor ← C.getSponsor who call
  let whoPaysFee := sponsor.getD who
  C.canWithdrawFee whoPaysFee call info fee tip
  pure (fee, whoPaysFee)

def withdrawFee (tip : ℕ) (who : T.AccountId) (call : RuntimeCall T C.OtherCall)
    (info : C.DispatchInfo) (fee : ℕ) : ChargeExec C (ℕ × C.LiquidityInfo) := do
  let liquidityInfo ← C.withdrawFee who call info fee tip
  pure (fee, liquidityInfo)

/-- The priority of the extrinsic, the fee, and who pays it. -/
def validate (tip : ℕ) (origin : Option T.AccountId) (call : RuntimeCall T C.OtherCall)
    (info : C.DispatchInfo) (len : ℕ) : ChargeExec C (ℕ × ℕ × T.AccountId) := do
  let who ← okOr origin C.badSigner
  let (finalFee, whoPaysFee) ← canWithdrawFee C tip who call info len
  pure (getPriority C len info finalFee, finalFee, whoPaysFee)

/-- What is kept over the dispatch: the tip, who pays, and the withdrawal. -/
def prepare (tip : ℕ) (val : ℕ × T.AccountId) (call : RuntimeCall T C.OtherCall)
    (info : C.DispatchInfo) : ChargeExec C (ℕ × T.AccountId × C.LiquidityInfo) := do
  let (finalFee, whoPaysFee) := val
  let (_, imbalance) ← withdrawFee C tip whoPaysFee call info finalFee
  pure (tip, whoPaysFee, imbalance)

def postDispatchDetails (pre : ℕ × T.AccountId × C.LiquidityInfo) (info : C.DispatchInfo)
    (postInfo : C.PostDispatchInfo) (len : ℕ) : ChargeExec C Unit := do
  let (tip, whoPaysFee, imbalance) := pre
  let actualFee := C.computeActualFee (len % 2 ^ 32) info postInfo tip
  C.correctAndDepositFee whoPaysFee info postInfo actualFee tip imbalance

end ChargeTransactionPayment

end UniqueChain
