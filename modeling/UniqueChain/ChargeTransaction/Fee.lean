import UniqueChain.Model.ChargeTransaction
import UniqueChain.Model.Reference

/-!
# What an extrinsic pays in the end

The coefficient for long calls that write properties is part of the fee that `prepare`
withdraws.  What is given back after the dispatch is the difference to the actual fee,
and that one is computed without the coefficient: `post_dispatch_details` does not see
the call.  So the payer always pays the actual fee, and the surcharge comes back.
-/

namespace UniqueChain

open Execution

variable {T : Config} {C : ChargeConfig T}

/-- The currency is charged exactly: a withdrawal takes the fee, and a correction gives
back what was withdrawn beyond the corrected fee. -/
structure ExactCharge (C : ChargeConfig T) : Prop where
  withdrawn : ∀ {who call info fee tip imbalance storage storage'},
    (C.withdrawFee who call info fee tip).run storage = .ok imbalance storage' →
      C.peek imbalance = fee ∧ C.freeBalance storage who = C.freeBalance storage' who + fee
  corrected : ∀ {who info postInfo fee tip imbalance storage storage'},
    (C.correctAndDepositFee who info postInfo fee tip imbalance).run storage = .ok () storage' →
      C.freeBalance storage' who = C.freeBalance storage who + (C.peek imbalance - fee)

/-! ## The coefficient -/

section Coefficient

variable {Other : Type} {call : RuntimeCall T Other} {len fee : ℕ}

/-- A call that pays the surcharge. -/
def Surcharged (call : RuntimeCall T Other) (len : ℕ) : Prop :=
  2048 < len ∧ ∃ uniqueCall : UniqueCall T, call = .unique uniqueCall ∧ uniqueCall.writesProperties

theorem one_le_propertyCoefficient : FixedU128.div ≤ propertyCoefficient.inner := by decide

theorem applyCalculateCoefficient_of_surcharged (hcall : Surcharged call len) :
    applyCalculateCoefficient call len fee = propertyCoefficient.saturatingMulInt fee := by
  obtain ⟨hlen, uniqueCall, rfl, hwrites⟩ := hcall
  rw [applyCalculateCoefficient, if_pos hwrites, if_pos hlen]

theorem applyCalculateCoefficient_of_not_surcharged (hcall : ¬ Surcharged call len) :
    applyCalculateCoefficient call len fee = fee := by
  cases call with
  | other call => rfl
  | unique call =>
    by_cases hwrites : call.writesProperties
    · have hlen : ¬ len > 2048 := fun hlen => hcall ⟨hlen, call, rfl, hwrites⟩
      rw [applyCalculateCoefficient, if_pos hwrites, if_neg hlen]
    · rw [applyCalculateCoefficient, if_neg hwrites]

/-- The coefficient only raises a fee. -/
theorem le_applyCalculateCoefficient (hfee : fee ≤ u128Max) :
    fee ≤ applyCalculateCoefficient call len fee := by
  by_cases hcall : Surcharged call len
  · rw [applyCalculateCoefficient_of_surcharged hcall]
    refine FixedU128.le_saturatingMulInt one_le_propertyCoefficient ?_
    unfold u128Max at hfee
    omega
  · rw [applyCalculateCoefficient_of_not_surcharged hcall]

/-- A surcharge that is not lost in rounding makes a difference. -/
theorem applyCalculateCoefficient_eq_self_iff (hfee : fee ≤ u128Max) :
    applyCalculateCoefficient call len fee = fee ↔
      ¬ Surcharged call len ∨ fee ≤ 1 ∨ fee = u128Max := by
  by_cases hcall : Surcharged call len
  · have hwidth : fee < 2 ^ 128 := by
      unfold u128Max at hfee
      omega
    rw [applyCalculateCoefficient_of_surcharged hcall,
      FixedU128.saturatingMulInt_eq_self_iff one_le_propertyCoefficient hwidth]
    have hsurplus : propertyCoefficient.inner - FixedU128.div = 794260000000000000 := by decide
    have hone : FixedU128.div = 1000000000000000000 := by decide
    rw [hsurplus, hone, u128Max]
    simp only [hcall, not_true_eq_false, false_or]
    omega
  · simp [applyCalculateCoefficient_of_not_surcharged hcall, hcall]

end Coefficient

/-! ## The three stages -/

namespace ChargeTransactionPayment

variable {tip len fee priority : ℕ} {origin : Option T.AccountId} {payer : T.AccountId}
  {call : RuntimeCall T C.OtherCall} {info : C.DispatchInfo} {postInfo : C.PostDispatchInfo}
  {pre : ℕ × T.AccountId × C.LiquidityInfo} {s s' : C.Storage}

theorem validate_ok
    (hrun : (validate C tip origin call info len).run s = .ok (priority, fee, payer) s') :
    fee = traditionalFee C len call info tip := by
  simp only [validate, canWithdrawFee, okOr_bind_ok] at hrun
  obtain ⟨who, horigin, hrun⟩ := hrun
  obtain ⟨⟨finalFee, whoPaysFee⟩, middle, hfee, hresult⟩ := bind_ok.mp hrun
  obtain ⟨sponsor, _, _, hfee⟩ := bind_ok.mp hfee
  obtain ⟨_, _, hfee⟩ := bind_unit_ok.mp hfee
  cases (pure_ok.mp hfee).1
  cases (pure_ok.mp hresult).1
  rfl

theorem prepare_ok (hrun : (prepare C tip (fee, payer) call info).run s = .ok pre s') :
    ∃ imbalance, pre = (tip, payer, imbalance) ∧
      (C.withdrawFee payer call info fee tip).run s = .ok imbalance s' := by
  obtain ⟨⟨_, imbalance⟩, middle, hwithdraw, hresult⟩ := bind_ok.mp hrun
  obtain ⟨liquidityInfo, _, hcharge, hpair⟩ := bind_ok.mp hwithdraw
  obtain ⟨hpair, rfl⟩ := pure_ok.mp hpair
  obtain ⟨hpre, rfl⟩ := pure_ok.mp hresult
  cases hpair
  exact ⟨imbalance, hpre.symm, hcharge⟩

end ChargeTransactionPayment

section

open ChargeTransactionPayment

variable {tip len fee priority : ℕ} {origin : Option T.AccountId} {payer : T.AccountId}
  {call : RuntimeCall T C.OtherCall} {info : C.DispatchInfo} {postInfo : C.PostDispatchInfo}
  {pre : ℕ × T.AccountId × C.LiquidityInfo}
  {start validated prepared dispatched settled : C.Storage}
  (hexact : ExactCharge C) (hactual : ∀ len info postInfo tip,
    C.computeActualFee len info postInfo tip ≤ C.computeFee len info tip)
  (hvalidate : (validate C tip origin call info len).run start =
    .ok (priority, fee, payer) validated)
  (hprepare : (prepare C tip (fee, payer) call info).run validated = .ok pre prepared)
  (hpost : (postDispatchDetails C pre info postInfo len).run dispatched = .ok () settled)

include hexact hactual hvalidate hprepare hpost

/-- Whatever is withdrawn, the payer ends up with the actual fee. -/
theorem ChargeTransactionPayment.paid_eq_actualFee :
    (C.freeBalance validated payer - C.freeBalance prepared payer) -
        (C.freeBalance settled payer - C.freeBalance dispatched payer) =
      C.computeActualFee (len % 2 ^ 32) info postInfo tip := by
  obtain ⟨imbalance, rfl, hwithdraw⟩ := prepare_ok hprepare
  obtain ⟨hamount, hwithdrawn⟩ := hexact.withdrawn hwithdraw
  have hrefunded := hexact.corrected hpost
  have hfee : C.computeActualFee (len % 2 ^ 32) info postInfo tip ≤ fee := by
    rw [validate_ok hvalidate]
    exact (hactual ..).trans (le_applyCalculateCoefficient (C.computeFee_le ..))
  rw [hamount] at hrefunded
  omega

/-- What is withdrawn before the dispatch less what is given back after it is the actual
fee with the coefficient, if and only if the call pays no surcharge, or the actual fee
is so small or so large that the surcharge is lost in rounding. -/
theorem fee_paid_with_coefficient_iff :
    (C.freeBalance validated payer - C.freeBalance prepared payer) -
          (C.freeBalance settled payer - C.freeBalance dispatched payer) =
        applyCalculateCoefficient call len
          (C.computeActualFee (len % 2 ^ 32) info postInfo tip) ↔
      ¬ Surcharged call len ∨
        C.computeActualFee (len % 2 ^ 32) info postInfo tip ≤ 1 ∨
        C.computeActualFee (len % 2 ^ 32) info postInfo tip = u128Max := by
  rw [paid_eq_actualFee hexact hactual hvalidate hprepare hpost, eq_comm]
  exact applyCalculateCoefficient_eq_self_iff ((hactual ..).trans (C.computeFee_le ..))

end

namespace FeeExample

/-- Every byte and every unit of weight costs one, and the tip is added.  The storage is
the balance of the account that pays. -/
abbrev charging : ChargeConfig reference where
  Storage := ℕ
  OtherCall := Unit
  DispatchInfo := ℕ
  PostDispatchInfo := ℕ
  TransactionValidityError := Unit
  badSigner := ()
  LiquidityInfo := ℕ
  peek := id
  computeFee len info tip := min (len + info + tip) u128Max
  computeFee_le _ _ _ := Nat.min_le_right ..
  computeActualFee len info postInfo tip := min (len + min info postInfo + tip) u128Max
  totalWeight := id
  maxBlockWeight := 1000000
  maxBlockLength := 5000
  getSponsor _ _ := pure none
  canWithdrawFee _ _ _ fee _ := do
    let balance ← read
    ensure (fee ≤ balance) ()
  withdrawFee _ _ _ fee _ := do
    let balance ← read
    ensure (fee ≤ balance) ()
    update (· - fee)
    pure fee
  correctAndDepositFee _ _ _ fee _ imbalance := update (· + (imbalance - fee))
  freeBalance balance _ := balance

theorem charging_exact : ExactCharge charging where
  withdrawn := by
    intro who call info fee tip imbalance storage storage' hrun
    obtain ⟨hcovered, hrun⟩ := ensure_bind_ok.mp (read_bind_ok.mp hrun)
    have hpaid := update_bind_ok.mp hrun
    obtain ⟨rfl, rfl⟩ := pure_ok.mp hpaid
    exact ⟨rfl, (Nat.sub_add_cancel hcovered).symm⟩
  corrected := by
    intro who info postInfo fee tip imbalance storage storage' hrun
    exact (update_ok.mp hrun).symm

theorem charging_actual_le (len : ℕ) (info : charging.DispatchInfo)
    (postInfo : charging.PostDispatchInfo) (tip : ℕ) :
    charging.computeActualFee len info postInfo tip ≤ charging.computeFee len info tip := by
  show min (len + min info postInfo + tip) u128Max ≤ min (len + info + tip) u128Max
  omega

def transferCall : RuntimeCall reference Unit := .unique (.transfer 1 1)

def propertiesCall : RuntimeCall reference Unit := .unique (.setTokenProperties 1 1 [])

open ChargeTransactionPayment

/-- A long transfer that used half of its weight pays its actual fee. -/
theorem fee_paid_with_coefficient_transfer :
    (10000 - 6800) - (6900 - 6800) = applyCalculateCoefficient transferCall 3000
      (charging.computeActualFee (3000 % 2 ^ 32) (200 : ℕ) (100 : ℕ) 0) := by
  have hvalidate : (validate charging 0 (some .alice) transferCall (200 : ℕ) 3000).run
      (10000 : ℕ) = .ok (3200, 3200, .alice) (10000 : ℕ) := by decide +kernel
  have hprepare : (prepare charging 0 (3200, .alice) transferCall (200 : ℕ)).run
      (10000 : ℕ) = .ok (0, .alice, 3200) (6800 : ℕ) := by decide +kernel
  have hpost : (postDispatchDetails charging (0, .alice, 3200) (200 : ℕ) (100 : ℕ) 3000).run
      (6800 : ℕ) = .ok () (6900 : ℕ) := by decide +kernel
  refine (fee_paid_with_coefficient_iff charging_exact charging_actual_le hvalidate hprepare
    hpost).mpr (.inl ?_)
  rintro ⟨_, uniqueCall, hcall, hwrites⟩
  cases hcall
  cases hwrites

/-- A long call that writes properties is charged the surcharge, and gets it back. -/
theorem surcharge_refunded :
    (validate charging 0 (some .alice) propertiesCall (200 : ℕ) 3000).run (10000 : ℕ) =
        .ok (5741, 5741, .alice) (10000 : ℕ) ∧
      (prepare charging 0 (5741, .alice) propertiesCall (200 : ℕ)).run (10000 : ℕ) =
        .ok (0, .alice, 5741) (4259 : ℕ) ∧
      (postDispatchDetails charging (0, .alice, 5741) (200 : ℕ) (200 : ℕ) 3000).run (4259 : ℕ) =
        .ok () (6800 : ℕ) ∧
      Surcharged propertiesCall 3000 ∧
      (10000 - 4259) - (6800 - 4259) = 3200 ∧
      applyCalculateCoefficient propertiesCall 3000
        (charging.computeActualFee (3000 % 2 ^ 32) (200 : ℕ) (200 : ℕ) 0) = 5741 := by
  refine ⟨by decide +kernel, by decide +kernel, by decide +kernel, ?_, rfl, by decide +kernel⟩
  exact ⟨by decide, _, rfl, rfl⟩

end FeeExample

end UniqueChain
