import UniqueChain.Nesting.Storage

/-!
# What the nesting operations fail with

A walk fails with an error of the pallet `structure`, and the check of the
nesting rules with one of these or with a refusal of its own.  No arithmetic is
involved and nothing is unwrapped, so none of them leaves the range of a type and
none panics.
-/

namespace UniqueChain

open Execution

variable {T : Config}

variable {child : Token} {token : Token}

/-- The failure is not an arithmetic overflow. -/
def NotOverflow (failure : Failure) : Prop := failure ≠ DispatchError.overflow

theorem notOverflow_dispatch (error : DispatchError) (herror : error.isArithmetic = false) :
    NotOverflow error := by
  rintro ⟨⟩
  cases herror

theorem notOverflow_common (error : CommonError) : NotOverflow error :=
  notOverflow_dispatch _ rfl

/-- The failure is not an arithmetic underflow. -/
def NotUnderflow (failure : Failure) : Prop := failure ≠ DispatchError.underflow

theorem notUnderflow_dispatch (error : DispatchError) (herror : error.isArithmetic = false) :
    NotUnderflow error := by
  rintro ⟨⟩
  cases herror

theorem notUnderflow_common (error : CommonError) : NotUnderflow error :=
  notUnderflow_dispatch _ rfl

/-- The failure is not a panic. -/
def NotPanicked (failure : Failure) : Prop := failure ≠ .panicked

theorem notPanicked_dispatch (error : DispatchError) : NotPanicked error := by
  simp [NotPanicked]

section Walks

variable {P : Failure → Prop} 
  (hdispatch : ∀ error : DispatchError, error.isArithmetic = false → P error)

include hdispatch

theorem failsWithin_findTopmostOwner : FailsWithin P (findTopmostOwner token : Exec T _) := by
  refine .bind .read fun s => .bind .update fun _ => ?_
  split
  · exact .fail (hdispatch _ rfl)
  · exact .pure
  · exact .pure
  · exact .fail (hdispatch _ rfl)

theorem failsWithin_getCheckedTopmostOwner {forNest : Option Token} :
    FailsWithin P (getCheckedTopmostOwner token forNest : Exec T _) := by
  refine .bind .read fun s => .bind (.ensure (hdispatch _ rfl)) fun _ =>
    .bind .update fun _ => ?_
  split
  · exact .pure
  · exact .fail (hdispatch _ rfl)

theorem checks_failWithin :
    CheckAnalysis (T := T) State.storage (fun _ body => FailsWithin P body) P where
  toCompositional := compositional_failsWithin
  dispatch := hdispatch
  common _ _ hstorage := (State.storage_eq_iff.mp hstorage).1
  read_bind _ hnext := .bind .read hnext
  findTopmostOwner _ := failsWithin_findTopmostOwner hdispatch
  getCheckedTopmostOwner _ _ := failsWithin_getCheckedTopmostOwner hdispatch

theorem failsWithin_nestIfSentToToken {sender account : T.CrossAccountId} :
    FailsWithin P (nestIfSentToToken sender account child) :=
  (checks_failWithin hdispatch).tryExecIfToken fun _ _ =>
    .bind (checks_failWithin hdispatch).dispatch_checkNesting fun _ => .update

end Walks

end UniqueChain
