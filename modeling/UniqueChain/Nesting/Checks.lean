import UniqueChain.Library.Analysis
import UniqueChain.Model.Structure

/-!
# Properties that the checks have

The checks of the token operations are walks up the nesting tree, reads of storage and
comparisons.  A compositional property that the walks have is therefore one of the checks
(`CheckAnalysis`): that they write no storage, that they fail with certain errors only, or
that they end the same way from related states.
-/

namespace UniqueChain

open Execution

variable {T : Config}

/-- The error of a computation that leaves the range of its type. -/
def DispatchError.isArithmetic : DispatchError → Bool
  | .overflow | .underflow => true
  | _ => false

/-- A compositional property of the walks.  An execution may read the state if what follows
depends on the view of it only, which shows at least the storage of the pallet `common`. -/
structure CheckAnalysis {ν : Type} (view : State T → ν) (A : (α : Type) → Exec T α → Prop)
    (E : Failure → Prop) : Prop extends Compositional A E where
  dispatch : ∀ error : DispatchError, error.isArithmetic = false → E error
  common : ∀ s t, view t = view s → t.common = s.common
  read_bind : ∀ {α : Type} {next : State T → Exec T α},
    (∀ s t, view t = view s → next t = next s) → (∀ s, A α (next s)) → A α (read >>= next)
  findTopmostOwner : ∀ token, A _ (findTopmostOwner token)
  getCheckedTopmostOwner : ∀ token forNest, A _ (getCheckedTopmostOwner token forNest)

namespace CheckAnalysis

variable {ν : Type} {view : State T → ν} {A : (α : Type) → Exec T α → Prop} {E : Failure → Prop}
  {handle : CollectionHandle T} {sender account : T.CrossAccountId} {child : Token}

variable (hA : CheckAnalysis view A E) {owners : List T.CrossAccountId} {user : T.CrossAccountId}

include hA

theorem ensure {p : Prop} [Decidable p] {error : CommonError} :
    A Unit (Execution.ensure p (error : Failure)) :=
  hA.toCompositional.ensure (hA.dispatch _ rfl)

/-! ## Access -/

theorem checkAllowlist : A Unit (handle.checkAllowlist user) := by
  refine hA.read_bind (fun s t hview => ?_) fun _ => hA.ensure
  rw [CollectionHandle.allowlisted_congr (hA.common s t hview)]

theorem checkAccess {users : List T.CrossAccountId} : A Unit (handle.checkAccess users) :=
  Compositional.ite (hA.forEach fun _ _ => hA.checkAllowlist) (hA.pure ())

theorem checkMintAuthority : A Unit (handle.checkMintAuthority sender owners) := by
  refine hA.read_bind (fun s t hview => ?_) fun _ => Compositional.ite (hA.pure ()) <|
    hA.bind hA.ensure fun _ _ => hA.forEach fun _ _ => hA.checkAllowlist
  rw [CollectionHandle.isOwnerOrAdmin_congr (hA.common s t hview)]

theorem ensureCorrectReceivers {receivers : List T.CrossAccountId} :
    A Unit (Execution.forEach ensureCorrectReceiver receivers) :=
  hA.forEach fun _ _ => hA.ensure

theorem countReceivers {stored : T.CrossAccountId → ℕ} {limit : ℕ}
    {balances : AssocMap T.CrossAccountId ℕ} (hoverflow : E DispatchError.overflow) :
    A _ (UniqueChain.countReceivers stored limit owners balances) := by
  induction owners generalizing balances with
  | nil => exact hA.pure balances
  | cons owner rest ih =>
    exact hA.bind (hA.okOr hoverflow) fun _ _ => hA.bind hA.ensure fun _ _ => ih

/-! ## Nesting -/

theorem checkIndirectlyOwned {token : Token} {forNest : Option Token} :
    A Bool (UniqueChain.checkIndirectlyOwned user token forNest) := by
  have htarget : A _ (targetParent user) := by
    unfold targetParent
    split
    · exact hA.findTopmostOwner _
    · exact hA.pure _
  refine hA.bind htarget fun target _ => ?_
  cases target with
  | none => exact hA.pure false
  | some account => exact hA.bind (hA.getCheckedTopmostOwner _ _) fun _ _ => hA.pure _

theorem dispatch_checkNesting {kind : CollectionDispatch T} {under : TokenId} :
    A Unit (kind.checkNesting sender child under) := by
  cases kind with
  | nonfungible handle =>
    refine hA.bind (hA.bind (Compositional.ite hA.checkIndirectlyOwned (hA.pure false))
      fun owned _ => hA.read_bind (fun s t hview => ?_) fun _ => ?_) fun _ _ => ?_
    · rw [CollectionHandle.isOwnerOrAdmin_congr (hA.common s t hview)]
    · refine Compositional.ite (hA.pure ()) (Compositional.ite ?_ (hA.fail (hA.dispatch _ rfl)))
      exact hA.bind (hA.getCheckedTopmostOwner _ _) fun _ _ => hA.ensure
    · split
      · exact hA.ensure
      · exact hA.pure ()
  | _ => exact hA.fail (hA.dispatch _ rfl)

theorem tryExecIfToken {action : CollectionDispatch T → TokenId → Exec T Unit}
    (haction : ∀ kind token, A Unit (action kind token)) :
    A Unit (UniqueChain.tryExecIfToken account action) := by
  refine hA.bind (hA.toCompositional.ensure (hA.dispatch _ rfl)) fun _ _ => ?_
  split
  · exact hA.pure ()
  · refine hA.read_bind (fun s t hview => ?_) fun _ =>
      hA.bind (hA.okOr (hA.dispatch _ rfl)) fun kind _ => haction kind _
    rw [CollectionDispatch.dispatch_congr (hA.common s t hview)]

theorem checkNesting : A Unit (UniqueChain.checkNesting sender account child) :=
  hA.tryExecIfToken fun _ _ => hA.dispatch_checkNesting

end CheckAnalysis

end UniqueChain
