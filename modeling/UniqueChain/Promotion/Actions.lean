import UniqueChain.Promotion.Payout

/-!
# What an action does

One case distinction for everything that can happen to the pallet.  An invariant of
the pallet is proved by going through these cases; the code is not looked at again.
-/

namespace UniqueChain.AppPromotion

open Execution

variable {T : Config} {s s' : State T} {env : Environment}

/-- What an action does, as a case distinction. -/
inductive Acts (env : Environment) : Action T → State T → State T → Prop
  | setAdmin {origin : Origin T} {admin : T.AccountId} {s : State T} :
      Acts env (.call origin (.setAdminAddress admin)) s
        (({ s with admin := some admin } : State T).depositEvent (.setAdmin admin))
  | stake {stakerId : T.AccountId} {amount : ℕ} {s s' : State T}
      (hstaked : Staked env stakerId amount s s') :
      Acts env (.call (.signed stakerId) (.stake amount)) s s'
  | unstakePart {stakerId : T.AccountId} {amount : ℕ} {s s' : State T}
      (hunstaked : UnstakedPartially env stakerId amount s s') :
      Acts env (.call (.signed stakerId) (.unstakePartial amount)) s s'
  | unstakeNothing {stakerId : T.AccountId} {s : State T} :
      Acts env (.call (.signed stakerId) (.unstakePartial 0)) s s
  | unstakeAll {stakerId : T.AccountId} {s s' : State T}
      (hunstaked : UnstakedAll env stakerId s s') :
      Acts env (.call (.signed stakerId) .unstakeAll) s s'
  | drain {stakerId : T.AccountId} {s s' : State T} (hdrained : Drained stakerId s s') :
      Acts env (.call (.signed stakerId) .unstakeAll) s s'
  | payout {adminId : T.AccountId} {number : Option ℕ} {stakers : ℕ}
      {left : List (Key T × Stake)} {s s' : State T}
      (hinterval : env.config.recalculationInterval ≠ 0) (hnumber : stakers ≠ 0)
      (hpays : PaysPage env stakers s left s') :
      Acts env (.call (.signed adminId) (.payoutStakers number)) s s'
  | resolve {signer : T.AccountId} {blocks : List ℕ} {s s' : State T}
      (hpast : ∀ block ∈ blocks, block < env.blockNumber)
      (hresolved : Resolved blocks s s') :
      Acts env (.call (.signed signer) (.resolveSkippedBlocks blocks)) s s'
  | begin {s s' : State T} (hresolved : Resolved [env.blockNumber] s s') :
      Acts env .onInitialize s s'
  | maintain {s : State T} : Acts env .onInitialize s s

theorem ensureSigned_ok {origin : Origin T} {who : T.AccountId} :
    (ensureSigned origin).run s = .ok who s' ↔ origin = .signed who ∧ s = s' := by
  cases origin <;> simp [ensureSigned]

theorem acts_of_execute {origin : Origin T} {call : Call T}
    (hrun : (call.execute env origin).run s = .ok () s') :
    Acts env (.call origin call) s s' := by
  cases call with
  | setAdminAddress admin =>
    simp only [Call.execute, setAdminAddress] at hrun
    split at hrun
    · rw [update_bind_ok, update_ok] at hrun
      obtain rfl := hrun
      exact .setAdmin
    · exact absurd hrun fail_ok
  | stake amount =>
    obtain ⟨who, _, horigin, hrun⟩ := bind_ok.mp hrun
    obtain ⟨rfl, rfl⟩ := ensureSigned_ok.mp horigin
    exact .stake (stake_ok hrun)
  | unstakeAll =>
    obtain ⟨who, _, horigin, hrun⟩ := bind_ok.mp hrun
    obtain ⟨rfl, rfl⟩ := ensureSigned_ok.mp horigin
    rcases unstakeAllInternal_ok hrun with hdrained | hunstaked
    · exact .drain hdrained
    · exact .unstakeAll hunstaked
  | unstakePartial amount =>
    obtain ⟨who, _, horigin, hrun⟩ := bind_ok.mp hrun
    obtain ⟨rfl, rfl⟩ := ensureSigned_ok.mp horigin
    rcases unstakePartialInternal_ok hrun with ⟨rfl, rfl⟩ | hunstaked
    · exact .unstakeNothing
    · exact .unstakePart hunstaked
  | payoutStakers number =>
    obtain ⟨who, _, horigin, hrun⟩ := bind_ok.mp hrun
    obtain ⟨rfl, rfl⟩ := ensureSigned_ok.mp horigin
    obtain ⟨hinterval, stakers, left, hnumber, hpays⟩ := payoutStakers_ok hrun
    exact .payout hinterval hnumber hpays
  | resolveSkippedBlocks blocks =>
    obtain ⟨who, _, horigin, hrun⟩ := bind_ok.mp hrun
    obtain ⟨rfl, rfl⟩ := ensureSigned_ok.mp horigin
    obtain ⟨hpast, hresolved⟩ := resolveSkippedBlocks_ok hrun
    exact .resolve hpast hresolved

theorem acts_of_step {input : Input T} (hstep : step s input = some s') :
    Acts input.env input.action s s' := by
  obtain ⟨env, action⟩ := input
  cases action with
  | call origin call =>
    simp only [step] at hstep
    split at hstep
    · rename_i hrun
      cases hstep
      exact acts_of_execute hrun
    · cases hstep
  | onInitialize =>
    simp only [step, Option.some.injEq] at hstep
    subst hstep
    rcases onInitialize_cases env s with hsame | hresolved
    · rw [hsame]
      exact .maintain
    · exact .begin hresolved

end UniqueChain.AppPromotion
