import UniqueChain.Library.Currency
import UniqueChain.Library.Execution
import UniqueChain.Library.FiniteMap
import UniqueChain.Library.Perbill
import UniqueChain.Library.Transition
import UniqueChain.Model.Primitives

/-!
# The collator selection pallet

Blocks are authored by the invulnerable collators and by candidates.  A candidate
holds a license, for which a bond is held in the currency; it is kicked at the
change of a session if it has not authored a block for too long.

The accounts, the currency and the constants of the runtime are the
configuration of the pallet.  What governance may change between two calls
(the bond, the slash ratio, the kick threshold, the number of collators), the
registered session keys and the number of the block come with every call.
-/

namespace UniqueChain.CollatorSelection

open Execution

/-- The parameters of the pallet. -/
structure Config where
  AccountId : Type
  [decEqAccountId : DecidableEq AccountId]
  ValidatorId : Type
  currency : HoldCurrency AccountId
  treasuryAccountId : AccountId
  /-- The account of the pot that authors are rewarded from. -/
  accountId : AccountId
  maxCollators : ℕ

attribute [instance] Config.decEqAccountId

instance (T : Config) : LawfulBEq T.AccountId := inferInstance

/-- What a call reads besides the storage of the pallet. -/
structure Environment (T : Config) where
  blockNumber : ℕ
  desiredCollators : ℕ
  licenseBond : ℕ
  slashRatio : Perbill
  kickThreshold : ℕ
  validatorIdOf : T.AccountId → Option T.ValidatorId
  isRegistered : T.ValidatorId → Bool

/-- The errors of the pallet. -/
inductive Error where
  | badOrigin
  | tooManyCandidates
  | alreadyHoldingLicense
  | noLicense
  | alreadyCandidate
  | notCandidate
  | tooManyInvulnerables
  | tooFewInvulnerables
  | alreadyInvulnerable
  | notInvulnerable
  | noAssociatedValidatorId
  | validatorNotRegistered
  | failedToDepositImbalance
  | currency
  deriving DecidableEq

/-- The events of the pallet. -/
inductive Event (T : Config) where
  | invulnerableAdded (invulnerable : T.AccountId)
  | invulnerableRemoved (invulnerable : T.AccountId)
  | licenseObtained (accountId : T.AccountId) (deposit : ℕ)
  | licenseReleased (accountId : T.AccountId) (depositReturned : ℕ)
  | candidateAdded (accountId : T.AccountId)
  | candidateRemoved (accountId : T.AccountId)

/-- The storage of the pallet, the ledger of the currency and the events, the
latest first. -/
structure State (T : Config) where
  invulnerables : List T.AccountId
  licenseDepositOf : FiniteMap T.AccountId ℕ
  candidates : List T.AccountId
  lastAuthoredBlock : FiniteMap T.AccountId ℕ
  ledger : T.currency.Ledger
  events : List (Event T)

variable {T : Config}

/-- The latest event first. -/
def State.depositEvent (s : State T) (event : Event T) : State T :=
  { s with events := event :: s.events }

/-- The origin of a call: a signature, or the authority that may change the
parameters of the pallet. -/
inductive Origin (T : Config) where
  | signed (who : T.AccountId)
  | update

/-- Refuses the update origin. -/
def ensureSigned : Origin T → Execution Error (State T) T.AccountId
  | .signed who => pure who
  | .update => fail .badOrigin

/-- Refuses signed calls. -/
def ensureUpdateOrigin : Origin T → Execution Error (State T) Unit
  | .signed _ => fail .badOrigin
  | .update => pure ()

/-! ## Removing candidates and licenses -/

/-- Removes a candidate and returns how many are left. -/
def tryRemoveCandidate (who : T.AccountId) : Execution Error (State T) ℕ := do
  let s ← read
  ensure (who ∈ s.candidates) .notCandidate
  update fun s =>
    { s with
      candidates := s.candidates.erase who
      lastAuthoredBlock := s.lastAuthoredBlock.erase who }
  update (·.depositEvent (.candidateRemoved who))
  return (s.candidates.erase who).length

variable (env : Environment T)

/-- Take the part of the deposit that is slashed to the treasury.  What remains
of the deposit is returned. -/
def slashDeposit (who : T.AccountId) (deposit : ℕ) : Execution Error (State T) ℕ := do
  let slashed := env.slashRatio.mul deposit
  let s ← read
  let imbalance := (T.currency.slash s.ledger who slashed).1
  let ledger := (T.currency.slash s.ledger who slashed).2
  update ({ · with ledger := ledger })
  let ledger ← okOr (T.currency.resolve ledger T.treasuryAccountId imbalance)
    .failedToDepositImbalance
  update ({ · with ledger := ledger })
  return deposit - slashed

/-- Gives the deposit back, a part of it slashed if asked for. -/
def tryReleaseLicense (who : T.AccountId) (shouldSlash : Bool) :
    Execution Error (State T) Unit := do
  let s ← read
  let deposit ← okOr (s.licenseDepositOf.get who) .noLicense
  let depositReturned ← if shouldSlash then slashDeposit env who deposit else pure deposit
  let s ← read
  let ledger ← okOr (T.currency.release s.ledger who depositReturned) .currency
  -- the entry is only taken out once the funds have moved
  update fun s => { s with ledger := ledger, licenseDepositOf := s.licenseDepositOf.erase who }
  update (·.depositEvent (.licenseReleased who depositReturned))

/-- Both of these. -/
def tryRemoveCandidateAndReleaseLicense (who : T.AccountId)
    (shouldSlash ignoreIfNotCandidate : Bool) : Execution Error (State T) ℕ := do
  let outcome ← attempt (tryRemoveCandidate who)
  let s ← read
  let currentCount ← match outcome with
    | .ok count => pure count
    | .error error =>
      if ignoreIfNotCandidate ∧ error = .notCandidate then pure s.candidates.length
      else fail error
  tryReleaseLicense env who shouldSlash
  return currentCount

/-! ## Calls -/

/-- The check that an account has registered session keys. -/
def ensureRegistered (who : T.AccountId) : Execution Error (State T) Unit := do
  let validatorKey ← okOr (env.validatorIdOf who) .noAssociatedValidatorId
  ensure (env.isRegistered validatorKey) .validatorNotRegistered

/-- A collator that is no candidate. -/
def addInvulnerable (origin : Origin T) (new : T.AccountId) : Execution Error (State T) Unit := do
  ensureUpdateOrigin origin
  ensureRegistered env new
  let s ← read
  if new ∈ s.invulnerables then
    pure ()
  else do
    ensure (s.invulnerables.length < T.maxCollators) .tooManyInvulnerables
    update fun s => { s with invulnerables := s.invulnerables ++ [new] }
    let _ ← attempt (tryRemoveCandidate new)
    update (·.depositEvent (.invulnerableAdded new))

/-- The last one stays. -/
def removeInvulnerable (origin : Origin T) (who : T.AccountId) :
    Execution Error (State T) Unit := do
  ensureUpdateOrigin origin
  let s ← read
  ensure (1 < s.invulnerables.length) .tooFewInvulnerables
  ensure (who ∈ s.invulnerables) .notInvulnerable
  update fun s => { s with invulnerables := s.invulnerables.erase who }
  update (·.depositEvent (.invulnerableRemoved who))

/-- Reserves the deposit of a license. -/
def getLicense (origin : Origin T) : Execution Error (State T) Unit := do
  let who ← ensureSigned origin
  let s ← read
  ensure (s.licenseDepositOf.get who = none) .alreadyHoldingLicense
  ensureRegistered env who
  let deposit := env.licenseBond
  let ledger ← okOr (T.currency.hold s.ledger who deposit) .currency
  update fun s =>
    { s with ledger := ledger, licenseDepositOf := s.licenseDepositOf.insert who deposit }
  update (·.depositEvent (.licenseObtained who deposit))

/-- Makes the holder of a license a candidate. -/
def onboard (origin : Origin T) : Execution Error (State T) Unit := do
  let who ← ensureSigned origin
  let s ← read
  ensure (s.licenseDepositOf.get who ≠ none) .noLicense
  ensure (s.candidates.length + s.invulnerables.length < env.desiredCollators) .tooManyCandidates
  ensure (who ∉ s.invulnerables) .alreadyInvulnerable
  ensure (who ∉ s.candidates) .alreadyCandidate
  ensure (s.candidates.length < T.maxCollators) .tooManyCandidates
  update fun s =>
    { s with
      candidates := s.candidates ++ [who]
      lastAuthoredBlock := s.lastAuthoredBlock.insert who
        ((env.blockNumber + env.kickThreshold) % 2 ^ 32) }
  update (·.depositEvent (.candidateAdded who))

/-- Ends one's candidacy. -/
def offboard (origin : Origin T) : Execution Error (State T) Unit := do
  let who ← ensureSigned origin
  let _ ← tryRemoveCandidate who

/-- Ends one's candidacy and gives the license back. -/
def releaseLicense (origin : Origin T) : Execution Error (State T) Unit := do
  let who ← ensureSigned origin
  let _ ← tryRemoveCandidateAndReleaseLicense env who false true

/-- The same for somebody else. -/
def forceReleaseLicense (origin : Origin T) (who : T.AccountId) :
    Execution Error (State T) Unit := do
  ensureUpdateOrigin origin
  let _ ← tryRemoveCandidateAndReleaseLicense env who false true

/-! ## Hooks -/

/-- Pays the author of a block half of the pot. -/
def noteAuthor (author : T.AccountId) : Execution Error (State T) Unit := do
  let s ← read
  let reward := (T.currency.balance s.ledger T.accountId - T.currency.minimumBalance) / 2
  if reward ≠ 0 then
    -- a transfer that fails is ignored
    match T.currency.transfer s.ledger T.accountId author reward with
    | some ledger => update ({ · with ledger := ledger })
    | none => pure ()
  update fun s =>
    { s with lastAuthoredBlock := s.lastAuthoredBlock.insert author env.blockNumber }

/-- A candidate has not authored a block for too long. -/
def IsStale (s : State T) (candidate : T.AccountId) : Prop :=
  env.kickThreshold ≤ env.blockNumber - s.lastAuthoredBlock.getD candidate 0

instance (env : Environment T) (s : State T) (candidate : T.AccountId) :
    Decidable (IsStale env s candidate) :=
  inferInstanceAs (Decidable (_ ≤ _))

/-- Kick the stale ones of a list of candidates and return the others.  A kick
that fails is ignored, together with the candidate. -/
def kickStaleCandidates (env : Environment T) :
    List T.AccountId → Execution Error (State T) (List T.AccountId)
  | [] => pure []
  | candidate :: rest => do
    let s ← read
    if IsStale env s candidate then do
      let _ ← attempt (tryRemoveCandidateAndReleaseLicense env candidate true false)
      kickStaleCandidates env rest
    else do
      let active ← kickStaleCandidates env rest
      return candidate :: active

/-- The invulnerables come first. -/
def assembleCollators (candidates : List T.AccountId) :
    Execution Error (State T) (List T.AccountId) := do
  let s ← read
  return s.invulnerables ++ candidates

/-- Kicks stale candidates and returns the collators. -/
def newSession : Execution Error (State T) (List T.AccountId) := do
  let s ← read
  let activeCandidates ← kickStaleCandidates env s.candidates
  assembleCollators activeCandidates

/-! ## Runs -/

/-- The calls that are dispatched; each of them changes nothing if it fails. -/
inductive Call (T : Config) where
  | addInvulnerable (new : T.AccountId)
  | removeInvulnerable (who : T.AccountId)
  | getLicense
  | onboard
  | offboard
  | releaseLicense
  | forceReleaseLicense (who : T.AccountId)

/-- What a call does. -/
def Call.execute (origin : Origin T) :
    Call T → Execution Error (State T) Unit
  | .addInvulnerable new => CollatorSelection.addInvulnerable env origin new
  | .removeInvulnerable who => CollatorSelection.removeInvulnerable origin who
  | .getLicense => CollatorSelection.getLicense env origin
  | .onboard => CollatorSelection.onboard env origin
  | .offboard => CollatorSelection.offboard origin
  | .releaseLicense => CollatorSelection.releaseLicense env origin
  | .forceReleaseLicense who => CollatorSelection.forceReleaseLicense env origin who

/-- What happens to the pallet: a dispatched call, or one of the hooks that the
authorship and session pallets call. -/
inductive Action (T : Config) where
  | call (origin : Origin T) (call : Call T)
  | noteAuthor (author : T.AccountId)
  | newSession

/-- What happens to the pallet, and when. -/
structure Input (T : Config) where
  env : Environment T
  action : Action T

/-- The state after an action; a call that fails is rejected, and a hook is not
rolled back. -/
def step (s : State T) (input : Input T) : Option (State T) :=
  match input.action with
  | .call origin call =>
    match (call.execute input.env origin).run s with
    | .ok _ s' => some s'
    | .error _ _ => none
  | .noteAuthor author => some (noteAuthor input.env author |>.run s).state
  | .newSession => some (newSession input.env |>.run s).state

/-- The genesis with the given invulnerables; more of them than there may be
collators, or the same one twice, is no genesis. -/
structure Genesis (T : Config) where
  invulnerables : List T.AccountId
  nodup : invulnerables.Nodup
  length_le : invulnerables.length ≤ T.maxCollators
  ledger : T.currency.Ledger
  /-- No bond has been held yet. -/
  held_eq_zero : ∀ account, T.currency.held ledger account = 0
  journal_eq_nil : ∀ account, T.currency.journal ledger account = []

/-- The state at genesis. -/
def Genesis.build (genesis : Genesis T) : State T where
  invulnerables := genesis.invulnerables
  licenseDepositOf := .empty
  candidates := []
  lastAuthoredBlock := .empty
  ledger := genesis.ledger
  events := []

end UniqueChain.CollatorSelection
