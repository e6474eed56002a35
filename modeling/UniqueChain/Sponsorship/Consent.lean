import UniqueChain.Sponsorship.Contracts

/-!
# Nobody sponsors without consent

A sponsorship is a small state machine: somebody is asked to be the sponsor, and
confirms, or is made the sponsor by force, or is removed.  `consented_of_run` says of any
system with such a machine in it that a confirmed sponsor was made so by force, or has
confirmed after having been asked, and that no other change came after.

The machine of a collection and that of a contract are two instances.
-/

namespace UniqueChain

open Execution FiniteMap

/-! ## The state machine -/

/-- The calls of a system that concern one sponsorship. -/
structure SponsorshipCalls (σ ι Account : Type) where
  /-- The account is asked to be the sponsor. -/
  requests : Account → σ → ι → Prop
  /-- The account is made the sponsor without being asked. -/
  forces : Account → σ → ι → Prop
  /-- The account confirms. -/
  confirms : Account → σ → ι → Prop
  /-- The call sets or removes a sponsor; a confirmation does not. -/
  changes : σ → ι → Prop

namespace SponsorshipCalls

variable {σ ι Account : Type} (calls : SponsorshipCalls σ ι Account)

/-- What a call does to the sponsorship. -/
inductive Effect (s : σ) (call : ι) (before : SponsorshipState Account) :
    SponsorshipState Account → Prop
  | kept (hquiet : ¬ calls.changes s call) : Effect s call before before
  | requested {account : Account} (hcall : calls.requests account s call) :
      Effect s call before (.unconfirmed account)
  | forced {account : Account} (hcall : calls.forces account s call) :
      Effect s call before (.confirmed account)
  | confirmed {account : Account} (hcall : calls.confirms account s call)
      (hquiet : ¬ calls.changes s call) (hpending : before.pendingSponsor = some account) :
      Effect s call before (.confirmed account)
  | removed : Effect s call before .disabled

/-- The account was asked, and no change came after. -/
def Asked (account : Account) : List (CallRecord σ ι) → Prop :=
  Since (fun _ event => calls.requests account event.state event.call)
    fun event => calls.changes event.state event.call

/-- The account was made the sponsor by force, or confirmed after it was asked, and no
change came after. -/
def Consented (account : Account) : List (CallRecord σ ι) → Prop :=
  Since (fun earlier event => calls.forces account event.state event.call ∨
      calls.confirms account event.state event.call ∧ calls.Asked account earlier)
    fun event => calls.changes event.state event.call

variable {step : σ → ι → Option σ} {start s : σ} {history : List (CallRecord σ ι)}

/-- The sponsorship after each run: a pending sponsor was asked, a confirmed one
consented. -/
theorem consented_of_run (sponsorship : σ → SponsorshipState Account)
    (hstart : sponsorship start = .disabled)
    (heffect : ∀ s call s', step s call = some s' →
      calls.Effect s call (sponsorship s) (sponsorship s'))
    (hrun : Run step start history s) :
    (∀ account, sponsorship s = .unconfirmed account → calls.Asked account history) ∧
      ∀ account, sponsorship s = .confirmed account → calls.Consented account history := by
  induction hrun with
  | start =>
    rw [hstart]
    exact ⟨nofun, nofun⟩
  | rejected hrun hstep ih => exact ih
  | @accepted history s s' call hrun hstep ih =>
    obtain ⟨hasked, hconsented⟩ := ih
    generalize hbefore : sponsorship s = before at hasked hconsented
    generalize hafter : sponsorship s' = after
    have hcall := heffect s call s' hstep
    rw [hbefore, hafter] at hcall
    cases hcall with
    | kept hquiet =>
      exact ⟨fun account hpending => .later (hasked account hpending) hquiet,
        fun account hconfirmed => .later (hconsented account hconfirmed) hquiet⟩
    | requested hcall =>
      refine ⟨?_, nofun⟩
      rintro account ⟨⟩
      exact .now hcall
    | forced hcall =>
      refine ⟨nofun, ?_⟩
      rintro account ⟨⟩
      exact .now (.inl hcall)
    | confirmed hcall hquiet hpending =>
      refine ⟨nofun, ?_⟩
      rintro account ⟨⟩
      -- a confirmed sponsor may confirm once more, which changes nothing
      cases before with
      | disabled => cases hpending
      | unconfirmed sponsor =>
        cases hpending
        exact .now (.inr ⟨hcall, hasked _ rfl⟩)
      | confirmed sponsor =>
        cases hpending
        exact .later (hconsented _ rfl) hquiet
    | removed => exact ⟨nofun, nofun⟩

end SponsorshipCalls

/-! ## Collections -/

variable {T : Config} {S : SponsorConfig T} {x x' : SponsoredState S} {sender : T.CrossAccountId}
  {operation : SettingsCall T}

/-- The settings calls that set or remove a sponsor. -/
def SettingsCall.changesSponsor : SettingsCall T → Bool
  | .setSponsor .. => true
  | .forceSetSponsor _ => true
  | .removeSponsor _ => true
  | .forceRemoveSponsor => true
  | _ => false

/-- The settings calls that have to do with the sponsor. -/
def SettingsCall.concernsSponsor : SettingsCall T → Bool
  | .confirmSponsorship _ => true
  | operation => operation.changesSponsor

section Settings

variable {s s' : State T} {handle : CollectionHandle T}

/-- The sponsorship of a collection; there is none without the collection. -/
def sponsorshipOf (s : State T) (collection : CollectionId) : SponsorshipState T.AccountId :=
  (s.common.collectionById.get collection).elim .disabled (·.sponsorship)

variable {collection : CollectionId}

theorem sponsorshipOf_eq_of_get {data : Collection T.AccountId}
    (hstored : s.common.collectionById.get collection = some data) :
    sponsorshipOf s collection = data.sponsorship := by
  rw [sponsorshipOf, hstored]
  rfl

theorem sponsorshipOf_settings
    (hrun : (Call.settings collection operation).execute.run s = .ok () s') :
    sponsorshipOf s' collection = operation.newSponsorship (sponsorshipOf s collection) := by
  obtain ⟨handle, hfound, hexecuted⟩ := Call.settings_ok.mp hrun
  obtain rfl := hfound.id_eq
  obtain ⟨common, hwrites, hstorage⟩ := SettingsCall.execute_writes hexecuted
  obtain ⟨data, hstored, hsponsorship⟩ := hwrites.sponsorship hfound.stored
  obtain rfl : s'.common = common := (State.storage_eq_iff.mp hstorage).1
  rw [sponsorshipOf_eq_of_get hstored, sponsorshipOf_eq_of_get hfound.stored, hsponsorship]

/-- The call creates, destroys or sets up the collection. -/
def Call.Concerns (collection : CollectionId) (s : State T) : Call T → Prop
  | .createCollection .. => collection = s.common.createdCollectionCount + 1
  | .destroyCollection _ other => other = collection
  | .settings other _ => other = collection
  | _ => False

/-- Calls about other things leave the sponsorship of a collection alone. -/
theorem sponsorshipOf_eq_of_other {call : Call T} (hrun : call.execute.run s = .ok () s')
    (hother : ¬ call.Concerns collection s) :
    sponsorshipOf s' collection = sponsorshipOf s collection := by
  obtain ⟨s₁, hchain, hstorage⟩ := Call.execute_ok hrun
  have hsame : s₁.common.collectionById.get collection = s.common.collectionById.get
    collection := by
    refine hchain.collectionById_eq ?_ ?_ ?_
    · rintro sender issuer data rfl
      exact hother
    · rintro operation rfl
      exact hother rfl
    · rintro sender rfl
      exact hother rfl
  rw [sponsorshipOf, (State.storage_eq_iff.mp hstorage).1, hsame, sponsorshipOf]

theorem sponsorshipOf_destroyed
    (hrun : (Call.destroyCollection sender collection).execute.run s = .ok () s') :
    sponsorshipOf s' collection = .disabled := by
  obtain ⟨_, handle, hfound, s₁, hdestroyed, hstorage⟩ := destroyCollection_ok hrun
  obtain rfl := hfound.id_eq
  have herased : s₁.common.collectionById.get handle.id = none := by
    cases hdestroyed with
    | _ => exact get_erase_self ..
  rw [sponsorshipOf, (State.storage_eq_iff.mp hstorage).1, herased]
  rfl

end Settings

variable {collection : CollectionId} {chain : State T} {budget : ℕ}

/-- An owner or admin of the collection, or its creator, names a sponsor. -/
inductive RequestsSponsor (collection : CollectionId) :
    T.AccountId → SponsoredState S → SponsoredCall S → Prop
  | setSponsor {sender : T.CrossAccountId} {sponsor : T.AccountId} {budget : ℕ}
      {handle : CollectionHandle T} {x : SponsoredState S}
      (hfound : FoundHandle x.chain collection handle)
      (hsender : handle.isOwnerOrAdmin x.chain sender = true) :
      RequestsSponsor collection sponsor x
        (.extrinsic ⟨.settings collection (.setSponsor sender sponsor), budget⟩)
  | created {sender sponsor : T.CrossAccountId} {issuer : CollectionIssuer T}
      {data : CreateCollectionData T.CrossAccountId} {budget : ℕ} {x : SponsoredState S}
      (hnew : collection = x.chain.common.createdCollectionCount + 1)
      (hpending : data.pendingSponsor = some sponsor) :
      RequestsSponsor collection (T.asSub sponsor) x
        (.extrinsic ⟨.createCollection sender issuer data, budget⟩)

/-- The privileged call, by itself or by the admin of `app-promotion` for its account. -/
inductive ForcesSponsor (collection : CollectionId) :
    T.AccountId → SponsoredState S → SponsoredCall S → Prop
  | forceSetSponsor {sponsor : T.AccountId} {budget : ℕ} {x : SponsoredState S} :
      ForcesSponsor collection sponsor x
        (.extrinsic ⟨.settings collection (.forceSetSponsor sponsor), budget⟩)
  | sponsorCollection {adminId : T.AccountId} {x : SponsoredState S}
      (hadmin : x.admin = some adminId) :
      ForcesSponsor collection S.promotionAccount x (.sponsorCollection adminId collection)

/-- The account itself confirms. -/
inductive ConfirmsSponsorship (collection : CollectionId) :
    T.AccountId → SponsoredState S → SponsoredCall S → Prop
  | confirmSponsorship {sponsor : T.AccountId} {budget : ℕ} {x : SponsoredState S} :
      ConfirmsSponsorship collection sponsor x
        (.extrinsic ⟨.settings collection (.confirmSponsorship sponsor), budget⟩)

/-- The calls that set or remove the sponsor of the collection. -/
def ChangesSponsor (collection : CollectionId) (x : SponsoredState S) : SponsoredCall S → Prop
  | .extrinsic ⟨.settings other operation, _⟩ =>
    other = collection ∧ operation.changesSponsor = true
  | .extrinsic ⟨.createCollection .., _⟩ => collection = x.chain.common.createdCollectionCount + 1
  | .extrinsic ⟨.destroyCollection _ other, _⟩ => other = collection
  | .sponsorCollection _ other => other = collection
  | .stopSponsoringCollection _ other => other = collection
  | _ => False

/-- The calls about the sponsor of a collection. -/
def collectionCalls (S : SponsorConfig T) (collection : CollectionId) :
    SponsorshipCalls (SponsoredState S) (SponsoredCall S) T.AccountId where
  requests := RequestsSponsor collection
  forces := ForcesSponsor collection
  confirms := ConfirmsSponsorship collection
  changes := ChangesSponsor collection

theorem BurnsItem.sponsorshipOf_eq {s s' : State T}
    {other : CollectionId} {item : TokenId} {value : ℕ}
    (hburns : BurnsItem s sender other item value s') :
    sponsorshipOf s' collection = sponsorshipOf s collection := by
  cases hburns with
  | unburnt => rfl
  | nonfungible hrun => exact sponsorshipOf_eq_of_other hrun id
  | fungible hrun => exact sponsorshipOf_eq_of_other hrun id
  | refungible hrun => exact sponsorshipOf_eq_of_other hrun id

/-- The effect of a call that leaves the sponsorship as it is. -/
theorem SponsorshipCalls.Effect.of_eq {σ ι Account : Type} {calls : SponsorshipCalls σ ι Account}
    {s : σ} {call : ι} {before after : SponsorshipState Account} (hsame : after = before)
    (hquiet : ¬ calls.changes s call) : calls.Effect s call before after :=
  hsame ▸ .kept hquiet

theorem effect_of_other {call : Call T}
    (hrun : call.execute.run (x.chain.setBudget budget) = .ok () chain)
    (hother : ¬ call.Concerns collection x.chain) :
    (collectionCalls S collection).Effect x (.extrinsic ⟨call, budget⟩)
      (sponsorshipOf x.chain collection) (sponsorshipOf chain collection) := by
  have hsame : sponsorshipOf chain collection = sponsorshipOf (x.chain.setBudget budget)
    collection :=
    sponsorshipOf_eq_of_other hrun hother
  refine .of_eq hsame ?_
  cases call with
  | settings other operation => exact fun hchanges => hother hchanges.1
  | createCollection sender issuer data => exact hother
  | destroyCollection sender other => exact hother
  | _ => exact id

/-- What a change of settings does to the sponsorship of its collection. -/
theorem settings_effect
    (hrun : (Call.settings collection operation).execute.run (x.chain.setBudget budget) =
      .ok () chain) :
    (collectionCalls S collection).Effect x (.extrinsic ⟨.settings collection operation, budget⟩)
      (sponsorshipOf x.chain collection) (sponsorshipOf chain collection) := by
  have hafter := sponsorshipOf_settings hrun
  obtain ⟨handle, hfound, hexecuted⟩ := Call.settings_ok.mp hrun
  rw [hafter]
  cases operation with
  | setSponsor sender sponsor =>
    simp only [SettingsCall.execute, UniqueChain.setSponsor,
      CollectionHandle.checkIsInternal_bind_ok,
      CollectionHandle.checkIsOwnerOrAdmin_bind_ok] at hexecuted
    exact .requested (.setSponsor ⟨hfound.id_eq, hfound.stored⟩ hexecuted.2.1)
  | forceSetSponsor sponsor => exact .forced .forceSetSponsor
  | confirmSponsorship sender =>
    simp only [SettingsCall.execute, UniqueChain.confirmSponsorship,
      CollectionHandle.checkIsInternal_bind_ok, ensure_bind_ok] at hexecuted
    refine .confirmed .confirmSponsorship (by rintro ⟨_, ⟨⟩⟩) ?_
    rw [show sponsorshipOf x.chain collection = _ from sponsorshipOf_eq_of_get hfound.stored]
    exact hexecuted.2.1
  | removeSponsor sender => exact .removed
  | forceRemoveSponsor => exact .removed
  | _ => exact .kept (by rintro ⟨_, ⟨⟩⟩)

/-- What the creation of a collection does to the sponsorship of one. -/
theorem createCollection_effect {issuer : CollectionIssuer T}
    {data : CreateCollectionData T.CrossAccountId}
    (hrun : (Call.createCollection sender issuer data).execute.run (x.chain.setBudget budget) =
      .ok () chain) :
    (collectionCalls S collection).Effect x
      (.extrinsic ⟨.createCollection sender issuer data, budget⟩)
      (sponsorshipOf x.chain collection) (sponsorshipOf chain collection) := by
  by_cases hnew : collection = x.chain.common.createdCollectionCount + 1
  · obtain ⟨stored, hstored, hdata⟩ := createCollection_stored hrun
    have hcount : chain.common.createdCollectionCount = collection := by
      obtain ⟨_, _, _, _, _, _, _, _, _, hstorage⟩ := createCollection_ok hrun
      rw [(State.storage_eq_iff.mp hstorage).1, hnew]
      rfl
    rw [hcount] at hstored
    rw [sponsorshipOf_eq_of_get hstored, hdata.sponsorship]
    cases hpending : data.pendingSponsor with
    | none => exact .removed
    | some sponsor => exact .requested (.created hnew hpending)
  · exact effect_of_other hrun hnew

theorem extrinsic_effect {submitted : Extrinsic T} (hstep : step x.chain submitted = some chain) :
    (collectionCalls S collection).Effect x (.extrinsic submitted)
      (sponsorshipOf x.chain collection) (sponsorshipOf chain collection) := by
  have hrun := step_eq_some.mp hstep
  obtain ⟨call, budget⟩ := submitted
  cases call with
  | settings other operation =>
    by_cases hother : other = collection
    · subst hother
      exact settings_effect hrun
    · exact effect_of_other hrun hother
  | createCollection sender issuer data => exact createCollection_effect hrun
  | destroyCollection sender other =>
    by_cases hother : other = collection
    · subst hother
      rw [sponsorshipOf_destroyed hrun]
      exact .removed
    · exact effect_of_other hrun hother
  | _ => exact effect_of_other hrun id

/-- What each step does to the sponsorship of a collection. -/
theorem SponsoredStep.collection_effect {call : SponsoredCall S} (hstep : SponsoredStep x call x') :
    (collectionCalls S collection).Effect x call (sponsorshipOf x.chain collection)
      (sponsorshipOf x'.chain collection) := by
  cases hstep with
  | extrinsic hcall hstep => exact extrinsic_effect hstep
  | @burnItem sender other item value budget chain hburns =>
    have hsame : sponsorshipOf chain collection = sponsorshipOf x.chain collection :=
      hburns.sponsorshipOf_eq
    refine .of_eq ?_ id
    rw [← hsame]
    dsimp only
    split
    · rfl
    · rfl
  | charge hcharged => exact .of_eq (by rw [sponsorshipOf, hcharged.common, sponsorshipOf]) id
  | chargeEvm hcharged => exact .of_eq (by rw [sponsorshipOf, hcharged.common, sponsorshipOf]) id
  | @sponsorCollection adminId other chain hadmin hrun =>
    by_cases hother : other = collection
    · subst hother
      rw [sponsorshipOf_settings hrun]
      exact .forced (.sponsorCollection hadmin)
    · exact .of_eq (sponsorshipOf_eq_of_other hrun hother) hother
  | @stopSponsoringCollection adminId other chain hadmin hrun =>
    by_cases hother : other = collection
    · subst hother
      rw [sponsorshipOf_settings hrun]
      exact .removed
    · exact .of_eq (sponsorshipOf_eq_of_other hrun hother) hother
  | _ => exact .kept id

/-! ## Contracts -/

section Contracts

variable {contract : H160} {state : SponsorshipState T.CrossAccountId}

/-- The owner of the contract names a sponsor. -/
inductive RequestsContractSponsor (contract : H160) :
    T.CrossAccountId → SponsoredState S → SponsoredCall S → Prop
  | setSponsor {caller sponsor : H160} {x : SponsoredState S}
      (howner : ContractHelpers.contractOwner x.helpers contract = T.asEth (T.fromEth caller)) :
      RequestsContractSponsor contract (T.fromEth sponsor) x
        (.helpers (.setSponsor caller contract sponsor))

/-- The owner lets the contract sponsor itself, or the admin of `app-promotion` has the
account of that pallet sponsor it. -/
inductive ForcesContractSponsor (contract : H160) :
    T.CrossAccountId → SponsoredState S → SponsoredCall S → Prop
  | selfSponsoredEnable {caller : H160} {x : SponsoredState S}
      (howner : ContractHelpers.contractOwner x.helpers contract = T.asEth (T.fromEth caller)) :
      ForcesContractSponsor contract (T.fromEth contract) x
        (.helpers (.selfSponsoredEnable caller contract))
  | sponsorContract {adminId : T.AccountId} {x : SponsoredState S}
      (hadmin : x.admin = some adminId) :
      ForcesContractSponsor contract (S.fromSub S.promotionAccount) x
        (.sponsorContract adminId contract)

inductive ConfirmsContractSponsorship (contract : H160) :
    T.CrossAccountId → SponsoredState S → SponsoredCall S → Prop
  | confirmSponsorship {caller : H160} {x : SponsoredState S} :
      ConfirmsContractSponsorship contract (T.fromEth caller) x
        (.helpers (.confirmSponsorship caller contract))

/-- The calls that set or remove the sponsor of the contract. -/
def ChangesContractSponsor (contract : H160) (_ : SponsoredState S) : SponsoredCall S → Prop
  | .helpers (.setSponsor _ other _) => other = contract
  | .helpers (.selfSponsoredEnable _ other) => other = contract
  | .helpers (.removeSponsor _ other) => other = contract
  | .sponsorContract _ other => other = contract
  | .stopSponsoringContract _ other => other = contract
  | _ => False

/-- The calls about the sponsor of a contract. -/
def contractCalls (S : SponsorConfig T) (contract : H160) :
    SponsorshipCalls (SponsoredState S) (SponsoredCall S) T.CrossAccountId where
  requests := RequestsContractSponsor contract
  forces := ForcesContractSponsor contract
  confirms := ConfirmsContractSponsorship contract
  changes := ChangesContractSponsor contract

namespace ContractHelpers

variable {s s' : ContractHelpersStorage T}

theorem ensureOwner_bind_ok {α : Type} {user : H160} {next : Unit → HelpersExec T α} {value : α} :
    (ensureOwner contract user >>= next).run s = .ok value s' ↔
      contractOwner s contract = user ∧ (next ()).run s = .ok value s' := by
  have hcheck : ∀ {s s' : ContractHelpersStorage T},
      (ensureOwner contract user).run s = .ok () s' ↔ contractOwner s contract = user ∧ s = s' := by
    intro s s'
    simp only [ensureOwner, read_bind_ok, ensure_ok]
  exact bind_ok_of_check hcheck

theorem sponsorship_eq_of_sponsoring (hsponsoring : s'.sponsoring = s.sponsoring) :
    sponsorship s' contract = sponsorship s contract := by
  rw [sponsorship, sponsorship, hsponsoring]

theorem putSponsorship_ok {other : H160}
    {events : List (ContractHelpersEvent T)} {logs : List ContractHelpersLog}
    (hrun : (putSponsorship other state events logs).run s = .ok () s') :
    s'.sponsoring = s.sponsoring.insert other state := by
  obtain rfl := update_ok.mp hrun
  rfl

theorem forceRemoveSponsor_ok {other : H160} (hrun : (forceRemoveSponsor other).run s = .ok () s') :
    s'.sponsoring = s.sponsoring.erase other := by
  obtain rfl := update_ok.mp hrun
  rfl

/-- A pending sponsor confirms. -/
theorem confirmSponsorship_ok {other : H160}
    (hrun : (confirmSponsorship sender other).run s = .ok () s') :
    sponsorship s other = .unconfirmed sender ∧
      s'.sponsoring = s.sponsoring.insert other (.confirmed sender) := by
  have hrun := read_bind_ok.mp hrun
  cases hpending : sponsorship s other with
  | disabled =>
    rw [hpending] at hrun
    exact absurd hrun fail_ok
  | confirmed sponsor =>
    rw [hpending] at hrun
    exact absurd hrun fail_ok
  | unconfirmed sponsor =>
    rw [hpending] at hrun
    obtain ⟨rfl, hput⟩ := ensure_bind_ok.mp hrun
    exact ⟨rfl, putSponsorship_ok hput⟩

/-- The calls that set up something else than the sponsor. -/
def Call.isSetup : Call → Bool
  | .setSponsoringMode .. => true
  | .setSponsoringRateLimit .. => true
  | .setSponsoringFeeLimit .. => true
  | .toggleAllowed .. => true
  | .toggleAllowlist .. => true
  | .onCreate .. => true
  | .migrateFromSelfSponsoring _ => true
  | _ => false

theorem Call.execute_preserves_sponsoring {call : Call} (hsetup : call.isSetup = true) :
    Preserves (·.sponsoring) (call.execute : HelpersExec T Unit) := by
  cases call with
  | setSponsoringMode caller contract mode => exact asOwner_preserves (.update fun _ => rfl)
  | setSponsoringRateLimit caller contract rateLimit =>
    exact asOwner_preserves (.update fun _ => rfl)
  | setSponsoringFeeLimit caller contract feeLimit =>
    exact asOwner_preserves (.bind .read fun _ => .bind .ensure fun _ => .update fun _ => rfl)
  | toggleAllowed caller contract user isAllowed => exact asOwner_preserves (.update fun _ => rfl)
  | toggleAllowlist caller contract enabled => exact asOwner_preserves (.update fun _ => rfl)
  | onCreate owner contract => exact .update fun _ => rfl
  | migrateFromSelfSponsoring addresses =>
    refine .forEach (fun address => .update fun s => ?_) addresses
    split
    · rfl
    · rfl
  | _ => cases hsetup

end ContractHelpers

section Written

variable {call : SponsoredCall S} {helpers : ContractHelpersStorage T} {other : H160}

open ContractHelpers

theorem effect_of_insert
    (hsponsoring : helpers.sponsoring = x.helpers.sponsoring.insert other state)
    (hsame : other = contract →
      (contractCalls S contract).Effect x call (sponsorship x.helpers contract) state)
    (hquiet : other ≠ contract → ¬ ChangesContractSponsor contract x call) :
    (contractCalls S contract).Effect x call (sponsorship x.helpers contract)
      (sponsorship helpers contract) := by
  have hget : sponsorship helpers contract =
      if contract = other then state else sponsorship x.helpers contract := by
    rw [sponsorship, hsponsoring, getD_insert, sponsorship]
  rw [hget]
  split
  · rename_i hother
    exact hsame hother.symm
  · rename_i hother
    exact .kept (hquiet (Ne.symm hother))

theorem effect_of_erase (hsponsoring : helpers.sponsoring = x.helpers.sponsoring.erase other)
    (hquiet : other ≠ contract → ¬ ChangesContractSponsor contract x call) :
    (contractCalls S contract).Effect x call (sponsorship x.helpers contract)
      (sponsorship helpers contract) := by
  by_cases hother : contract = other
  · subst hother
    have herased : sponsorship helpers contract = .disabled := by
      rw [sponsorship, hsponsoring, FiniteMap.getD, get_erase_self]
      rfl
    rw [herased]
    exact .removed
  · refine .of_eq ?_ (hquiet (Ne.symm hother))
    rw [sponsorship, sponsorship, hsponsoring, FiniteMap.getD, FiniteMap.getD,
      get_erase_of_ne _ hother]

end Written

open ContractHelpers in
/-- What a call of the pallet does to the sponsorship of a contract. -/
theorem helpers_effect {call : ContractHelpers.Call} {helpers : ContractHelpersStorage T}
    (hrun : call.execute.run x.helpers = .ok () helpers) :
    (contractCalls S contract).Effect x (.helpers call) (sponsorship x.helpers contract)
      (sponsorship helpers contract) := by
  have hsetup : call.isSetup = true → ¬ ChangesContractSponsor contract x (.helpers call) →
      (contractCalls S contract).Effect x (.helpers call) (sponsorship x.helpers contract)
        (sponsorship helpers contract) := fun hsetup hquiet =>
    .of_eq (sponsorship_eq_of_sponsoring ((Call.execute_preserves_sponsoring hsetup).of_ok hrun))
      hquiet
  cases call with
  | setSponsor caller other sponsor =>
    obtain ⟨howner, hput⟩ := ensureOwner_bind_ok.mp hrun
    refine effect_of_insert (putSponsorship_ok hput) ?_ id
    rintro rfl
    exact .requested (.setSponsor howner)
  | selfSponsoredEnable caller other =>
    obtain ⟨howner, hput⟩ := ensureOwner_bind_ok.mp hrun
    refine effect_of_insert (putSponsorship_ok hput) ?_ id
    rintro rfl
    exact .forced (.selfSponsoredEnable howner)
  | removeSponsor caller other =>
    obtain ⟨_, hremove⟩ := ensureOwner_bind_ok.mp hrun
    exact effect_of_erase (forceRemoveSponsor_ok hremove) id
  | confirmSponsorship caller other =>
    obtain ⟨hpending, hput⟩ := confirmSponsorship_ok hrun
    refine effect_of_insert hput ?_ fun _ => id
    rintro rfl
    rw [hpending]
    exact .confirmed .confirmSponsorship id rfl
  | _ => exact hsetup rfl id

open ContractHelpers in
/-- What each step does to the sponsorship of a contract. -/
theorem SponsoredStep.contract_effect {call : SponsoredCall S} (hstep : SponsoredStep x call x') :
    (contractCalls S contract).Effect x call (sponsorship x.helpers contract)
      (sponsorship x'.helpers contract) := by
  cases hstep with
  | charge hcharged => exact .of_eq (by rw [hcharged.contracts.1]) id
  | chargeEvm hcharged =>
    obtain ⟨y, hcharged, hdecided⟩ := hcharged
    have hsame : x'.helpers.sponsoring = y.helpers.sponsoring := by
      cases hdecided with
      | none => rfl
      | named hmay => rfl
    exact .of_eq (sponsorship_eq_of_sponsoring (hcharged.contracts.1 ▸ hsame)) id
  | helpers hrun => exact helpers_effect hrun
  | sponsorContract hadmin hrun =>
    refine effect_of_insert (putSponsorship_ok hrun) ?_ id
    rintro rfl
    exact .forced (.sponsorContract hadmin)
  | stopSponsoringContract hadmin hrun => exact effect_of_erase (forceRemoveSponsor_ok hrun) id
  | _ => exact .kept id

end Contracts

/-! ## Every run -/

theorem SettingsCall.newSponsorship_of_not_concernsSponsor
    (hother : operation.concernsSponsor = false) (before : SponsorshipState T.AccountId) :
    operation.newSponsorship before = before := by
  cases operation with
  | setSponsor sender sponsor => cases hother
  | forceSetSponsor sponsor => cases hother
  | confirmSponsorship sender => cases hother
  | removeSponsor sender => cases hother
  | forceRemoveSponsor => cases hother
  | _ => rfl

/-- In every run, the confirmed sponsor of a collection or of a contract was made the
sponsor by force, or has itself confirmed after it was asked; in both cases, no sponsor
was set or removed since.  A change of the owner, the admins, the limits or any other
setting of a collection keeps the state of its sponsor. -/
theorem sponsor_consented {balances : T.Balances}
    {history : List (CallRecord (SponsoredState S) (SponsoredCall S))}
    (hrun : SponsoredReaches balances history x) :
    (∀ collection sponsor, sponsorshipOf x.chain collection = .confirmed sponsor →
      (collectionCalls S collection).Consented sponsor history) ∧
    (∀ contract sponsor, ContractHelpers.sponsorship x.helpers contract = .confirmed sponsor →
      (contractCalls S contract).Consented sponsor history) ∧
    ∀ collection (operation : SettingsCall T) budget after,
      operation.concernsSponsor = false →
      sponsoredStep x (.extrinsic ⟨.settings collection operation, budget⟩) = some after →
      sponsorshipOf after.chain collection = sponsorshipOf x.chain collection := by
  refine ⟨fun collection => ?_, fun contract => ?_, ?_⟩
  · have hcollection := SponsorshipCalls.consented_of_run (collectionCalls S collection)
      (fun x => sponsorshipOf x.chain collection) rfl
      (fun x call x' hstep => (sponsoredStep_ok hstep).collection_effect) hrun
    exact hcollection.2
  · have hcontract := SponsorshipCalls.consented_of_run (contractCalls S contract)
      (fun x => ContractHelpers.sponsorship x.helpers contract) rfl
      (fun x call x' hstep => (sponsoredStep_ok hstep).contract_effect) hrun
    exact hcontract.2
  · intro collection operation budget after hother hstep
    cases sponsoredStep_ok hstep with
    | extrinsic hcall hchain =>
      have hafter := sponsorshipOf_settings (step_eq_some.mp hchain)
      exact hafter.trans (SettingsCall.newSponsorship_of_not_concernsSponsor hother _)

namespace ConsentExample

open reference ReferenceAccount ContractsExample

/-- Bob is asked to be the sponsor of a collection and confirms, and its owner changes. -/
def sponsoredByBob : List (SponsoredCall sponsors) :=
  [.extrinsic
    ⟨.createCollection alice (.user alice) { mode := .nft, pendingSponsor := some bob }, 5⟩,
    .extrinsic ⟨.settings 1 (.confirmSponsorship bob), 5⟩,
    .extrinsic ⟨.settings 1 (.changeOwner alice carol), 5⟩,
    .helpers (.onCreate deployer contract),
    .helpers (.setSponsor deployer contract user),
    .helpers (.confirmSponsorship user contract)]

theorem sponsoredByBob_succeeds : (sponsoredHistory? sponsoredByBob).isSome := by decide +kernel

theorem sponsor_consented_bob :
    (collectionCalls sponsors 1).Consented bob
        (sponsoredHistoryOf sponsoredByBob sponsoredByBob_succeeds) ∧
      (contractCalls sponsors contract).Consented (reference.fromEth user)
        (sponsoredHistoryOf sponsoredByBob sponsoredByBob_succeeds) := by
  have hcollection : sponsorshipOf
      (sponsoredStateOf sponsoredByBob sponsoredByBob_succeeds).chain 1 = .confirmed bob := by
    decide +kernel
  have hcontract : ContractHelpers.sponsorship
      (sponsoredStateOf sponsoredByBob sponsoredByBob_succeeds).helpers contract =
        .confirmed (reference.fromEth user) := by
    decide +kernel
  have hrun := sponsor_consented (run_replay _ _ sponsoredByBob sponsoredByBob_succeeds)
  exact ⟨hrun.1 1 bob hcollection, hrun.2.1 contract _ hcontract⟩

end ConsentExample

end UniqueChain
