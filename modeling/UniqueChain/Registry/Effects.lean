import UniqueChain.Model.Runtime
import UniqueChain.Nesting.Storage
import UniqueChain.Library.Results

/-!
# What the operations on collections do

Creating and configuring a collection changes the storage of the pallet
`common` only; destroying one clears the storage of the pallet it belongs to as
well.  Native transfers change balances only.
-/

namespace UniqueChain

open Execution Results FiniteMap CollectionHandle

variable {T : Config} {s s' : State T} {handle : CollectionHandle T}

variable {sender : T.CrossAccountId} {data : CreateCollectionData T.CrossAccountId}
  {issuer : CollectionIssuer T} {sponsorship : SponsorshipState T.AccountId}

theorem State.storage_mapCommon_congr {f : CommonStorage T → CommonStorage T}
    (hstorage : s'.storage = s.storage) : (s'.mapCommon f).storage = (s.mapCommon f).storage := by
  simp only [State.storage_eq_iff] at hstorage
  simp [State.storage, hstorage]

/-! ## Limits -/

/-- Limits that may follow one another: what the owner gave up stays given up,
and the token limit does not grow and does not become zero. -/
structure CollectionLimits.Tightens (old new : CollectionLimits) : Prop where
  ownerCanDestroy : old.ownerCanDestroy = false → new.ownerCanDestroy = false
  ownerCanTransfer : old.ownerCanTransfer? = some false → new.ownerCanTransfer? = some false
  tokenLimit_le : new.tokenLimit ≤ old.tokenLimit
  tokenLimit_pos : 0 < old.tokenLimit → 0 < new.tokenLimit

namespace CollectionLimits.Tightens

variable {first second third : CollectionLimits}

theorem refl (limits : CollectionLimits) : limits.Tightens limits :=
  ⟨id, id, Nat.le_refl _, id⟩

theorem trans (hfirst : first.Tightens second) (hsecond : second.Tightens third) :
    first.Tightens third where
  ownerCanDestroy := hsecond.ownerCanDestroy ∘ hfirst.ownerCanDestroy
  ownerCanTransfer := hsecond.ownerCanTransfer ∘ hfirst.ownerCanTransfer
  tokenLimit_le := hsecond.tokenLimit_le.trans hfirst.tokenLimit_le
  tokenLimit_pos := hsecond.tokenLimit_pos ∘ hfirst.tokenLimit_pos

end CollectionLimits.Tightens

/-- A merged limit is the old one, or a new one that passed its check. -/
theorem mergeLimit_ok {Value : Type} {check : Value → Bool} {error : LimitError}
    {old new merged : Option Value} (hmerge : mergeLimit check error old new = .ok merged) :
    merged = old ∨ ∃ value, merged = some value ∧ check value = true := by
  unfold mergeLimit at hmerge
  cases new with
  | none =>
    cases hmerge
    exact .inl rfl
  | some value =>
    simp only at hmerge
    split at hmerge
    · rename_i hcheck
      cases hmerge
      exact .inr ⟨value, rfl, hcheck⟩
    · cases hmerge

theorem clampLimits_tightens {old new merged : CollectionLimits}
    (hclamp : clampLimits old new = .ok merged) : old.Tightens merged := by
  simp only [clampLimits, except_bind_ok] at hclamp
  obtain ⟨_, _, _, _, _, _, tokenLimit?, htokenLimit, _, _, _, _, ownerCanTransfer?,
    hownerCanTransfer, ownerCanDestroy?, hownerCanDestroy, _, _, hclamp⟩ := hclamp
  cases hclamp
  constructor
  · intro hgivenUp
    rcases mergeLimit_ok hownerCanDestroy with rfl | ⟨value, rfl, hcheck⟩
    · exact hgivenUp
    · rw [hgivenUp] at hcheck
      simpa [CollectionLimits.ownerCanDestroy] using hcheck
  · intro hgivenUp
    rcases mergeLimit_ok hownerCanTransfer with rfl | ⟨value, rfl, hcheck⟩
    · exact hgivenUp
    · simpa [CollectionLimits.ownerCanTransferInstalled, CollectionLimits.ownerCanTransfer,
        hgivenUp] using hcheck
  · rcases mergeLimit_ok htokenLimit with rfl | ⟨value, rfl, hcheck⟩
    · exact Nat.le_refl _
    · simp only [Bool.and_eq_true, decide_eq_true_eq] at hcheck
      exact hcheck.1
  · rcases mergeLimit_ok htokenLimit with rfl | ⟨value, rfl, hcheck⟩
    · exact id
    · simp only [Bool.and_eq_true, decide_eq_true_eq] at hcheck
      exact fun _ => hcheck.2

/-! ## Settings -/

/-- Permissions that may follow one another: an immutable one stays. -/
def KeepsImmutable (before after : PropertiesPermissionMap) : Prop :=
  ∀ key permission, before.get key = some permission → permission.mutable = false →
    after.get key = some permission

/-- What a change of the settings of a collection can do to the storage of the
pallet `common`. -/
inductive SettingsStep (handle : CollectionHandle T) (common : CommonStorage T) :
    CommonStorage T → Prop
  | unchanged : SettingsStep handle common common
  | collection {collection : Collection T.AccountId}
      (hmode : collection.mode = handle.collection.mode)
      (hlimits : handle.collection.limits.Tightens collection.limits) :
      SettingsStep handle common
        { common with collectionById := common.collectionById.insert handle.id collection }
  | allowlist {allowlist : FiniteMap (CollectionId × T.CrossAccountId) Bool} :
      SettingsStep handle common { common with allowlist }
  | admins {adminAmount : FiniteMap CollectionId ℕ}
      {isAdmin : FiniteMap (CollectionId × T.CrossAccountId) Bool} :
      SettingsStep handle common { common with adminAmount, isAdmin }
  | permissions {permissions : PropertiesPermissionMap}
      (hkeeps : KeepsImmutable
        (common.collectionPropertyPermissions.getD handle.id PropertiesMap.new) permissions) :
      SettingsStep handle common
        { common with
          collectionPropertyPermissions :=
            common.collectionPropertyPermissions.insert handle.id permissions }

theorem ofLimits_ok {limits : Except LimitError CollectionLimits} {value : CollectionLimits}
    (hrun : (ofLimits limits : Exec T _).run s = .ok value s') : limits = .ok value ∧ s = s' := by
  unfold ofLimits at hrun
  split at hrun
  · obtain ⟨rfl, rfl⟩ := pure_ok.mp hrun
    exact ⟨rfl, rfl⟩
  · exact absurd hrun fail_ok

theorem ofProperties_ok {α : Type} {result : Except PropertiesError α} {value : α}
    (hrun : (ofProperties result : Exec T α).run s = .ok value s') :
    result = .ok value ∧ s = s' := by
  unfold ofProperties at hrun
  split at hrun
  · obtain ⟨rfl, rfl⟩ := pure_ok.mp hrun
    exact ⟨rfl, rfl⟩
  · exact absurd hrun fail_ok

/-- One permission is set, and no immutable one is touched. -/
theorem setPropertyPermission_ok {entry : PropertyKeyPermission}
    (hrun : (setPropertyPermission handle sender .none entry).run s = .ok () s') :
    ∃ permissions, KeepsImmutable
        (s.common.collectionPropertyPermissions.getD handle.id PropertiesMap.new) permissions ∧
      s'.storage = (s.mapCommon fun common =>
        { common with
          collectionPropertyPermissions :=
            common.collectionPropertyPermissions.insert handle.id permissions }).storage := by
  simp only [setPropertyPermission, checkIsOwnerOrAdmin_bind_ok, read_bind_ok,
    ensure_bind_ok] at hrun
  obtain ⟨_, hmutable, hrun⟩ := hrun
  obtain ⟨⟨old, permissions⟩, _, hresult, hrun⟩ := bind_ok.mp hrun
  obtain ⟨hset, rfl⟩ := ofProperties_ok hresult
  obtain rfl := update_ok.mp hrun
  refine ⟨permissions, fun key permission hkey himmutable => ?_, rfl⟩
  have hinsert := (PropertiesMap.trySet_ok hset).2
  have hne : key ≠ entry.key := by
    rintro rfl
    rw [hkey] at hmutable
    simp [himmutable] at hmutable
  rw [PropertiesMap.get, hinsert, get_insert_of_ne _ _ hne]
  exact hkey

theorem setTokenPropertyPermissions_ok {entries : List PropertyKeyPermission}
    (hrun : (setTokenPropertyPermissions handle sender entries).run s = .ok () s') :
    s'.storage = s.storage ∨ ∃ permissions, KeepsImmutable
        (s.common.collectionPropertyPermissions.getD handle.id PropertiesMap.new) permissions ∧
      s'.storage = (s.mapCommon fun common =>
        { common with
          collectionPropertyPermissions :=
            common.collectionPropertyPermissions.insert handle.id permissions }).storage := by
  have hloop := transactional_ok.mp hrun
  refine forEach_ok_induction (P := fun state => state.storage = s.storage ∨
    ∃ permissions, KeepsImmutable
        (s.common.collectionPropertyPermissions.getD handle.id PropertiesMap.new) permissions ∧
      state.storage = (s.mapCommon fun common =>
        { common with
          collectionPropertyPermissions :=
            common.collectionPropertyPermissions.insert handle.id permissions }).storage)
    (fun entry _ s₁ s₂ hbefore hentry => ?_) (.inl rfl) hloop
  obtain ⟨permissions, hkeeps, hstorage⟩ := setPropertyPermission_ok hentry
  refine .inr ⟨permissions, ?_, ?_⟩
  · rcases hbefore with hsame | ⟨earlier, hearlier, hwritten⟩
    · rw [(State.storage_eq_iff.mp hsame).1] at hkeeps
      exact hkeeps
    · intro key permission hkey himmutable
      refine hkeeps key permission ?_ himmutable
      rw [(State.storage_eq_iff.mp hwritten).1]
      simp only [State.mapCommon_common, getD_insert, if_true]
      exact hearlier key permission hkey himmutable
  · rcases hbefore with hsame | ⟨earlier, hearlier, hwritten⟩
    · exact hstorage.trans (State.storage_mapCommon_congr hsame)
    · rw [hstorage, State.storage_mapCommon_congr hwritten]
      have hoverwrite : (s.common.collectionPropertyPermissions.insert handle.id earlier).insert
          handle.id permissions =
          s.common.collectionPropertyPermissions.insert handle.id permissions := by
        refine ext_get fun key => ?_
        simp only [get_insert]
        split <;> rfl
      simp only [State.storage, State.mapCommon, hoverwrite]

theorem State.storage_foldl_depositEvent (events : List (Event T)) (s : State T) :
    (events.foldl (fun s event => s.depositEvent event) s).storage = s.storage := by
  induction events generalizing s with
  | nil => rfl
  | cons event rest ih => exact ih (s.depositEvent event)

/-- The sponsorship after a change of settings. -/
def SettingsCall.newSponsorship (before : SponsorshipState T.AccountId) :
    SettingsCall T → SponsorshipState T.AccountId
  | .setSponsor _ sponsor => .unconfirmed sponsor
  | .forceSetSponsor sponsor => .confirmed sponsor
  | .confirmSponsorship sender => .confirmed sender
  | .removeSponsor _ => .disabled
  | .forceRemoveSponsor => .disabled
  | _ => before

/-- A change of settings that leaves the sponsorship in the given state. -/
structure SettingsWrites (handle : CollectionHandle T) (sponsorship : SponsorshipState T.AccountId)
    (s : State T) (common : CommonStorage T) : Prop where
  step : SettingsStep handle s.common common
  sponsorship : s.common.collectionById.get handle.id = some handle.collection →
    ∃ data, common.collectionById.get handle.id = some data ∧ data.sponsorship = sponsorship

theorem SettingsWrites.collection {collection : Collection T.AccountId}
    (hsponsorship : collection.sponsorship = sponsorship)
    (hmode : collection.mode = handle.collection.mode)
    (hlimits : handle.collection.limits.Tightens collection.limits) :
    SettingsWrites handle sponsorship s
      { s.common with collectionById := s.common.collectionById.insert handle.id collection } :=
  ⟨.collection hmode hlimits, fun _ => ⟨_, get_insert_self .., hsponsorship⟩⟩

theorem SettingsWrites.kept {common : CommonStorage T} (hstep : SettingsStep handle s.common common)
    (hsame : common.collectionById = s.common.collectionById) :
    SettingsWrites handle handle.collection.sponsorship s common :=
  ⟨hstep, fun hstored => ⟨_, hsame ▸ hstored, rfl⟩⟩

theorem saveSponsorship_ok {events : List (Event T)}
    (hrun : (saveSponsorship handle sponsorship events).run s = .ok () s') :
    ∃ common, SettingsWrites handle sponsorship s common ∧
      s'.storage = (s.mapCommon fun _ => common).storage := by
  simp only [saveSponsorship, update_bind_ok, CollectionHandle.save, update_ok] at hrun
  subst hrun
  exact ⟨_, .collection (by rfl) (by rfl) (by exact .refl _),
    State.storage_mapCommon_congr (State.storage_foldl_depositEvent events s)⟩

/-- The admins of a collection change by one account, which then counts or no longer
counts, or not at all. -/
theorem toggleAdmin_ok {sender user : T.CrossAccountId} {admin : Bool}
    (hrun : (toggleAdmin handle sender user admin).run s = .ok () s') :
    s' = s ∨ s.common.isAdmin.getD (handle.id, user) false = !admin ∧ ∃ amount,
      amount = (if admin then s.common.adminAmount.getD handle.id 0 + 1
        else s.common.adminAmount.getD handle.id 0 - 1) ∧
      (admin = true → amount ≤ collectionAdminsLimit) ∧
      s' = toggleAdminWrites handle.id user admin amount s := by
  simp only [toggleAdmin, checkIsInternal_bind_ok, checkIsOwner_bind_ok, read_bind_ok] at hrun
  obtain ⟨_, _, hrun⟩ := hrun
  rcases ite_ok.mp hrun with ⟨_, hrun⟩ | ⟨hother, hrun⟩
  · exact .inl (ensure_ok.mp hrun).2.symm
  refine .inr ⟨?_, ?_⟩
  · cases admin <;> simpa using hother
  cases admin with
  | true =>
    simp only [if_true, ensure_bind_ok, update_ok] at hrun
    exact ⟨_, rfl, fun _ => hrun.1, hrun.2.symm⟩
  | false => exact ⟨_, rfl, Bool.noConfusion, (update_ok.mp hrun).symm⟩

/-- What a change of settings writes, and what it makes of the sponsorship. -/
theorem SettingsCall.execute_writes {call : SettingsCall T}
    (hrun : (call.execute handle).run s = .ok () s') :
    ∃ common, SettingsWrites handle (call.newSponsorship handle.collection.sponsorship) s common ∧
      s'.storage = (s.mapCommon fun _ => common).storage := by
  cases call with
  | changeOwner caller newOwner =>
    simp only [SettingsCall.execute, UniqueChain.changeOwner, checkIsInternal_bind_ok,
      checkIsOwner_bind_ok, update_bind_ok, CollectionHandle.save, update_ok] at hrun
    obtain ⟨_, _, rfl⟩ := hrun
    exact ⟨_, .collection (by rfl) (by rfl) (by exact .refl _), rfl⟩
  | toggleAllowlist sender user allowed =>
    simp only [SettingsCall.execute, UniqueChain.toggleAllowlist,
      checkIsOwnerOrAdmin_bind_ok, update_ok] at hrun
    obtain ⟨_, rfl⟩ := hrun
    exact ⟨_, .kept .allowlist (by rfl), rfl⟩
  | toggleAdmin sender user admin =>
    rcases toggleAdmin_ok hrun with rfl | ⟨_, amount, _, _, rfl⟩
    · exact ⟨_, .kept .unchanged (by rfl), rfl⟩
    · exact ⟨_, .kept .admins (by rfl), rfl⟩
  | updateLimits user limits =>
    simp only [SettingsCall.execute, UniqueChain.updateLimits, checkIsInternal_bind_ok,
      checkIsOwnerOrAdmin_bind_ok] at hrun
    obtain ⟨_, _, hrun⟩ := hrun
    obtain ⟨newLimits, _, hlimits, hrun⟩ := bind_ok.mp hrun
    obtain ⟨hclamp, rfl⟩ := ofLimits_ok hlimits
    simp only [update_bind_ok, CollectionHandle.save, update_ok] at hrun
    subst hrun
    exact ⟨_, .collection (by rfl) (by rfl) (clampLimits_tightens hclamp), rfl⟩
  | updatePermissions user permissions =>
    simp only [SettingsCall.execute, UniqueChain.updatePermissions, checkIsInternal_bind_ok,
      checkIsOwnerOrAdmin_bind_ok, update_bind_ok, CollectionHandle.save, update_ok] at hrun
    obtain ⟨_, _, rfl⟩ := hrun
    exact ⟨_, .collection (by rfl) (by rfl) (by exact .refl _), rfl⟩
  | setTransfersEnabledFlag sender value =>
    simp only [SettingsCall.execute, UniqueChain.setTransfersEnabledFlag, ensure_bind_ok,
      checkIsInternal_bind_ok, checkIsOwner_bind_ok, CollectionHandle.save, update_ok] at hrun
    obtain ⟨_, _, _, rfl⟩ := hrun
    exact ⟨_, .collection (by rfl) (by rfl) (by exact ⟨id, id, Nat.le_refl _, id⟩), rfl⟩
  | setSponsor sender sponsor =>
    simp only [SettingsCall.execute, UniqueChain.setSponsor, checkIsInternal_bind_ok,
      checkIsOwnerOrAdmin_bind_ok] at hrun
    exact saveSponsorship_ok hrun.2.2
  | forceSetSponsor sponsor =>
    exact saveSponsorship_ok (checkIsInternal_bind_ok.mp hrun).2
  | confirmSponsorship sender =>
    simp only [SettingsCall.execute, UniqueChain.confirmSponsorship,
      checkIsInternal_bind_ok, ensure_bind_ok] at hrun
    exact saveSponsorship_ok hrun.2.2
  | removeSponsor sender =>
    simp only [SettingsCall.execute, UniqueChain.removeSponsor, checkIsInternal_bind_ok,
      checkIsOwnerOrAdmin_bind_ok] at hrun
    exact saveSponsorship_ok hrun.2.2
  | forceRemoveSponsor =>
    exact saveSponsorship_ok (checkIsInternal_bind_ok.mp hrun).2
  | setTokenPropertyPermissions sender entries =>
    rcases setTokenPropertyPermissions_ok hrun with hsame | ⟨permissions, hkeeps, hstorage⟩
    · exact ⟨_, .kept .unchanged (by rfl), hsame⟩
    · exact ⟨_, .kept (.permissions hkeeps) (by rfl), hstorage⟩

/-- A change of settings touches nothing but the storage of the pallet `common`. -/
theorem SettingsCall.execute_ok {call : SettingsCall T}
    (hrun : (call.execute handle).run s = .ok () s') :
    ∃ common, SettingsStep handle s.common common ∧
      s'.storage = (s.mapCommon fun _ => common).storage :=
  (SettingsCall.execute_writes hrun).imp fun _ hwrites => ⟨hwrites.1.step, hwrites.2⟩

/-! ## Creation -/

theorem chargeIssuer_ok {flags : CollectionFlags}
    (hrun : (chargeIssuer flags issuer).run s = .ok () s') :
    ∃ balances, s' = s.setBalances balances := by
  cases issuer with
  | internals =>
    obtain ⟨_, rfl⟩ := pure_ok.mp hrun
    exact ⟨s.balances, rfl⟩
  | user payer =>
    simp only [chargeIssuer, ensure_bind_ok, read_bind_ok, okOr_bind_ok, update_ok] at hrun
    obtain ⟨_, balances, _, rfl⟩ := hrun
    exact ⟨balances, rfl⟩

/-- What a creation stores of the new collection. -/
structure NewCollection (sender : T.CrossAccountId) (data : CreateCollectionData T.CrossAccountId)
    (collection : Collection T.AccountId) : Prop where
  owner : collection.owner = T.asSub sender
  mode : collection.mode = data.mode
  sponsorship : collection.sponsorship = (data.pendingSponsor.map fun sponsor =>
    SponsorshipState.unconfirmed (T.asSub sponsor)).getD .disabled
  limits : (data.limits.map (clampLimits {})).getD (.ok {}) = .ok collection.limits
  permissions : collection.permissions = (data.permissions.map (clampPermissions {})).getD {}

theorem NewCollection.tightens {collection : Collection T.AccountId}
    (hnew : NewCollection sender data collection) :
    CollectionLimits.Tightens {} collection.limits := by
  have hlimits := hnew.limits
  cases hdata : data.limits with
  | none =>
    rw [hdata] at hlimits
    exact Except.ok.inj hlimits ▸ .refl _
  | some given =>
    rw [hdata] at hlimits
    exact clampLimits_tightens hlimits

/-- The checks a creation has passed. -/
structure CreationChecks (id : CollectionId) (data : CreateCollectionData T.CrossAccountId)
    (common : CommonStorage T) : Prop where
  next : common.createdCollectionCount + 1 = id
  width : id ≤ u32Max
  room : id - common.destroyedCollectionCount ≤ collectionNumberLimit
  admins : (insertAdmins id common.isAdmin 0 data.adminList).2 ≤ collectionAdminsLimit

section

variable (hrun : (createCollection sender issuer data).run s = .ok () s')

include hrun

/-- A creation has passed its checks and made its writes. -/
theorem createCollection_writes :
    ∃ id collection properties permissions balances,
      CreationChecks id data s.common ∧ NewCollection sender data collection ∧
      s' = initCollectionWrites id collection properties permissions
        (insertAdmins id s.common.isAdmin 0 data.adminList) sender (s.setBalances balances) := by
  simp only [createCollection, initCollection, ensure_bind_ok] at hrun
  obtain ⟨_, hrun⟩ := hrun
  obtain ⟨s₁, hcharge, hrun⟩ := bind_unit_ok.mp hrun
  obtain ⟨balances, rfl⟩ := chargeIssuer_ok hcharge
  simp only [ensure_bind_ok, read_bind_ok, okOr_bind_ok, checkedAdd_eq_some] at hrun
  obtain ⟨_, id, ⟨hwidth, hid⟩, hroom, hrun⟩ := hrun
  obtain ⟨limits, _, hlimits, hrun⟩ := bind_ok.mp hrun
  obtain ⟨hclamp, rfl⟩ := ofLimits_ok hlimits
  obtain ⟨properties, _, hproperties, hrun⟩ := bind_ok.mp hrun
  obtain ⟨_, rfl⟩ := ofProperties_ok hproperties
  obtain ⟨permissions, _, hpermissions, hrun⟩ := bind_ok.mp hrun
  obtain ⟨_, rfl⟩ := ofProperties_ok hpermissions
  simp only [ensure_bind_ok, update_ok] at hrun
  obtain ⟨hadmins, rfl⟩ := hrun
  subst hid
  exact ⟨_, _, properties, permissions, balances, ⟨rfl, hwidth, hroom, hadmins⟩,
    ⟨rfl, rfl, rfl, hclamp, rfl⟩, rfl⟩

/-- A new collection takes the next identifier, and no token storage is touched. -/
theorem createCollection_ok :
    s.common.createdCollectionCount + 1 ≤ u32Max ∧
      ∃ collection properties permissions adminAmount isAdmin balances,
        collection.mode = data.mode ∧ CollectionLimits.Tightens {} collection.limits ∧
        s'.storage = ((s.setBalances balances).mapCommon fun common =>
          { common with
            createdCollectionCount := common.createdCollectionCount + 1
            collectionById := common.collectionById.insert
              (common.createdCollectionCount + 1) collection
            collectionProperties := common.collectionProperties.insert
              (common.createdCollectionCount + 1) properties
            collectionPropertyPermissions := common.collectionPropertyPermissions.insert
              (common.createdCollectionCount + 1) permissions
            adminAmount
            isAdmin }).storage := by
  obtain ⟨_, collection, properties, permissions, balances, ⟨rfl, hwidth, _, _⟩, hnew, rfl⟩ :=
    createCollection_writes hrun
  exact ⟨hwidth, collection, properties, permissions, _, _, balances, hnew.mode, hnew.tightens,
    rfl⟩

/-- What is stored of a new collection. -/
theorem createCollection_stored :
    ∃ collection, s'.common.collectionById.get s'.common.createdCollectionCount =
        some collection ∧ NewCollection sender data collection := by
  obtain ⟨_, collection, _, _, _, _, hnew, rfl⟩ := createCollection_writes hrun
  exact ⟨collection, get_insert_self .., hnew⟩

end

/-! ## Destruction -/

/-- The storage of the pallet `common` without a collection. -/
def forgetCollection (id : CollectionId) (common : CommonStorage T) : CommonStorage T :=
  { common with
    destroyedCollectionCount := common.destroyedCollectionCount + 1
    collectionById := common.collectionById.erase id
    adminAmount := common.adminAmount.erase id
    isAdmin := common.isAdmin.eraseWhere fun key => key.1 = id
    allowlist := common.allowlist.eraseWhere fun key => key.1 = id
    collectionProperties := common.collectionProperties.erase id }

theorem destroyEmptyCollection_ok {hasTokens : State T → Bool} {clear : State T → State T}
    (hrun : (destroyEmptyCollection handle sender hasTokens clear).run s = .ok () s') :
    hasTokens s = false ∧ ∃ s₁, s₁.storage = (s.mapCommon (forgetCollection handle.id)).storage ∧
      s' = clear s₁ := by
  simp only [destroyEmptyCollection, read_bind_ok, ensure_bind_ok] at hrun
  obtain ⟨hempty, hrun⟩ := hrun
  obtain ⟨s₁, hcommon, hrun⟩ := bind_unit_ok.mp hrun
  simp only [destroyCollectionCommon, ensure_bind_ok, checkIsOwner_bind_ok,
    read_bind_ok, okOr_bind_ok, checkedAdd_eq_some, update_ok] at hcommon
  obtain ⟨_, _, _, ⟨_, rfl⟩, rfl⟩ := hcommon
  obtain rfl := update_ok.mp hrun
  exact ⟨hempty, _, by rfl, rfl⟩

/-- What a destruction has checked and done, by the kind of the collection. -/
inductive Destroyed (handle : CollectionHandle T) (s : State T) : State T → Prop
  | nonfungible (hmode : handle.collection.mode = .nft)
      (hempty : Nonfungible.collectionHasTokens s handle.id = false) :
      Destroyed handle s (((s.mapCommon (forgetCollection handle.id)).mapNonfungible
        (Nonfungible.clearCollection handle.id)).mapUnique (clearBaskets handle.id))
  | fungible {decimals : ℕ} (hmode : handle.collection.mode = .fungible decimals)
      (hempty : Fungible.collectionHasTokens s handle.id = false) :
      Destroyed handle s (((s.mapCommon (forgetCollection handle.id)).mapFungible
        (Fungible.clearCollection handle.id)).mapUnique (clearBaskets handle.id))
  | refungible (hmode : handle.collection.mode = .reFungible)
      (hempty : Refungible.collectionHasTokens s handle.id = false) :
      Destroyed handle s (((s.mapCommon (forgetCollection handle.id)).mapRefungible
        (Refungible.clearCollection handle.id)).mapUnique (clearBaskets handle.id))

theorem destroyCollection_ok {id : CollectionId}
    (hrun : (destroyCollection sender id).run s = .ok () s') :
    id ≠ nativeFungibleCollectionId ∧ ∃ handle, FoundHandle s id handle ∧
      ∃ s₁, Destroyed handle s s₁ ∧ s'.storage = s₁.storage := by
  obtain ⟨s₂, hdispatched, hrun⟩ := bind_unit_ok.mp hrun
  obtain rfl := update_ok.mp hrun
  simp only [destroyDispatched, ensure_bind_ok] at hdispatched
  obtain ⟨hnative, hrun⟩ := hdispatched
  obtain ⟨handle, _, hget, hrun⟩ := bind_ok.mp hrun
  obtain ⟨rfl, hstored, rfl⟩ := tryGet_ok.mp hget
  refine ⟨hnative, handle, ⟨rfl, hstored⟩, ?_⟩
  cases hmode : handle.collection.mode with
  | nft =>
    rw [hmode] at hrun
    obtain ⟨hempty, s₁, hstorage, rfl⟩ := destroyEmptyCollection_ok hrun
    exact ⟨_, .nonfungible hmode hempty, State.storage_mapUnique_congr
      (State.storage_mapNonfungible_congr hstorage)⟩
  | fungible decimals =>
    rw [hmode] at hrun
    obtain ⟨hempty, s₁, hstorage, rfl⟩ := destroyEmptyCollection_ok hrun
    exact ⟨_, .fungible hmode hempty, State.storage_mapUnique_congr
      (State.storage_mapFungible_congr hstorage)⟩
  | reFungible =>
    rw [hmode] at hrun
    obtain ⟨hempty, s₁, hstorage, rfl⟩ := destroyEmptyCollection_ok hrun
    exact ⟨_, .refungible hmode hempty, State.storage_mapUnique_congr
      (State.storage_mapRefungible_congr hstorage)⟩

/-! ## Sponsoring -/

theorem sponsor_ok {id : CollectionId} {withdrawal : Withdrawal T} {blockNumber : ℕ}
    (hrun : (sponsor id withdrawal blockNumber).run s = .ok () s') :
    ∃ unique, s' = s.mapUnique fun _ => unique := by
  simp only [sponsor, read_bind_ok] at hrun
  split at hrun
  · rename_i unique _
    exact ⟨unique, (update_ok.mp hrun).symm⟩
  · obtain ⟨_, rfl⟩ := pure_ok.mp hrun
    exact ⟨s.unique, rfl⟩

/-! ## The native currency -/

theorem NativeFungible.transfer_ok {from' to' : T.CrossAccountId} {amount : ℕ}
    (hrun : (NativeFungible.transfer from' to' amount).run s = .ok () s') :
    s' = s ∨ ∃ balances, T.transferBalance s.balances (T.asSub from') (T.asSub to') amount =
      some balances ∧ s' = s.setBalances balances := by
  simp only [NativeFungible.transfer, ensureCorrectReceiver_bind_ok] at hrun
  rcases ite_ok.mp hrun.2 with ⟨_, hrun⟩ | ⟨_, hrun⟩
  · simp only [read_bind_ok, okOr_bind_ok, update_ok] at hrun
    obtain ⟨balances, hbalances, rfl⟩ := hrun
    exact .inr ⟨balances, hbalances, rfl⟩
  · exact .inl (pure_ok.mp hrun).2.symm

theorem NativeFungible.checkAllowed_ok {spender from' : T.CrossAccountId} {allowance : ℕ}
    (hrun : (NativeFungible.checkAllowed spender from').run s = .ok allowance s') :
    SpendsBudget s s' ∧ (allowance = 0 ∨ T.convEq spender from' = true ∨
      ∃ source, T.addressToToken from' = some source ∧
        answersYes (checkIndirectlyOwned spender source none) s = true) := by
  simp only [NativeFungible.checkAllowed, read_bind_ok] at hrun
  cases hsource : T.addressToToken from' with
  | some source =>
    rw [hsource] at hrun
    obtain ⟨owned, middle, howned, hrun⟩ := bind_ok.mp hrun
    simp only [ensure_bind_ok, pure_ok] at hrun
    obtain ⟨rfl, _, rfl⟩ := hrun
    refine ⟨(checkIndirectlyOwned_ok howned).1, .inr (.inr ⟨source, rfl, ?_⟩)⟩
    unfold answersYes
    rw [howned]
  | none =>
    rw [hsource] at hrun
    obtain ⟨rfl, rfl⟩ := pure_ok.mp hrun
    refine ⟨.refl s, ?_⟩
    split
    · rename_i hself
      exact .inr (.inl hself)
    · exact .inl rfl

theorem NativeCall.execute_ok {call : NativeCall T} (hrun : call.execute.run s = .ok () s') :
    ∃ balances, s'.storage = (s.setBalances balances).storage := by
  have htransfer : ∀ {s : State T} {from' to' : T.CrossAccountId} {amount : ℕ},
      (NativeFungible.transfer from' to' amount).run s = .ok () s' →
        ∃ balances, s'.storage = (s.setBalances balances).storage := by
    intro s from' to' amount hrun
    rcases NativeFungible.transfer_ok hrun with rfl | ⟨balances, _, rfl⟩
    · exact ⟨s'.balances, rfl⟩
    · exact ⟨balances, rfl⟩
  cases call with
  | transfer from' to' amount => exact htransfer hrun
  | transferFrom spender from' to' amount =>
    obtain ⟨allowance, s₁, hcheck, hrun⟩ := bind_ok.mp hrun
    obtain ⟨⟨left, _, rfl⟩, _⟩ := NativeFungible.checkAllowed_ok hcheck
    obtain ⟨balances, hstorage⟩ := htransfer (ensure_bind_ok.mp hrun).2
    exact ⟨balances, hstorage⟩

end UniqueChain
