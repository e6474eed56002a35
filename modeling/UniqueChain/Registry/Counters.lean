import UniqueChain.Model.Reference
import UniqueChain.Registry.Collections

/-!
# The counters of the registry

The pallet `common` counts the collections created and destroyed, and for each
collection its admins.  The counters are exact: the collections that exist are
those created less those destroyed, and the number of admins is that of the
accounts marked as such, whatever list a creation was given.

An identifier is the number of collections created up to it, so the creations of
a run have different ones.
-/

namespace UniqueChain

open Execution CollectionDispatch FiniteMap

variable {T : Config} {s s' : State T} {common : CommonStorage T} {collection : CollectionId}

variable {balances : T.Balances} {sender : T.CrossAccountId} {extrinsic : Extrinsic T}

/-! ## Admins -/

/-- The number of accounts marked as admins of the collection. -/
def markedAdmins (isAdmin : FiniteMap (CollectionId × T.CrossAccountId) Bool)
    (collection : CollectionId) : ℕ :=
  isAdmin.count fun key admin => key.1 = collection ∧ admin = true

section Marks

variable {isAdmin : FiniteMap (CollectionId × T.CrossAccountId) Bool} {id : CollectionId}
  {user : T.CrossAccountId}

theorem markedAdmins_congr {other : FiniteMap (CollectionId × T.CrossAccountId) Bool}
    (hget : ∀ user, isAdmin.get (collection, user) = other.get (collection, user)) :
    markedAdmins isAdmin collection = markedAdmins other collection := by
  refine count_congr ?_
  rintro ⟨other, user⟩ ⟨_, rfl, _⟩
  exact hget user

/-- A new mark counts once. -/
theorem markedAdmins_insert (hnew : isAdmin.getD (id, user) false = false) :
    markedAdmins (isAdmin.insert (id, user) true) id = markedAdmins isAdmin id + 1 := by
  have hsum := isAdmin.sum_insert
    (fun key admin => if key.1 = id ∧ admin = true then 1 else 0) (id, user) true
  -- an absent mark and one that says `false` contribute nothing
  have hterm : isAdmin.term (fun key admin => if key.1 = id ∧ admin = true then 1 else 0)
      (id, user) = 0 := by
    unfold FiniteMap.getD at hnew
    unfold FiniteMap.term
    cases hget : isAdmin.get (id, user) with
    | none => rfl
    | some admin =>
      rw [hget] at hnew
      simp [show admin = false from hnew]
  rw [hterm] at hsum
  simpa [markedAdmins, FiniteMap.count] using hsum

theorem markedAdmins_erase (hmarked : isAdmin.getD (id, user) false = true) :
    markedAdmins (isAdmin.erase (id, user)) id + 1 = markedAdmins isAdmin id := by
  have hget : isAdmin.get (id, user) = some true := by
    rw [← hmarked]
    exact get_of_getD_ne (by simp [hmarked])
  have hcount := count_erase (p := fun key admin => key.1 = id ∧ admin = true) hget
  simpa [markedAdmins] using hcount

theorem get_insertAdmins_of_ne {key : CollectionId × T.CrossAccountId} (hne : key.1 ≠ id)
    {admins : List T.CrossAccountId} {amount : ℕ} :
    (insertAdmins id isAdmin amount admins).1.get key = isAdmin.get key := by
  induction admins generalizing isAdmin amount with
  | nil => rfl
  | cons admin rest ih =>
    unfold insertAdmins
    split
    · exact ih
    · rw [ih]
      exact get_insert_of_ne _ _ fun hkey => hne (congrArg Prod.fst hkey)

/-- A listed account is marked and counted once, however often it is listed. -/
theorem markedAdmins_insertAdmins (isAdmin : FiniteMap (CollectionId × T.CrossAccountId) Bool)
    (amount : ℕ) (admins : List T.CrossAccountId) :
    markedAdmins (insertAdmins id isAdmin amount admins).1 id + amount =
      markedAdmins isAdmin id + (insertAdmins id isAdmin amount admins).2 := by
  induction admins generalizing isAdmin amount with
  | nil => rfl
  | cons admin rest ih =>
    unfold insertAdmins
    split
    · exact ih isAdmin amount
    · rename_i hnew
      have hmarked := markedAdmins_insert (Bool.eq_false_of_not_eq_true hnew)
      have hrest := ih (isAdmin.insert (id, admin) true) (amount + 1)
      omega

end Marks

/-! ## The invariant -/

/-- The counters are exact, and what they count is bounded. -/
structure CountersExact (common : CommonStorage T) : Prop where
  alive : common.collectionById.support.card + common.destroyedCollectionCount =
    common.createdCollectionCount
  bounded : common.collectionById.support.card ≤ collectionNumberLimit
  width : common.createdCollectionCount ≤ u32Max
  numbered : ∀ collection, common.collectionById.get collection ≠ none →
    1 ≤ collection ∧ collection ≤ common.createdCollectionCount
  marked : ∀ collection user, common.isAdmin.get (collection, user) ≠ none →
    common.collectionById.get collection ≠ none
  admins : ∀ collection, common.collectionById.get collection ≠ none →
    common.adminAmount.getD collection 0 = markedAdmins common.isAdmin collection
  adminsBounded : ∀ collection, common.collectionById.get collection ≠ none →
    common.adminAmount.getD collection 0 ≤ collectionAdminsLimit

namespace CountersExact

/-- The next identifier is free. -/
theorem next_free (hexact : CountersExact common) :
    common.collectionById.get (common.createdCollectionCount + 1) = none := by
  by_contra hexists
  exact absurd (hexact.numbered _ hexists).2 (Nat.not_succ_le_self _)

theorem collectionStats_eq (hexact : CountersExact common) :
    collectionStats common =
      some ⟨common.createdCollectionCount, common.destroyedCollectionCount,
        common.collectionById.support.card⟩ := by
  have halive := hexact.alive
  have hsub : common.createdCollectionCount - common.destroyedCollectionCount =
      common.collectionById.support.card := by omega
  unfold collectionStats
  rw [if_pos (by omega), hsub]

theorem genesis (balances : T.Balances) : CountersExact (genesis balances).common where
  alive := rfl
  bounded := Nat.zero_le _
  width := Nat.zero_le _
  numbered _ hexists := absurd rfl hexists
  marked _ _ hmarked := absurd rfl hmarked
  admins _ hexists := absurd rfl hexists
  adminsBounded _ hexists := absurd rfl hexists

theorem created {data : CreateCollectionData T.CrossAccountId}
    {id : CollectionId} {new : Collection T.AccountId} {properties : CollectionProperties}
    {permissions : PropertiesPermissionMap}
    (hexact : CountersExact s.common) (hchecks : CreationChecks id data s.common) :
    CountersExact (initCollectionWrites id new properties permissions
      (insertAdmins id s.common.isAdmin 0 data.adminList) sender
      (s.setBalances balances)).common := by
  obtain ⟨hnext, hwidth, hroom, hadmins⟩ := hchecks
  have hfree : s.common.collectionById.get id = none := hnext ▸ hexact.next_free
  have hcard : (s.common.collectionById.insert id new).support.card =
      s.common.collectionById.support.card + 1 := by
    refine Finset.card_insert_of_notMem fun hmem => ?_
    rw [s.common.collectionById.mem_support, hfree] at hmem
    simp at hmem
  -- nobody was marked under an identifier that was not given out
  have hunmarked : markedAdmins s.common.isAdmin id = 0 := by
    refine count_eq_zero ?_
    rintro ⟨other, user⟩ admin hget ⟨rfl, _⟩
    exact hexact.marked other user (by simp [hget]) hfree
  have hcounted : markedAdmins (insertAdmins id s.common.isAdmin 0 data.adminList).1 id + 0 = _ :=
    markedAdmins_insertAdmins s.common.isAdmin 0 data.adminList
  have hexists : ∀ collection, (s.common.collectionById.insert id new).get collection ≠ none →
      collection ≠ id → s.common.collectionById.get collection ≠ none := by
    intro collection hget hne
    rwa [get_insert_of_ne _ _ hne] at hget
  have halive := hexact.alive
  have hcount : s.common.collectionById.support.card + 1 + s.common.destroyedCollectionCount =
      id := by
    rw [← hnext]
    omega
  constructor
  · exact (congrArg (· + s.common.destroyedCollectionCount) hcard).trans hcount
  · refine hcard.trans_le (le_trans ?_ hroom)
    rw [← hcount, Nat.add_sub_cancel]
  · exact hwidth
  · intro collection hget
    show 1 ≤ collection ∧ collection ≤ id
    rw [← hnext] at hget hexists ⊢
    by_cases hne : collection = s.common.createdCollectionCount + 1
    · subst hne
      exact ⟨Nat.le_add_left 1 _, le_rfl⟩
    · have hbefore := hexact.numbered collection (hexists collection hget hne)
      exact ⟨hbefore.1, Nat.le_succ_of_le hbefore.2⟩
  · intro collection user hmarked
    by_cases hne : collection = id
    · subst hne
      exact (get_insert_self _ _ _).trans_ne (Option.some_ne_none _)
    · have hbefore : s.common.isAdmin.get (collection, user) ≠ none :=
        (get_insertAdmins_of_ne hne).symm.trans_ne hmarked
      exact (get_insert_of_ne _ _ hne).trans_ne (hexact.marked collection user hbefore)
  · intro collection hget
    show (s.common.adminAmount.insert id _).getD collection 0 =
      markedAdmins (insertAdmins id s.common.isAdmin 0 data.adminList).1 collection
    rw [getD_insert]
    split
    · rename_i heq
      subst heq
      omega
    · rename_i hne
      rw [hexact.admins collection (hexists collection hget hne)]
      exact (markedAdmins_congr fun user => get_insertAdmins_of_ne hne).symm
  · intro collection hget
    show (s.common.adminAmount.insert id _).getD collection 0 ≤ _
    rw [getD_insert]
    split
    · exact hadmins
    · rename_i hne
      exact hexact.adminsBounded collection (hexists collection hget hne)

theorem destroyed {handle : CollectionHandle T} (hexact : CountersExact common)
    (hfound : common.collectionById.get handle.id = some handle.collection) :
    CountersExact (forgetCollection handle.id common) := by
  have hmem : handle.id ∈ common.collectionById.support := by
    rw [common.collectionById.mem_support, hfound]
    rfl
  have hcard : (common.collectionById.erase handle.id).support.card + 1 =
      common.collectionById.support.card := Finset.card_erase_add_one hmem
  have hexists : ∀ collection, (common.collectionById.erase handle.id).get collection ≠ none →
      collection ≠ handle.id ∧ common.collectionById.get collection ≠ none := by
    intro collection hget
    rw [get_erase] at hget
    split at hget
    · exact absurd rfl hget
    · exact ⟨by assumption, hget⟩
  have halive := hexact.alive
  have hbounded := hexact.bounded
  constructor
  · show (common.collectionById.erase handle.id).support.card +
      (common.destroyedCollectionCount + 1) = common.createdCollectionCount
    omega
  · show (common.collectionById.erase handle.id).support.card ≤ _
    omega
  · exact hexact.width
  · intro collection hget
    exact hexact.numbered collection (hexists collection hget).2
  · intro collection user hmarked
    simp only [forgetCollection, get_eraseWhere] at hmarked
    split at hmarked
    · exact absurd rfl hmarked
    · rename_i hne
      exact (get_erase_of_ne _ hne).trans_ne (hexact.marked collection user hmarked)
  · intro collection hget
    obtain ⟨hne, hbefore⟩ := hexists collection hget
    show (common.adminAmount.erase handle.id).getD collection 0 = markedAdmins
      (common.isAdmin.eraseWhere fun key => key.1 = handle.id) collection
    rw [FiniteMap.getD, get_erase_of_ne _ hne]
    refine (hexact.admins collection hbefore).trans (markedAdmins_congr fun user => ?_)
    simp [get_eraseWhere, hne]
  · intro collection hget
    obtain ⟨hne, hbefore⟩ := hexists collection hget
    show (common.adminAmount.erase handle.id).getD collection 0 ≤ _
    rw [FiniteMap.getD, get_erase_of_ne _ hne]
    exact hexact.adminsBounded collection hbefore

/-- An account is added to the admins, or taken from them. -/
theorem toggled {handle : CollectionHandle T} {user : T.CrossAccountId} {admin : Bool}
    {amount : ℕ} (hexact : CountersExact s.common)
    (hfound : s.common.collectionById.get handle.id = some handle.collection)
    (hother : s.common.isAdmin.getD (handle.id, user) false = !admin)
    (hamount : amount = if admin then s.common.adminAmount.getD handle.id 0 + 1
      else s.common.adminAmount.getD handle.id 0 - 1)
    (hlimit : admin = true → amount ≤ collectionAdminsLimit) :
    CountersExact (toggleAdminWrites handle.id user admin amount s).common := by
  have hhere : s.common.collectionById.get handle.id ≠ none := by simp [hfound]
  have hcounted := hexact.admins handle.id hhere
  have hbounded := hexact.adminsBounded handle.id hhere
  have hget : ∀ key, key ≠ (handle.id, user) →
      (toggleAdminWrites handle.id user admin amount s).common.isAdmin.get key =
        s.common.isAdmin.get key := by
    intro key hne
    cases admin with
    | true => exact get_insert_of_ne _ _ hne
    | false => exact get_erase_of_ne _ hne
  have hmarks : amount = markedAdmins
      (toggleAdminWrites handle.id user admin amount s).common.isAdmin handle.id := by
    cases admin with
    | true =>
      have hinsert := markedAdmins_insert hother
      exact (hamount.trans (congrArg (· + 1) hcounted)).trans hinsert.symm
    | false =>
      have herase := markedAdmins_erase hother
      show amount = markedAdmins (s.common.isAdmin.erase (handle.id, user)) handle.id
      simp only [Bool.false_eq_true, if_false] at hamount
      omega
  constructor
  · exact hexact.alive
  · exact hexact.bounded
  · exact hexact.width
  · exact hexact.numbered
  · intro collection other hmarked
    by_cases hkey : (collection, other) = (handle.id, user)
    · rw [Prod.mk.injEq] at hkey
      exact hkey.1 ▸ hhere
    · exact hexact.marked collection other ((hget _ hkey).symm.trans_ne hmarked)
  · intro collection hexists
    show (s.common.adminAmount.insert handle.id amount).getD collection 0 = _
    rw [getD_insert]
    split
    · rename_i heq
      exact heq ▸ hmarks
    · rename_i hne
      rw [hexact.admins collection hexists]
      refine markedAdmins_congr fun other => (hget _ ?_).symm
      exact fun hkey => hne (congrArg Prod.fst hkey)
  · intro collection hexists
    show (s.common.adminAmount.insert handle.id amount).getD collection 0 ≤ _
    rw [getD_insert]
    split
    · cases admin with
      | true => exact hlimit rfl
      | false =>
        simp only [Bool.false_eq_true, if_false] at hamount
        omega
    · exact hexact.adminsBounded collection hexists

end CountersExact

/-! ## One step -/

/-- What the registry counts by. -/
def registryView (s : State T) :=
  (s.common.createdCollectionCount, s.common.destroyedCollectionCount, s.common.adminAmount,
    s.common.isAdmin)

/-- The counters stay, and so does the set of existing collections. -/
theorem CountersExact.of_registryView_eq {other : CommonStorage T} (hexact : CountersExact common)
    (hexists : ∀ collection, other.collectionById.get collection ≠ none ↔
      common.collectionById.get collection ≠ none)
    (hcreated : other.createdCollectionCount = common.createdCollectionCount)
    (hdestroyed : other.destroyedCollectionCount = common.destroyedCollectionCount)
    (hamount : other.adminAmount = common.adminAmount) (hmarks : other.isAdmin = common.isAdmin) :
    CountersExact other := by
  have hsupport : other.collectionById.support = common.collectionById.support := by
    ext collection
    rw [mem_support, mem_support, Option.isSome_iff_ne_none, Option.isSome_iff_ne_none, hexists]
  obtain ⟨halive, hbounded, hwidth, hnumbered, hmarked, hadmins, hadminsBounded⟩ := hexact
  constructor
  · rwa [hsupport, hdestroyed, hcreated]
  · rwa [hsupport]
  · rwa [hcreated]
  · simpa only [hexists, hcreated] using hnumbered
  · simpa only [hexists, hmarks] using hmarked
  · simpa only [hexists, hamount, hmarks] using hadmins
  · simpa only [hexists, hamount] using hadminsBounded

section Settings

variable {handle : CollectionHandle T}

theorem preserves_registryView_checkIsOwnerOrAdmin {user : T.CrossAccountId} :
    Preserves registryView (handle.checkIsOwnerOrAdmin user) := .bind .read fun _ => .ensure

theorem preserves_registryView_saveSponsorship {sponsorship : SponsorshipState T.AccountId}
    {events : List (Event T)} :
    Preserves registryView (saveSponsorship handle sponsorship events) := by
  refine .bind (.update fun s => ?_) fun _ => .update fun _ => rfl
  have hcommon := (State.storage_eq_iff.mp (State.storage_foldl_depositEvent events s)).1
  simp [registryView, State.depositLog, hcommon]

theorem preserves_registryView_setPropertyPermission {entry : PropertyKeyPermission} :
    Preserves registryView (setPropertyPermission handle sender .none entry) := by
  refine .bind preserves_registryView_checkIsOwnerOrAdmin fun _ => .bind .read fun s =>
    .bind .ensure fun _ => .bind ?_ fun _ => .update fun _ => rfl
  unfold ofProperties
  split
  · exact .pure
  · exact .fail

/-- Only `toggleAdmin` changes who is an admin. -/
theorem SettingsCall.preserves_registryView {call : SettingsCall T}
    (hother : ∀ sender user admin, call ≠ .toggleAdmin sender user admin) :
    Preserves registryView (call.execute handle) := by
  cases call with
  | toggleAdmin sender user admin => exact absurd rfl (hother sender user admin)
  | changeOwner caller newOwner =>
    exact .bind .ensure fun _ => .bind .ensure fun _ => .bind (.update fun _ => rfl) fun _ =>
      .update fun _ => rfl
  | toggleAllowlist sender user allowed =>
    exact .bind preserves_registryView_checkIsOwnerOrAdmin fun _ => .update fun _ => rfl
  | updateLimits user limits =>
    refine .bind .ensure fun _ => .bind preserves_registryView_checkIsOwnerOrAdmin fun _ =>
      .bind ?_ fun _ => .bind (.update fun _ => rfl) fun _ => .update fun _ => rfl
    unfold ofLimits
    split
    · exact .pure
    · exact .fail
  | updatePermissions user permissions =>
    exact .bind .ensure fun _ => .bind preserves_registryView_checkIsOwnerOrAdmin fun _ =>
      .bind (.update fun _ => rfl) fun _ => .update fun _ => rfl
  | setTransfersEnabledFlag sender value =>
    exact .bind .ensure fun _ => .bind .ensure fun _ => .bind .ensure fun _ =>
      .update fun _ => rfl
  | setSponsor sender sponsor =>
    exact .bind .ensure fun _ => .bind preserves_registryView_checkIsOwnerOrAdmin fun _ =>
      preserves_registryView_saveSponsorship
  | forceSetSponsor sponsor =>
    exact .bind .ensure fun _ => preserves_registryView_saveSponsorship
  | confirmSponsorship sender =>
    exact .bind .ensure fun _ => .bind .ensure fun _ => preserves_registryView_saveSponsorship
  | removeSponsor sender =>
    exact .bind .ensure fun _ => .bind preserves_registryView_checkIsOwnerOrAdmin fun _ =>
      preserves_registryView_saveSponsorship
  | forceRemoveSponsor =>
    exact .bind .ensure fun _ => preserves_registryView_saveSponsorship
  | setTokenPropertyPermissions sender entries =>
    exact .transactional (.forEach (fun _ => preserves_registryView_setPropertyPermission) _)
      fun _ _ => rfl

theorem CountersExact.settings {call : SettingsCall T} (hexact : CountersExact s.common)
    (hfound : s.common.collectionById.get handle.id = some handle.collection)
    (hrun : (call.execute handle).run s = .ok () s') : CountersExact s'.common := by
  by_cases htoggle : ∃ sender user admin, call = .toggleAdmin sender user admin
  · obtain ⟨sender, user, admin, rfl⟩ := htoggle
    rcases toggleAdmin_ok hrun with rfl | ⟨hother, amount, hamount, hlimit, rfl⟩
    · exact hexact
    · exact hexact.toggled hfound hother hamount hlimit
  · have hview := (SettingsCall.preserves_registryView fun sender user admin heq =>
      htoggle ⟨sender, user, admin, heq⟩).of_ok hrun
    simp only [registryView, Prod.mk.injEq] at hview
    obtain ⟨hcreated, hdestroyed, hamount, hmarks⟩ := hview
    obtain ⟨common, hstep, hstorage⟩ := SettingsCall.execute_ok hrun
    refine hexact.of_registryView_eq (fun collection => ?_) hcreated hdestroyed hamount hmarks
    rw [(State.storage_eq_iff.mp hstorage).1]
    exact hstep.exists_iff hfound

end Settings

/-- The counters stay exact. -/
theorem CountersExact.step (hexact : CountersExact s.common)
    (hstep : step s extrinsic = some s') : CountersExact s'.common := by
  obtain ⟨s₁, hchain, hstorage⟩ := chainStep_of_step hstep
  have hcommon := (State.storage_eq_iff.mp hstorage).1
  have hrun := step_eq_some.mp hstep
  obtain ⟨call, budget⟩ := extrinsic
  cases hchain with
  | fungible hfound hoperation => exact (hcommon.trans hoperation.frame.1.common) ▸ hexact
  | refungible hfound hoperation => exact (hcommon.trans hoperation.frame.1.common) ▸ hexact
  | createCollection hwidth hmode hlimits =>
    obtain ⟨id, collection, properties, permissions, balances, hchecks, _, rfl⟩ :=
      createCollection_writes hrun
    exact CountersExact.created (s := s.setBudget budget) hexact hchecks
  | @destroyCollection sender handle _ hnative hfound hdestroyed =>
    have hforgotten : s'.common = forgetCollection handle.id s.common := by
      cases hdestroyed <;> exact hcommon
    exact hforgotten ▸ hexact.destroyed hfound
  | settings hfound hsettings =>
    obtain ⟨handle, hhandle, hexecuted⟩ := Call.settings_ok.mp hrun
    refine CountersExact.settings (s := s.setBudget budget) hexact ?_ hexecuted
    rw [hhandle.id_eq]
    exact hhandle.stored
  | _ => exact hcommon ▸ hexact

/-! ## Runs -/

theorem countersExact_of_reaches {history : History T}
    (hrun : Reaches balances history s) : CountersExact s.common :=
  Run.invariant (P := fun s => CountersExact s.common) (fun _ _ => True) (.genesis balances)
    (fun _ _ _ hexact _ hstep => hexact.step hstep) hrun fun _ _ => trivial

/-- The identifier a call gives out, if it creates a collection. -/
def Call.createdId (s : State T) : Call T → Option CollectionId
  | .createCollection _ _ _ => some (s.common.createdCollectionCount + 1)
  | _ => none

/-- The identifiers given out in a run, the latest first. -/
def createdIds (history : History T) : List CollectionId :=
  history.filterMap fun event => event.call.call.createdId event.state

/-- A creation adds its collection under the identifier it gives out. -/
structure Created (s : State T) (id : CollectionId) (s' : State T) : Prop where
  free : s.common.collectionById.get id = none
  stored : s'.common.collectionById.get id ≠ none
  others : ∀ other ≠ id, s'.common.collectionById.get other = s.common.collectionById.get other

theorem created_of_step {id : CollectionId}
    (hexact : CountersExact s.common) (hid : extrinsic.call.createdId s = some id)
    (hstep : step s extrinsic = some s') :
    Created s id s' ∧ id = s'.common.createdCollectionCount := by
  have hrun := step_eq_some.mp hstep
  obtain ⟨call, budget⟩ := extrinsic
  cases call with
  | createCollection sender issuer data =>
    obtain ⟨next, collection, _, _, _, hchecks, _, rfl⟩ := createCollection_writes hrun
    obtain rfl : next = id := hchecks.next.symm.trans (Option.some.inj hid)
    refine ⟨⟨?_, ?_, ?_⟩, rfl⟩
    · exact hchecks.next ▸ hexact.next_free
    · exact (get_insert_self _ _ _).trans_ne (Option.some_ne_none _)
    · intro other hother
      exact get_insert_of_ne _ _ hother
  | _ => cases hid

/-- The identifiers of a run are different, and none is beyond the count. -/
theorem createdIds_nodup {history : History T} (hrun : Reaches balances history s) :
    (createdIds history).Nodup ∧
      ∀ id ∈ createdIds history, id ≤ s.common.createdCollectionCount := by
  induction hrun with
  | start => exact ⟨List.nodup_nil, by simp [createdIds]⟩
  | @accepted history s s' extrinsic hrun hstep ih =>
    obtain ⟨hnodup, hbound⟩ := ih
    obtain ⟨s₁, hchain, hstorage⟩ := chainStep_of_step hstep
    have hle : s.common.createdCollectionCount ≤ s'.common.createdCollectionCount := by
      rw [(State.storage_eq_iff.mp hstorage).1]
      exact hchain.pallets.common.createdCollectionCount_le
    have hbefore : ∀ id ∈ createdIds history, id ≤ s'.common.createdCollectionCount :=
      fun id hid => (hbound id hid).trans hle
    unfold createdIds at hnodup hbound hbefore ⊢
    rw [List.filterMap_cons]
    cases hid : extrinsic.call.createdId s with
    | none => exact ⟨hnodup, hbefore⟩
    | some id =>
      simp only
      obtain ⟨hcreated, hcount⟩ := created_of_step (countersExact_of_reaches hrun) hid hstep
      have hnext : id = s.common.createdCollectionCount + 1 := by
        unfold Call.createdId at hid
        split at hid
        · exact (Option.some.inj hid).symm
        · cases hid
      refine ⟨List.nodup_cons.mpr ⟨fun hmem => ?_, hnodup⟩, ?_⟩
      · exact Nat.not_succ_le_self _ (hnext ▸ hbound id hmem)
      · rintro other hother
        rcases List.mem_cons.mp hother with rfl | hearlier
        · exact hcount.le
        · exact hbefore other hearlier
  | rejected hrun hstep ih => exact ih

/-- In every run the counters of the registry are exact, identifiers are given
out once, and the admins of a collection are counted once each. -/
theorem registry_counters_exact {balances : T.Balances} {history : History T}
    (hrun : Reaches balances history s) :
    (collectionStats s.common = some ⟨s.common.createdCollectionCount,
        s.common.destroyedCollectionCount, s.common.collectionById.support.card⟩ ∧
      s.common.collectionById.support.card ≤ collectionNumberLimit) ∧
    (∀ collection, CollectionExists s collection →
      1 ≤ collection ∧ collection ≤ s.common.createdCollectionCount) ∧
    ((createdIds history).Nodup ∧ ∀ event ∈ history, ∀ id next,
      event.call.call.createdId event.state = some id →
      step event.state event.call = some next → Created event.state id next) ∧
    ∀ collection, CollectionExists s collection →
      s.common.adminAmount.getD collection 0 = markedAdmins s.common.isAdmin collection ∧
      s.common.adminAmount.getD collection 0 ≤ collectionAdminsLimit := by
  have hexact := countersExact_of_reaches hrun
  refine ⟨⟨hexact.collectionStats_eq, hexact.bounded⟩, hexact.numbered,
    ⟨(createdIds_nodup hrun).1, ?_⟩, fun collection hexists =>
      ⟨hexact.admins collection hexists, hexact.adminsBounded collection hexists⟩⟩
  intro event hevent id next hid hstep
  obtain ⟨earlier, _, hearlier, _⟩ := hrun.of_mem hevent
  exact (created_of_step (countersExact_of_reaches hearlier) hid hstep).1

namespace CountersExample

open ReferenceAccount

/-- Two collections, one of them with an admin listed twice; the other is destroyed. -/
def exampleRun : List (Extrinsic reference) :=
  [⟨.createCollection alice (.user alice) { mode := .nft, adminList := [bob, carol, bob] }, 5⟩,
    reference.create .nft,
    ⟨.settings 1 (.toggleAdmin alice carol false), 5⟩,
    ⟨.destroyCollection alice 2, 5⟩]

/-- One admin is left of the three entries of the list. -/
theorem registry_counters_example : let s := reference.stateOf exampleRun rfl
    collectionStats s.common = some ⟨2, 1, 1⟩ ∧ s.common.collectionById.support.card = 1 ∧
      s.common.adminAmount.getD 1 0 = 1 ∧ markedAdmins s.common.isAdmin 1 = 1 := by
  intro s
  obtain ⟨⟨hstats, _⟩, _, _, hadmins⟩ :=
    registry_counters_exact (run_replay _ (genesis reference.noBalances) exampleRun rfl)
  have hexists : CollectionExists s 1 := by
    unfold CollectionExists
    decide
  have hcounted := (hadmins 1 hexists).1
  have hcard : s.common.collectionById.support.card = 1 := by decide
  have hamount : s.common.adminAmount.getD 1 0 = 1 := by decide
  exact ⟨hcard ▸ hstats, hcard, hamount, hcounted.symm.trans hamount⟩

end CountersExample

end UniqueChain
