import UniqueChain.Nonfungible.Ledger
import UniqueChain.Refungible.Ledger
import UniqueChain.Registry.Collections

/-!
# What a step does to existing tokens

Tokens of both kinds are treated alike here: for a single step it is enough to
look at a token that exists after it (`TokensStep`).  Either it existed before, and
its properties are the same or changed by the rule of the writer, or it is new and
has a number above those minted so far.  Numbers are not given out twice, so a
token that exists at the end of a run existed all along since it was minted.
-/

namespace UniqueChain

open CollectionDispatch FiniteMap

variable {T : Config} {s s' : State T} {call : Call T}

variable {handle : CollectionHandle T} {id : CollectionId} {owner : T.CrossAccountId}
  {accountBalance : FiniteMap (CollectionId × T.CrossAccountId) ℕ}
  {tokenProperties : FiniteMap Token TokenProperties} {updates : List PropertyUpdate}
  {from' to' sender : T.CrossAccountId} {final : TokenProperties}

/-- The permissions of the keys of a collection. -/
def permissionsOf (s : State T) (collection : CollectionId) : PropertiesPermissionMap :=
  s.common.collectionPropertyPermissions.getD collection PropertiesMap.new

/-- Properties stay, or are changed by the rule of the writer. -/
inductive PropertyChange (permissions : PropertiesPermissionMap) (before : TokenProperties) :
    TokenProperties → Prop
  | unchanged : PropertyChange permissions before before
  | updated {facts : WriterFacts} {updates : List PropertyUpdate} {final : TokenProperties}
      (hpermissions : facts.permissions = permissions)
      (happly : facts.apply updates before = some final) :
      PropertyChange permissions before final

/-- What a pallet stores about tokens and their properties. -/
structure TokenView (T : Config) where
  Exists : State T → Token → Prop
  minted : State T → CollectionId → ℕ
  stored : State T → Token → TokenProperties
  ofStorage : ∀ {s s' : State T}, s'.storage = s.storage →
    Exists s' = Exists s ∧ minted s' = minted s ∧ stored s' = stored s

/-- A token that exists after the step existed before it, or is newly minted. -/
structure TokensStep (view : TokenView T) (s s' : State T) : Prop where
  traced : ∀ key, view.Exists s' key →
    (view.Exists s key ∧
      PropertyChange (permissionsOf s key.1) (view.stored s key) (view.stored s' key)) ∨
    (CollectionExists s key.1 ∧ view.minted s key.1 < key.2)
  minted_le : ∀ collection, CollectionExists s' collection →
    view.minted s collection ≤ view.minted s' collection

/-! ## Non-fungible tokens -/

namespace Nonfungible

def tokenView : TokenView T where
  Exists s key := s.nonfungible.tokenData.get key ≠ none
  minted s collection := s.nonfungible.tokensMinted.getD collection 0
  stored s key := (s.nonfungible.tokenProperties.get key).getD Properties.new
  ofStorage hstorage := by
    simp only [(State.storage_eq_iff.mp hstorage).2.1, and_self]

/-- Operations that leave tokens and properties alone. -/
theorem tokensStep_of_eq (hdata : s'.nonfungible.tokenData = s.nonfungible.tokenData)
    (hminted : s'.nonfungible.tokensMinted = s.nonfungible.tokensMinted)
    (hproperties : s'.nonfungible.tokenProperties = s.nonfungible.tokenProperties) :
    TokensStep tokenView s s' where
  traced := by
    intro key hexists
    simp only [tokenView, hdata, hproperties] at hexists ⊢
    exact .inl ⟨hexists, .unchanged⟩
  minted_le := by
    intro collection _
    simp only [tokenView, hminted, Nat.le_refl]

section Operations

variable {handle : CollectionHandle T} {token : TokenId}

theorem tokensStep_transferred {parentFrom parentTo : Option Token}
    (howned : s.nonfungible.tokenData.get (handle.id, token) = some ⟨from'⟩) :
    TokensStep tokenView s (s.mapNonfungible fun _ =>
      transferredStorage handle.id from' to' token parentFrom parentTo s.nonfungible) where
  traced := by
    intro key hexists
    refine .inl ⟨?_, .unchanged⟩
    simp only [tokenView, State.mapNonfungible, transferredStorage] at hexists ⊢
    grind
  minted_le := fun _ _ => Nat.le_refl _

theorem tokensStep_burnt {parent : Option Token} :
    TokensStep tokenView s (s.mapNonfungible fun _ =>
      burntStorage handle.id token owner parent s.nonfungible) where
  traced := by
    intro key hexists
    simp only [tokenView, State.mapNonfungible, burntStorage] at hexists ⊢
    have hne : key ≠ (handle.id, token) := by
      rintro rfl
      simp at hexists
    rw [get_erase_of_ne _ hne] at hexists
    rw [get_erase_of_ne _ hne]
    exact .inl ⟨hexists, .unchanged⟩
  minted_le := fun _ _ => Nat.le_refl _

theorem tokensStep_minted {data : List (CreateItemData T)} (hexists : CollectionExists s handle.id)
    (hkept : ∀ key, (∀ item ∈ data.zipIdx (s.nonfungible.tokensMinted.getD handle.id 0 + 1),
        key ≠ (handle.id, item.2)) →
      tokenProperties.get key = s.nonfungible.tokenProperties.get key) :
    TokensStep tokenView s (s.mapNonfungible fun _ => mintedStorage s handle.id
      (data.zipIdx (s.nonfungible.tokensMinted.getD handle.id 0 + 1)) accountBalance
      tokenProperties s.nonfungible) where
  traced := by
    intro key hkey
    simp only [tokenView, State.mapNonfungible, mintedStorage] at hkey ⊢
    rcases get_mintedData_cases handle.id data (s.nonfungible.tokensMinted.getD handle.id 0 + 1)
        s.nonfungible.tokenData key with ⟨item, hitem, rfl, _⟩ | ⟨hother, hget⟩
    · exact .inr ⟨hexists, (bounds_of_mem_numbered hitem).1⟩
    · rw [hget] at hkey
      rw [hkept key hother]
      exact .inl ⟨hkey, .unchanged⟩
  minted_le := by
    intro collection _
    simp only [tokenView, State.mapNonfungible, mintedStorage]
    grind

theorem tokensStep_modified (happly : (tokenFacts handle sender token s).apply updates
      (storedProperties s (handle.id, token)) = some final) :
    TokensStep tokenView s (s.mapNonfungible fun _ =>
      { s.nonfungible with
        tokenProperties := s.nonfungible.tokenProperties.insert (handle.id, token) final }) where
  traced := by
    intro key hexists
    refine .inl ⟨hexists, ?_⟩
    simp only [tokenView, State.mapNonfungible]
    by_cases hkey : key = (handle.id, token)
    · subst hkey
      rw [get_insert_self]
      exact .updated (by rfl) happly
    · rw [get_insert_of_ne _ _ hkey]
      exact .unchanged
  minted_le := fun _ _ => Nat.le_refl _

theorem Step.tokensStep {operation : NonfungibleCall T} {nonfungible : NonfungibleStorage T}
    (hexists : CollectionExists s handle.id) (hstep : Step handle s operation nonfungible) :
    TokensStep tokenView s (s.mapNonfungible fun _ => nonfungible) := by
  cases hstep with
  | createMultipleItems hchecks hkept => exact tokensStep_minted hexists hkept
  | transfer hchecks => exact tokensStep_transferred hchecks.owned
  | transferFrom hallowed hchecks => exact tokensStep_transferred hchecks.owned
  | burn hchecks => exact tokensStep_burnt
  | burnFrom hallowed hchecks => exact tokensStep_burnt
  | modifyTokenProperties happly =>
    split
    · exact tokensStep_of_eq rfl rfl rfl
    · exact tokensStep_modified happly
  | _ => exact tokensStep_of_eq rfl rfl rfl

end Operations

theorem tokensStep_cleared :
    TokensStep tokenView s (((s.mapCommon (forgetCollection id)).mapNonfungible
      (clearCollection id)).mapUnique (clearBaskets id)) where
  traced := by
    intro key hexists
    simp only [tokenView, State.mapUnique, State.mapNonfungible, State.mapCommon,
      clearCollection] at hexists ⊢
    refine .inl ⟨?_, .unchanged⟩
    grind
  minted_le := by
    intro collection hexists
    simp only [CollectionExists, State.mapUnique, State.mapNonfungible, State.mapCommon,
      forgetCollection] at hexists
    simp only [tokenView, State.mapUnique, State.mapNonfungible, State.mapCommon,
      clearCollection]
    grind

/-- Every call treats the non-fungible tokens in this way. -/
theorem tokensStep_of_chainStep (hstep : ChainStep s call s') : TokensStep tokenView s s' := by
  cases hstep with
  | nonfungible hfound hstep =>
    exact hstep.tokensStep (CollectionExists.of_nonfungible hfound)
  | fungible hfound hstep =>
    obtain ⟨children, hnonfungible⟩ := hstep.frame.1.nonfungible
    exact tokensStep_of_eq (by rw [hnonfungible]) (by rw [hnonfungible]) (by rw [hnonfungible])
  | refungible hfound hstep =>
    obtain ⟨children, hnonfungible⟩ := hstep.frame.1.nonfungible
    exact tokensStep_of_eq (by rw [hnonfungible]) (by rw [hnonfungible]) (by rw [hnonfungible])
  | destroyCollection hnative hfound hstep =>
    cases hstep with
    | nonfungible hmode hempty => exact tokensStep_cleared
    | fungible hmode hempty => exact tokensStep_of_eq rfl rfl rfl
    | refungible hmode hempty => exact tokensStep_of_eq rfl rfl rfl
  | _ => exact tokensStep_of_eq rfl rfl rfl

end Nonfungible

/-! ## Refungible tokens -/

namespace Refungible

def tokenView : TokenView T where
  Exists s key := s.refungible.totalSupply.get key ≠ none
  minted s collection := s.refungible.tokensMinted.getD collection 0
  stored s key := (s.refungible.tokenProperties.get key).getD Properties.new
  ofStorage hstorage := by
    simp only [(State.storage_eq_iff.mp hstorage).2.2.2.1, and_self]

/-- Operations that give no token its existence, and leave the properties of
existing ones alone. -/
theorem tokensStep_of_frame (hminted : s'.refungible.tokensMinted = s.refungible.tokensMinted)
    (hframe : ∀ key, s'.refungible.totalSupply.get key ≠ none →
      s.refungible.totalSupply.get key ≠ none ∧
        s'.refungible.tokenProperties.get key = s.refungible.tokenProperties.get key) :
    TokensStep tokenView s s' where
  traced := by
    intro key hexists
    simp only [tokenView, (hframe key hexists).2]
    exact .inl ⟨(hframe key hexists).1, .unchanged⟩
  minted_le := by
    intro collection _
    simp only [tokenView, hminted, Nat.le_refl]

theorem tokensStep_of_eq (hsupply : s'.refungible.totalSupply = s.refungible.totalSupply)
    (hminted : s'.refungible.tokensMinted = s.refungible.tokensMinted)
    (hproperties : s'.refungible.tokenProperties = s.refungible.tokenProperties) :
    TokensStep tokenView s s' :=
  tokensStep_of_frame hminted fun key hkey => ⟨hsupply ▸ hkey, by rw [hproperties]⟩

section Operations

variable {token : Token} {amount : ℕ}

theorem tokensStep_transferred :
    TokensStep tokenView s (transferredState token from' to' amount s) := by
  unfold transferredState
  split
  · obtain ⟨owned, accountBalance, hmoved⟩ := movedPieces_eq s.refungible token from' to'
      (balanceOf s token from') (balanceOf s token to') amount
    refine tokensStep_of_eq ?_ ?_ ?_
    all_goals simp only [writeLedger, State.setChildren, State.mapRefungible, hmoved]
  · exact tokensStep_of_eq rfl rfl rfl

theorem tokensStep_burnt : TokensStep tokenView s (burntState token owner amount s) := by
  unfold burntState
  simp only
  split
  · refine tokensStep_of_frame rfl fun key hkey => ?_
    simp only [writeLedger, State.setChildren, State.mapRefungible, burntToken,
      dropHolder] at hkey ⊢
    grind
  · rename_i hleft
    obtain ⟨owned, accountBalance, hdebited⟩ :=
      debited_eq s.refungible token owner (balanceOf s token owner - amount)
    refine tokensStep_of_frame ?_ fun key hkey => ?_
    · simp only [writeLedger, State.setChildren, State.mapRefungible, hdebited]
    · have hexists : s.refungible.totalSupply.get token ≠ none := by
        intro hnone
        rw [getD_of_get_none hnone] at hleft
        omega
      simp only [writeLedger, State.setChildren, State.mapRefungible, hdebited] at hkey ⊢
      grind

theorem tokensStep_repartitioned (hledger : Ledger s.refungible)
    (hall : (totalPieces s token).getD u128Max = balanceOf s token owner) :
    TokensStep tokenView s (repartitionedState token owner amount s) := by
  obtain ⟨supply, hsupply, _⟩ := hledger.supply_of_repartition hall
  refine tokensStep_of_frame rfl fun key hkey => ?_
  simp only [repartitionedState, State.mapRefungible] at hkey ⊢
  grind

theorem tokensStep_minted {data : List (CreateItemData T)} {children : Children}
    (hexists : CollectionExists s handle.id)
    (hkept : ∀ key, (∀ item ∈ data.zipIdx (s.refungible.tokensMinted.getD handle.id 0 + 1),
        key ≠ (handle.id, item.2)) →
      tokenProperties.get key = s.refungible.tokenProperties.get key) :
    TokensStep tokenView s (writeLedger (mintedStorage handle.id
      (data.zipIdx (s.refungible.tokensMinted.getD handle.id 0 + 1)) accountBalance
      tokenProperties) children s) where
  traced := by
    intro key hkey
    simp only [tokenView, writeLedger, State.setChildren, State.mapRefungible, mintedStorage,
      writeItems, givePieces] at hkey ⊢
    rcases s.refungible.totalSupply.get_insertEach_cases _
        (nodup_numbered handle.id data (s.refungible.tokensMinted.getD handle.id 0 + 1)) key with
      ⟨item, hitem, rfl, _⟩ | ⟨hother, hget⟩
    · exact .inr ⟨hexists, (bounds_of_mem_numbered hitem).1⟩
    · rw [hget] at hkey
      rw [hkept key hother]
      exact .inl ⟨hkey, .unchanged⟩
  minted_le := by
    intro collection _
    simp only [tokenView, writeLedger, State.setChildren, State.mapRefungible, mintedStorage]
    grind

theorem tokensStep_modified {token : TokenId}
    (happly : (tokenFacts handle sender token s).apply updates
      (storedProperties s (handle.id, token)) = some final) :
    TokensStep tokenView s (s.mapRefungible fun refungible =>
      { refungible with
        tokenProperties := if updates = [] then s.refungible.tokenProperties
          else s.refungible.tokenProperties.insert (handle.id, token) final }) where
  traced := by
    intro key hexists
    refine .inl ⟨hexists, ?_⟩
    simp only [tokenView, State.mapRefungible]
    split
    · exact .unchanged
    · by_cases hkey : key = (handle.id, token)
      · subst hkey
        rw [get_insert_self]
        exact .updated (by rfl) happly
      · rw [get_insert_of_ne _ _ hkey]
        exact .unchanged
  minted_le := fun _ _ => Nat.le_refl _

theorem tokensStep_storedAllowance {from' spender : T.CrossAccountId}
    {number : TokenId} {left : Option ℕ} (hstep : TokensStep tokenView s s') :
    TokensStep tokenView s (s'.mapRefungible (storedAllowance id from' spender number left)) :=
  ⟨hstep.traced, hstep.minted_le⟩

theorem Step.tokensStep {operation : RefungibleCall T}
    (hledger : Ledger s.refungible) (hexists : CollectionExists s handle.id)
    (hstep : Step handle s operation s') : TokensStep tokenView s s' := by
  cases hstep with
  | createMultipleItems hchecks hkept => exact tokensStep_minted hexists hkept
  | transfer hchecks => exact tokensStep_transferred
  | transferFrom hallowed haccess hchecks =>
    exact tokensStep_storedAllowance tokensStep_transferred
  | burn hchecks => exact tokensStep_burnt
  | burnFrom hallowed haccess hchecks hself =>
    exact tokensStep_storedAllowance tokensStep_burnt
  | repartition hmax hpos hall => exact tokensStep_repartitioned hledger hall
  | modifyTokenProperties hkept happly =>
    obtain ⟨final, haccepted, rfl⟩ := happly hledger.held
    exact tokensStep_modified haccepted
  | _ => exact tokensStep_of_eq rfl rfl rfl

end Operations

theorem tokensStep_cleared :
    TokensStep tokenView s (((s.mapCommon (forgetCollection id)).mapRefungible
      (clearCollection id)).mapUnique (clearBaskets id)) where
  traced := by
    intro key hexists
    simp only [tokenView, State.mapUnique, State.mapRefungible, State.mapCommon,
      clearCollection] at hexists ⊢
    refine .inl ⟨?_, .unchanged⟩
    grind
  minted_le := by
    intro collection hexists
    simp only [CollectionExists, State.mapUnique, State.mapRefungible, State.mapCommon,
      forgetCollection] at hexists
    simp only [tokenView, State.mapUnique, State.mapRefungible, State.mapCommon,
      clearCollection]
    grind

/-- Every call treats the refungible tokens in this way. -/
theorem tokensStep_of_chainStep (hledger : Ledger s.refungible) (hstep : ChainStep s call s') :
    TokensStep tokenView s s' := by
  cases hstep with
  | fungible hfound hstep =>
    have hsame := hstep.frame.2
    exact tokensStep_of_eq (by rw [hsame]) (by rw [hsame]) (by rw [hsame])
  | refungible hfound hstep => exact hstep.tokensStep hledger (.of_refungible hfound)
  | destroyCollection hnative hfound hstep =>
    cases hstep with
    | nonfungible hmode hempty => exact tokensStep_of_eq rfl rfl rfl
    | fungible hmode hempty => exact tokensStep_of_eq rfl rfl rfl
    | refungible hmode hempty => exact tokensStep_cleared
  | _ => exact tokensStep_of_eq rfl rfl rfl

end Refungible

end UniqueChain
