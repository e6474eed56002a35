import UniqueChain.Nesting.Index

/-!
# Nesting permissions are enforced

Whatever is put at the address of an NFT by a mint or a transfer, the settings
of the collection of that NFT let the sender put it there.  The analysis of
gains and of new entries in the index reduces this to what a passed check of the
nesting rules guarantees.
-/

namespace UniqueChain

open CollectionDispatch

variable {T : Config} {s s' : State T} {handle : CollectionHandle T} {sender : T.CrossAccountId}
  {collection : CollectionId}

/-- The settings of the collection of `parent` let `sender` nest something of the
collection `source` under it. -/
structure NestingPermitted (s : State T) (sender : T.CrossAccountId) (source : CollectionId)
    (parent : Token) (handle : CollectionHandle T) : Prop where
  found : dispatch s parent.1 = some (.nonfungible handle)
  parent_exists : s.nonfungible.tokenData.get parent ≠ none
  /-- The sender, or the account at its top, is at the top of the parent and
  token owners may nest; or it is the owner or an admin, and these may nest. -/
  permitted :
    handle.collection.permissions.nesting.tokenOwner = true ∧ IndirectlyOwned s sender parent ∨
      handle.collection.permissions.nesting.collectionAdmin = true ∧
        handle.isOwnerOrAdmin s sender = true
  restricted : ∀ whitelist, handle.collection.permissions.nesting.restricted = some whitelist →
    source ∈ whitelist

theorem NestingGranted.nestingPermitted {child parent : Token}
    (hgranted : NestingGranted s sender child parent handle) :
    NestingPermitted s sender child.1 parent handle := by
  obtain ⟨account, ancestors, hpath, _, _, hpermitted⟩ := hgranted.permitted
  refine ⟨hgranted.found, hgranted.parent_exists, ?_, hgranted.restricted⟩
  rcases hpermitted with ⟨hflag, hstands⟩ | hadmin
  · exact .inl ⟨hflag, account, ancestors, hstands, hpath⟩
  · exact .inr hadmin

/-- Who gains by a mint or a transfer may receive the asset from its sender. -/
theorem Gain.mayReceive {call : Call T} {account sender : T.CrossAccountId} {asset : Asset}
    (hgain : Gain s call account asset) (hsender : call.giver = some sender) :
    MayReceive s sender account asset.child := by
  cases hgain with
  | received hsender' _ hmay =>
    rw [hsender] at hsender'
    cases hsender'
    exact hmay
  | deposited hasset hcall hentry hpositive hmay =>
    subst hcall
    cases hsender
    exact hmay
  | repartitioned hasset hcall hall =>
    subst hcall
    cases hsender

/-- A step that makes a token the holder of more than before is permitted by the
collection of the token. -/
theorem nestingPermitted_of_step {extrinsic : Extrinsic T} {sender account : T.CrossAccountId}
    {asset : Asset} {parent : Token} (hstep : step s extrinsic = some s')
    (hsender : extrinsic.call.giver = some sender)
    (hgain : held s account asset < held s' account asset)
    (hparent : T.addressToToken account = some parent) :
    ∃ handle, NestingPermitted s sender asset.child.1 parent handle := by
  obtain ⟨s₁, hchain, hstorage⟩ := chainStep_of_step hstep
  have hgain' : held (s.setBudget extrinsic.budget) account asset < held s₁ account asset := by
    rwa [held_congr hstorage] at hgain
  obtain ⟨handle, hgranted⟩ := (hchain.gain hgain').mayReceive hsender parent hparent
  obtain ⟨hfound, hexists, hpermitted, hrestricted⟩ := hgranted.nestingPermitted
  refine ⟨handle, hfound, hexists, hpermitted.imp_left fun howner => ⟨howner.1, ?_⟩, hrestricted⟩
  obtain ⟨target, ancestors, hstands, hpath⟩ := howner.2
  exact ⟨target, ancestors, standsFor_setBudget.mp hstands, ownerPath_setBudget.mp hpath⟩

/-! ## Collections without nesting -/

/-- Neither token owners nor admins may nest under the tokens of the collection. -/
def NestingOff (s : State T) (collection : CollectionId) : Prop :=
  ∀ data, s.common.collectionById.get collection = some data →
    data.permissions.nesting.tokenOwner = false ∧ data.permissions.nesting.collectionAdmin = false

instance (collection : CollectionId) : Decidable (NestingOff s collection) :=
  FiniteMap.decidableForallGet ..

theorem NestingPermitted.not_nestingOff {source : CollectionId} {parent : Token}
    (hpermitted : NestingPermitted s sender source parent handle) : ¬ NestingOff s parent.1 := by
  intro hoff
  obtain ⟨htokenOwner, hcollectionAdmin⟩ :=
    hoff _ (dispatch_eq_nonfungible.mp hpermitted.found).2.2.1
  rcases hpermitted.permitted with ⟨hflag, _⟩ | ⟨hflag, _⟩
  · rw [htokenOwner] at hflag
    cases hflag
  · rw [hcollectionAdmin] at hflag
    cases hflag

/-- The tokens of the collection have no children in the index. -/
def Childless (s : State T) (collection : CollectionId) : Prop :=
  ∀ token child, token.1 = collection → ¬ IsChild s.nonfungible.tokenChildren token child

theorem ChainStep.childless {call : Call T}
    (hchildless : Childless s collection) (hoff : NestingOff s collection)
    (hstep : ChainStep s call s') : Childless s' collection := by
  rintro token child rfl hentry
  rcases hstep.entered hentry with hbefore | hentered
  · exact hchildless token child rfl hbefore
  · obtain ⟨sender, account, _, hparent, hmay⟩ := hentered.mayReceive
    obtain ⟨handle, hgranted⟩ := hmay token hparent
    exact hgranted.nestingPermitted.not_nestingOff hoff

theorem childless_of_nestingOff {balances : T.Balances} {history : History T}
    (hrun : Reaches balances history s)
    (hoff : ∀ event ∈ history, NestingOff event.state collection) : Childless s collection :=
  hrun.invariant (fun s _ => NestingOff s collection)
    (OfStorage.nonfungible fun nonfungible => ∀ token child, token.1 = collection →
      ¬ IsChild nonfungible.tokenChildren token child)
    (fun _ _ _ hentry => hentry rfl)
    (fun s extrinsic _ hchildless hoff hstep =>
      ChainStep.childless (s := s.setBudget extrinsic.budget) hchildless hoff hstep) hoff

/-- In every run, a mint or a transfer that puts something of a collection at the
address of an NFT was permitted by the settings of the collection of that NFT.
If these permit nothing during the whole run, none of its tokens is given
anything or gets a child. -/
theorem nesting_permissions_enforced {balances : T.Balances} {history : History T}
    (hrun : Reaches balances history s) :
    (∀ event ∈ history, ∀ s' sender account asset parent,
      step event.state event.call = some s' → event.call.call.giver = some sender →
      held event.state account asset < held s' account asset →
      T.addressToToken account = some parent →
      ∃ handle, NestingPermitted event.state sender asset.child.1 parent handle) ∧
    ∀ collection, (∀ event ∈ history, NestingOff event.state collection) →
      (∀ event ∈ history, ∀ s' sender account asset parent,
        step event.state event.call = some s' → event.call.call.giver = some sender →
        held event.state account asset < held s' account asset →
        T.addressToToken account = some parent → parent.1 ≠ collection) ∧
      Childless s collection := by
  refine ⟨fun event _ s' sender account asset parent hstep hsender hgain hparent =>
    nestingPermitted_of_step hstep hsender hgain hparent, fun collection hoff =>
    ⟨fun event hevent s' sender account asset parent hstep hsender hgain hparent heq => ?_,
      childless_of_nestingOff hrun hoff⟩⟩
  obtain ⟨handle, hpermitted⟩ := nestingPermitted_of_step hstep hsender hgain hparent
  exact hpermitted.not_nestingOff (heq ▸ hoff event hevent)

namespace PermissionsExample

/-- A token of a collection that permits no nesting is minted into a token of one
that lets token owners nest. -/
def exampleRun : List (Extrinsic reference) :=
  [reference.createNesting,
    reference.create .nft,
    ⟨.nonfungible 1 (.createMultipleItems .alice [⟨.alice, []⟩]), 5⟩,
    ⟨.nonfungible 2 (.createMultipleItems .alice [⟨reference.tokenToAddress (1, 1), []⟩]), 5⟩]

theorem nesting_permissions_enforced_example :
    (∃ handle, NestingPermitted (reference.stateOf (exampleRun.take 3) rfl) ReferenceAccount.alice 2
      (1, 1) handle) ∧
      Childless (reference.stateOf exampleRun rfl) 2 := by
  obtain ⟨hpermitted, hchildless⟩ :=
    nesting_permissions_enforced (run_replay _ _ exampleRun rfl)
  have hoff : ∀ event ∈ reference.historyOf exampleRun rfl, NestingOff event.state 2 := by
    decide
  refine ⟨?_, (hchildless 2 hoff).2⟩
  exact hpermitted _ (List.mem_cons_self ..) (reference.stateOf exampleRun rfl)
    ReferenceAccount.alice (reference.tokenToAddress (1, 1)) (.nonfungible (2, 1)) (1, 1) rfl rfl
    (by decide) rfl

end PermissionsExample

end UniqueChain
