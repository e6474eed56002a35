import UniqueChain.Nesting.Walk

/-!
# What the nesting operations do

The walks consume budget and change nothing else.  Nesting and un-nesting an
item change one entry of the index of children, that of the NFT at whose address
the item is held; `nestUnder` and `unnestFrom` are these changes as functions on
the state.  `NestingGranted` says what a passed check of the nesting rules
guarantees.
-/

namespace UniqueChain

open Execution CollectionDispatch

variable {T : Config} {s s' : State T}

variable {kind : CollectionDispatch T} {handle : CollectionHandle T} {account : T.CrossAccountId}
  {sender : T.CrossAccountId} {user : T.CrossAccountId} {child : Token} {token : Token}
  {owner : Option T.CrossAccountId} {forNest : Option Token}

/-! ## Spending budget -/

/-- The states differ in the budget at most, and it has not grown. -/
def SpendsBudget (s s' : State T) : Prop := ∃ left ≤ s.budget, s' = s.setBudget left

namespace SpendsBudget

theorem refl (s : State T) : SpendsBudget s s := ⟨s.budget, Nat.le_refl _, rfl⟩

theorem trans {s'' : State T} (hfirst : SpendsBudget s s') (hsecond : SpendsBudget s' s'') :
    SpendsBudget s s'' := by
  obtain ⟨left, hleft, rfl⟩ := hfirst
  obtain ⟨rest, hrest, rfl⟩ := hsecond
  exact ⟨rest, Nat.le_trans hrest hleft, rfl⟩

end SpendsBudget

/-! ## Ownership through tokens -/

/-- The account a user acts as: itself, or the account at the top of its path if
it is a token. -/
def StandsFor (s : State T) (user account : T.CrossAccountId) : Prop :=
  match T.addressToToken user with
  | some token => ∃ ancestors, OwnerPath s token ancestors account
  | none => user = account

@[simp] theorem ownerPath_setBudget {budget : ℕ} {ancestors : List Token} :
    OwnerPath (s.setBudget budget) token ancestors user ↔ OwnerPath s token ancestors user :=
  ⟨fun hpath => hpath.congr fun _ _ => rfl, fun hpath => hpath.congr fun _ _ => rfl⟩

@[simp] theorem standsFor_setBudget {budget : ℕ} {user account : T.CrossAccountId} :
    StandsFor (s.setBudget budget) user account ↔ StandsFor s user account := by
  unfold StandsFor
  cases T.addressToToken user <;> simp

/-- The user owns the token, directly or through other tokens. -/
def IndirectlyOwned (s : State T) (user : T.CrossAccountId) (token : Token) : Prop :=
  ∃ account ancestors, StandsFor s user account ∧ OwnerPath s token ancestors account

theorem findTopmostOwner_ok (hrun : (findTopmostOwner token).run s = .ok owner s') :
    SpendsBudget s s' ∧ ∀ user, owner = some user → ∃ ancestors, OwnerPath s token ancestors
    user := by
  have hle := findTopmostOwnerLoop_le (s := s) s.budget (parentChain token)
  simp only [findTopmostOwner, read_bind_ok, update_bind_ok] at hrun
  cases hfound : (findTopmostOwnerLoop s s.budget (parentChain token)).1 with
  | none => simp [hfound] at hrun
  | some parent =>
    rw [hfound] at hrun
    cases parent with
    | user account =>
      simp only [pure_ok] at hrun
      obtain ⟨rfl, rfl⟩ := hrun
      refine ⟨⟨_, hle, rfl⟩, fun user huser => ?_⟩
      cases huser
      obtain ⟨ancestors, hpath, _⟩ :=
        ownerPath_of_findTopmostOwnerLoop (parentChain_finished token) (Prod.ext hfound rfl)
      exact ⟨ancestors, hpath⟩
    | multipleOwners =>
      simp only [pure_ok] at hrun
      obtain ⟨rfl, rfl⟩ := hrun
      exact ⟨⟨_, hle, rfl⟩, by simp⟩
    | tokenNotFound => simp at hrun
    | token parent => simp at hrun

theorem getCheckedTopmostOwner_ok
    (hrun : (getCheckedTopmostOwner token forNest).run s = .ok owner s') :
    SpendsBudget s s' ∧ ∀ user, owner = some user →
      ∃ ancestors, OwnerPath s token ancestors user ∧
        (∀ nested, forNest = some nested → nested ∉ token :: ancestors) ∧
        ancestors.length < s.budget := by
  have hle := getCheckedTopmostOwnerLoop_le (s := s) forNest s.budget (parentChain token)
  simp only [getCheckedTopmostOwner, read_bind_ok, ensure_bind_ok, update_bind_ok] at hrun
  obtain ⟨hself, hrun⟩ := hrun
  cases hresult : (getCheckedTopmostOwnerLoop s forNest s.budget (parentChain token)).1 with
  | error error => simp [hresult] at hrun
  | ok found =>
    rw [hresult] at hrun
    simp only [pure_ok] at hrun
    obtain ⟨rfl, rfl⟩ := hrun
    refine ⟨⟨_, hle, rfl⟩, fun user huser => ?_⟩
    subst huser
    obtain ⟨ancestors, hpath, havoid, hleft⟩ :=
      ownerPath_of_getCheckedTopmostOwnerLoop (parentChain_finished token)
        (Prod.ext hresult rfl)
    refine ⟨ancestors, hpath, fun nested hnested hmem => ?_, by omega⟩
    rcases List.mem_cons.mp hmem with rfl | hmem
    · exact hself hnested.symm
    · exact havoid nested hnested hmem

theorem targetParent_ok {target : Option T.CrossAccountId}
    (hrun : (targetParent user).run s = .ok target s') :
    SpendsBudget s s' ∧ ∀ account, target = some account → StandsFor s user account := by
  unfold targetParent at hrun
  unfold StandsFor
  cases htoken : T.addressToToken user with
  | none =>
    simp only [htoken, pure_ok] at hrun
    obtain ⟨rfl, rfl⟩ := hrun
    exact ⟨.refl s, fun account haccount => Option.some.inj haccount⟩
  | some token =>
    simp only [htoken] at hrun
    exact findTopmostOwner_ok hrun

/-- What a check of indirect ownership found out, when its answer is yes. -/
theorem checkIndirectlyOwned_ok {owned : Bool}
    (hrun : (checkIndirectlyOwned user token forNest).run s = .ok owned s') :
    SpendsBudget s s' ∧ (owned = true → ∃ account ancestors, StandsFor s user account ∧
      OwnerPath s token ancestors account ∧
      (∀ nested, forNest = some nested → nested ∉ token :: ancestors) ∧
      ancestors.length < s.budget) := by
  simp only [checkIndirectlyOwned, bind_ok] at hrun
  obtain ⟨target, middle, htarget, hrun⟩ := hrun
  obtain ⟨hspend, hstands⟩ := targetParent_ok htarget
  cases target with
  | none =>
    simp only [pure_ok] at hrun
    obtain ⟨rfl, rfl⟩ := hrun
    exact ⟨hspend, by simp⟩
  | some account =>
    simp only [bind_ok, pure_ok] at hrun
    obtain ⟨owner, _, howner, rfl, rfl⟩ := hrun
    obtain ⟨hspend', hpath⟩ := getCheckedTopmostOwner_ok howner
    refine ⟨hspend.trans hspend', fun howned => ?_⟩
    obtain ⟨ancestors, hpath, havoid, hlength⟩ := hpath account (of_decide_eq_true howned)
    obtain ⟨left, hleft, rfl⟩ := hspend
    exact ⟨account, ancestors, hstands account rfl, ownerPath_setBudget.mp hpath, havoid,
      Nat.lt_of_lt_of_le hlength hleft⟩

/-! ## The nesting rules -/

/-- The sender may nest `child` under `parent`, an NFT of the collection behind
`handle`. -/
structure NestingGranted (s : State T) (sender : T.CrossAccountId) (child parent : Token)
    (handle : CollectionHandle T) : Prop where
  found : dispatch s parent.1 = some (.nonfungible handle)
  permitted : ∃ account ancestors, OwnerPath s parent ancestors account ∧
    child ∉ parent :: ancestors ∧ ancestors.length < s.budget ∧
    (handle.collection.permissions.nesting.tokenOwner = true ∧ StandsFor s sender account ∨
      handle.collection.permissions.nesting.collectionAdmin = true ∧
        handle.isOwnerOrAdmin s sender = true)
  restricted : ∀ whitelist, handle.collection.permissions.nesting.restricted = some whitelist →
    child.1 ∈ whitelist

/-- A check made with part of the budget would pass with all of it. -/
theorem NestingGranted.of_spendsBudget {child parent : Token} (hspend : SpendsBudget s s')
    (hgranted : NestingGranted s' sender child parent handle) :
    NestingGranted s sender child parent handle := by
  obtain ⟨left, hleft, rfl⟩ := hspend
  obtain ⟨account, ancestors, hpath, havoid, hlength, hpermitted⟩ := hgranted.permitted
  exact ⟨hgranted.found, ⟨account, ancestors, ownerPath_setBudget.mp hpath, havoid,
    Nat.lt_of_lt_of_le hlength hleft, by simpa using hpermitted⟩, hgranted.restricted⟩

theorem Nonfungible.mayNestAsOwner_ok {under : TokenId} {owned : Bool}
    (hrun : (Nonfungible.mayNestAsOwner handle sender child under).run s = .ok owned s') :
    SpendsBudget s s' ∧ (owned = true →
      handle.collection.permissions.nesting.tokenOwner = true ∧
      ∃ account ancestors, StandsFor s sender account ∧
        OwnerPath s (handle.id, under) ancestors account ∧
        child ∉ (handle.id, under) :: ancestors ∧ ancestors.length < s.budget) := by
  rcases ite_ok.mp hrun with ⟨hflag, hrun⟩ | ⟨_, hrun⟩
  · obtain ⟨hspend, hpath⟩ := checkIndirectlyOwned_ok hrun
    refine ⟨hspend, fun htrue => ⟨hflag, ?_⟩⟩
    obtain ⟨account, ancestors, hstands, hpath, havoid, hlength⟩ := hpath htrue
    exact ⟨account, ancestors, hstands, hpath, havoid child rfl, hlength⟩
  · obtain ⟨rfl, rfl⟩ := pure_ok.mp hrun
    exact ⟨.refl s, by simp⟩

theorem Nonfungible.checkNestingPermission_ok {under : TokenId}
    (hrun : (Nonfungible.checkNestingPermission handle sender child under).run s = .ok () s') :
    SpendsBudget s s' ∧ ∃ account ancestors, OwnerPath s (handle.id, under) ancestors account ∧
      child ∉ (handle.id, under) :: ancestors ∧ ancestors.length < s.budget ∧
      (handle.collection.permissions.nesting.tokenOwner = true ∧ StandsFor s sender account ∨
        handle.collection.permissions.nesting.collectionAdmin = true ∧
          handle.isOwnerOrAdmin s sender = true) := by
  obtain ⟨owned, middle, howned, hrun⟩ := bind_ok.mp hrun
  obtain ⟨hspend, hpath⟩ := Nonfungible.mayNestAsOwner_ok howned
  rw [read_bind_ok] at hrun
  rcases ite_ok.mp hrun with ⟨htrue, hrun⟩ | ⟨_, hrun⟩
  · obtain ⟨hflag, account, ancestors, hstands, hpath, havoid, hlength⟩ := hpath htrue
    obtain ⟨_, rfl⟩ := pure_ok.mp hrun
    exact ⟨hspend, account, ancestors, hpath, havoid, hlength, .inl ⟨hflag, hstands⟩⟩
  rcases ite_ok.mp hrun with ⟨hadmin, hrun⟩ | ⟨_, hrun⟩
  · obtain ⟨owner, last, howner, hrun⟩ := bind_ok.mp hrun
    obtain ⟨hsome, rfl⟩ := ensure_ok.mp hrun
    obtain ⟨account, rfl⟩ := Option.isSome_iff_exists.mp hsome
    obtain ⟨hspend', hchecked⟩ := getCheckedTopmostOwner_ok howner
    obtain ⟨ancestors, hpath, havoid, hlength⟩ := hchecked account rfl
    obtain ⟨left, hleft, rfl⟩ := hspend
    rw [Bool.and_eq_true] at hadmin
    exact ⟨SpendsBudget.trans ⟨left, hleft, rfl⟩ hspend', account, ancestors,
      ownerPath_setBudget.mp hpath, havoid child rfl, Nat.lt_of_lt_of_le hlength hleft,
      .inr hadmin⟩
  · exact absurd hrun fail_ok

theorem Nonfungible.checkNesting_ok
    {child parent : Token} (hfound : dispatch s parent.1 = some (.nonfungible handle))
    (hrun : (Nonfungible.checkNesting handle sender child parent.2).run s = .ok () s') :
    SpendsBudget s s' ∧ NestingGranted s sender child parent handle := by
  simp only [Nonfungible.checkNesting, bind_unit_ok] at hrun
  obtain ⟨middle, hpermission, hrun⟩ := hrun
  obtain ⟨hspend, hpermitted⟩ := Nonfungible.checkNestingPermission_ok hpermission
  have hid : (handle.id, parent.2) = parent :=
    Prod.ext (dispatch_eq_nonfungible.mp hfound).2.1 rfl
  rw [hid] at hpermitted
  cases hrestricted : handle.collection.permissions.nesting.restricted with
  | none =>
    rw [hrestricted] at hrun
    obtain ⟨_, rfl⟩ := pure_ok.mp hrun
    exact ⟨hspend, hfound, hpermitted, by simp [hrestricted]⟩
  | some whitelist =>
    rw [hrestricted] at hrun
    obtain ⟨hmem, rfl⟩ := ensure_ok.mp hrun
    refine ⟨hspend, hfound, hpermitted, fun other hother => ?_⟩
    rw [hrestricted] at hother
    cases hother
    exact hmem

theorem CollectionDispatch.checkNesting_ok
    {child parent : Token} (hfound : dispatch s parent.1 = some kind)
    (hrun : (kind.checkNesting sender child parent.2).run s = .ok () s') :
    SpendsBudget s s' ∧ ∃ handle, NestingGranted s sender child parent handle := by
  cases kind with
  | nonfungible handle =>
    obtain ⟨hspend, hgranted⟩ := Nonfungible.checkNesting_ok hfound hrun
    exact ⟨hspend, handle, hgranted⟩
  | _ => exact absurd hrun fail_ok

/-- The nesting rules let the sender give `child` to the account `under`. -/
def MayReceive (s : State T) (sender under : T.CrossAccountId) (child : Token) : Prop :=
  ∀ parent, T.addressToToken under = some parent →
    ∃ handle, NestingGranted s sender child parent handle

theorem MayReceive.of_spendsBudget {sender under : T.CrossAccountId}
    (hspend : SpendsBudget s s') (hmay : MayReceive s' sender under child) :
    MayReceive s sender under child := by
  intro parent hparent
  obtain ⟨handle, hgranted⟩ := hmay parent hparent
  exact ⟨handle, hgranted.of_spendsBudget hspend⟩

/-! ## The entry in the index of children -/

/-- The NFT in whose index an item held by the account is entered. -/
def nestingParent (s : State T) (account : T.CrossAccountId) : Option Token :=
  (T.addressToToken account).filter fun token =>
    match dispatch s token.1 with
    | some (.nonfungible _) => true
    | _ => false

theorem nestingParent_eq_some {parent : Token} :
    nestingParent s account = some parent ↔
      T.addressToToken account = some parent ∧
        ∃ handle, dispatch s parent.1 = some (.nonfungible handle) := by
  unfold nestingParent
  rw [Option.filter_eq_some_iff]
  refine and_congr_right fun _ => ?_
  split
  · rename_i handle hdispatch
    simp [hdispatch]
  · rename_i hother
    simp only [Bool.false_eq_true, false_iff, not_exists]
    exact fun handle hdispatch => hother handle hdispatch

theorem nestingParent_congr (hcommon : s'.common = s.common) :
    nestingParent s' account = nestingParent s account := by
  unfold nestingParent dispatch
  rw [hcommon]

/-- The index of children: the parent first, then the child. -/
abbrev Children := FiniteMap (Token × Token) Bool

/-- Enter `child` under `parent`.  The native currency is never entered. -/
def addChild (parent : Option Token) (child : Token) (children : Children) : Children :=
  match parent with
  | some parent =>
    if child.1 = nativeFungibleCollectionId then children
    else children.insert (parent, child) true
  | none => children

/-- Take `child` out of the entries of `parent`. -/
def removeChild (parent : Option Token) (child : Token) (children : Children) : Children :=
  match parent with
  | some parent =>
    if child.1 = nativeFungibleCollectionId then children
    else children.erase (parent, child)
  | none => children

@[simps] def State.setChildren (children : Children) (s : State T) : State T :=
  { s with nonfungible := { s.nonfungible with tokenChildren := children } }

/-- Enter `child` in the index of the NFT at whose address it is held. -/
@[simps!] def nestUnder (account : T.CrossAccountId) (child : Token) (s : State T) : State T :=
  s.setChildren (addChild (nestingParent s account) child s.nonfungible.tokenChildren)

/-- Take `child` out of the index of the NFT at whose address it was held. -/
@[simps!] def unnestFrom (account : T.CrossAccountId) (child : Token) (s : State T) : State T :=
  s.setChildren (removeChild (nestingParent s account) child s.nonfungible.tokenChildren)

theorem nestingParent_eq_none (htoken : T.addressToToken account = some token)
    (hother : ∀ handle, dispatch s token.1 ≠ some (.nonfungible handle)) :
    nestingParent s account = none := by
  rw [Option.eq_none_iff_forall_ne_some]
  intro parent hparent
  obtain ⟨htoken', handle, hfound⟩ := nestingParent_eq_some.mp hparent
  rw [htoken] at htoken'
  cases htoken'
  exact hother handle hfound

theorem nest_eq_nestUnder {child token : Token} (htoken : T.addressToToken account = some token)
    (hfound : dispatch s token.1 = some kind) :
    kind.nest token.2 child s = nestUnder account child s := by
  unfold nestUnder CollectionDispatch.nest
  cases kind with
  | nonfungible handle =>
    have hid : (handle.id, token.2) = token :=
      Prod.ext (dispatch_eq_nonfungible.mp hfound).2.1 rfl
    rw [nestingParent_eq_some.mpr ⟨htoken, handle, hfound⟩]
    simp only [hid, Nonfungible.nest, addChild]
    split <;> rfl
  | _ => rw [nestingParent_eq_none htoken (by simp [hfound])]; rfl

theorem unnest_eq_unnestFrom {child token : Token} (htoken : T.addressToToken account = some token)
    (hfound : dispatch s token.1 = some kind) :
    kind.unnest token.2 child s = unnestFrom account child s := by
  unfold unnestFrom CollectionDispatch.unnest
  cases kind with
  | nonfungible handle =>
    have hid : (handle.id, token.2) = token :=
      Prod.ext (dispatch_eq_nonfungible.mp hfound).2.1 rfl
    rw [nestingParent_eq_some.mpr ⟨htoken, handle, hfound⟩]
    simp only [hid, Nonfungible.unnest, removeChild]
    split <;> rfl
  | _ => rw [nestingParent_eq_none htoken (by simp [hfound])]; rfl

theorem nestingParent_of_not_token
    (htoken : T.addressToToken account = none) : nestingParent s account = none := by
  simp [nestingParent, htoken]

/-! ## The operations -/

variable {sender account : T.CrossAccountId} {child : Token} {value : Unit}

/-- An action on a token address acts on the collection of the token; on another
account nothing happens. -/
theorem tryExecIfToken_ok {action : CollectionDispatch T → TokenId → Exec T Unit} :
    (tryExecIfToken account action).run s = .ok value s' ↔
      isCollection (T.asEth account) = false ∧
        ((T.addressToToken account = none ∧ s = s') ∨
          ∃ token kind, T.addressToToken account = some token ∧
            dispatch s token.1 = some kind ∧ (action kind token.2).run s = .ok () s') := by
  simp only [tryExecIfToken, ensure_bind_ok]
  refine and_congr_right fun _ => ?_
  cases htoken : T.addressToToken account with
  | none => simp
  | some token => simp

theorem checkNesting_ok (hrun : (checkNesting sender account child).run s = .ok () s') :
    SpendsBudget s s' ∧ MayReceive s sender account child := by
  rcases (tryExecIfToken_ok.mp hrun).2 with ⟨hnone, rfl⟩ | ⟨token, kind, htoken, hfound, hcheck⟩
  · refine ⟨.refl s, fun parent hparent => ?_⟩
    rw [hnone] at hparent
    cases hparent
  · obtain ⟨hspend, hgranted⟩ := CollectionDispatch.checkNesting_ok hfound hcheck
    refine ⟨hspend, fun parent hparent => ?_⟩
    rw [htoken] at hparent
    cases hparent
    exact hgranted

theorem forEach_checkNesting_ok {accounts : List T.CrossAccountId}
    (hrun : (forEach (fun account => checkNesting sender account child) accounts).run s =
      .ok () s') : SpendsBudget s s' ∧ ∀ account ∈ accounts, MayReceive s sender account child := by
  induction accounts generalizing s with
  | nil =>
    obtain rfl := forEach_nil_ok.mp hrun
    exact ⟨.refl s, by simp⟩
  | cons head rest ih =>
    obtain ⟨middle, hcheck, hrest⟩ := forEach_cons_ok.mp hrun
    obtain ⟨hspend, hmay⟩ := checkNesting_ok hcheck
    obtain ⟨hspend', hothers⟩ := ih hrest
    refine ⟨hspend.trans hspend', fun account haccount => ?_⟩
    rcases List.mem_cons.mp haccount with rfl | haccount
    · exact hmay
    · exact (hothers account haccount).of_spendsBudget hspend

theorem nestIfSentToToken_ok (hrun : (nestIfSentToToken sender account child).run s = .ok () s') :
    MayReceive s sender account child ∧
      ∃ left ≤ s.budget, s' = nestUnder account child (s.setBudget left) := by
  rcases (tryExecIfToken_ok.mp hrun).2 with ⟨hnone, rfl⟩ | ⟨token, kind, htoken, hfound, hnest⟩
  · refine ⟨fun parent hparent => ?_, s.budget, Nat.le_refl _, ?_⟩
    · rw [hnone] at hparent
      cases hparent
    · unfold nestUnder
      rw [nestingParent_of_not_token hnone]
      rfl
  · obtain ⟨middle, hcheck, hnest⟩ := bind_unit_ok.mp hnest
    obtain ⟨⟨left, hleft, rfl⟩, hgranted⟩ := CollectionDispatch.checkNesting_ok hfound hcheck
    refine ⟨fun parent hparent => ?_, left, hleft, ?_⟩
    · rw [htoken] at hparent
      cases hparent
      exact hgranted
    · rw [← update_ok.mp hnest]
      exact nest_eq_nestUnder htoken hfound

@[simp] theorem Exec.unwrap_ok {α : Type} {body : Exec T α} {value : α} :
    (Exec.unwrap body).run s = .ok value s' ↔ body.run s = .ok value s' := by
  unfold Exec.unwrap
  simp only
  cases body.run s <;> simp

/-- The account is no token address, or the address of a token in an existing collection. -/
def Nestable (s : State T) (account : T.CrossAccountId) : Prop :=
  isCollection (T.asEth account) = false ∧
    ∀ parent, T.addressToToken account = some parent → (dispatch s parent.1).isSome

theorem nestable_congr (hcommon : s'.common = s.common) :
    Nestable s' account ↔ Nestable s account := by
  unfold Nestable dispatch
  rw [hcommon]

theorem nestIfSentToTokenUnchecked_ok_iff :
    (nestIfSentToTokenUnchecked account child).run s = .ok () s' ↔
      Nestable s account ∧ s' = nestUnder account child s := by
  unfold nestIfSentToTokenUnchecked Nestable
  rw [Exec.unwrap_ok, tryExecIfToken_ok, and_assoc]
  refine and_congr_right fun _ => ?_
  cases htoken : T.addressToToken account with
  | none =>
    have hsame : nestUnder account child s = s := by
      unfold nestUnder
      rw [nestingParent_of_not_token htoken]
      rfl
    rw [hsame]
    simp only [true_and, reduceCtorEq, false_and, exists_false, or_false, false_implies,
      implies_true]
    exact eq_comm
  | some parent =>
    simp only [reduceCtorEq, false_and, false_or, Option.some.injEq, update_ok, forall_eq']
    constructor
    · rintro ⟨token, kind, rfl, hfound, hwritten⟩
      exact ⟨by simp [hfound], by rw [← hwritten, nest_eq_nestUnder htoken hfound]⟩
    · rintro ⟨hsome, rfl⟩
      obtain ⟨kind, hfound⟩ := Option.isSome_iff_exists.mp hsome
      exact ⟨parent, kind, rfl, hfound, nest_eq_nestUnder htoken hfound⟩

theorem nestIfSentToTokenUnchecked_ok
    (hrun : (nestIfSentToTokenUnchecked account child).run s = .ok () s') :
    s' = nestUnder account child s :=
  (nestIfSentToTokenUnchecked_ok_iff.mp hrun).2

theorem nestIfSentToTokenUnchecked_fails (hnestable : ¬ Nestable s account) :
    Fails (nestIfSentToTokenUnchecked account child) s := by
  rcases ok_or_fails (nestIfSentToTokenUnchecked account child) s with ⟨_, s', hrun⟩ | hfails
  · exact absurd (nestIfSentToTokenUnchecked_ok_iff.mp hrun).1 hnestable
  · exact hfails

/-- An action that cannot fail itself is stopped before anything happened, and
then the account is not the address of an NFT. -/
theorem nestingParent_eq_none_of_error {write : CollectionDispatch T → TokenId → State T → State T}
    {error : Failure} (hrun : (tryExecIfToken account fun collection parent =>
      (update (write collection parent) : Exec T Unit)).run s = .error error s') :
    nestingParent s account = none ∧ s' = s := by
  unfold tryExecIfToken at hrun
  rw [ensure_bind_error] at hrun
  rcases hrun with ⟨hcollection, _, rfl⟩ | ⟨_, hrun⟩
  · refine ⟨?_, rfl⟩
    cases htoken : T.addressToToken account with
    | none => exact nestingParent_of_not_token htoken
    | some token =>
      exact absurd (not_isCollection_of_evmAddressToToken htoken) (by simpa using hcollection)
  · cases htoken : T.addressToToken account with
    | none => simp [htoken] at hrun
    | some token =>
      rw [htoken] at hrun
      simp only [read_bind_error, okOr_bind_error, update_error] at hrun
      rcases hrun with ⟨hnone, _, rfl⟩ | ⟨_, _, hfalse⟩
      · exact ⟨nestingParent_eq_none htoken (by simp [hnone]), rfl⟩
      · exact hfalse.elim

/-- Un-nesting never fails: what stops it is ignored, and then there is no entry
to remove. -/
@[simp] theorem unnestIfNested_ok :
    (unnestIfNested account child).run s = .ok value s' ↔ unnestFrom account child s = s' := by
  have hrun : (unnestIfNested account child).run s = .ok () (unnestFrom account child s) := by
    unfold unnestIfNested ignoreError
    simp only
    cases hbody : (tryExecIfToken account fun collection parent =>
        (update (collection.unnest parent child) : Exec T Unit)).run s with
    | ok result reached =>
      rcases (tryExecIfToken_ok.mp hbody).2 with
        ⟨hnone, rfl⟩ | ⟨token, kind, htoken, hfound, hunnest⟩
      · simp only [unnestFrom, nestingParent_of_not_token hnone]
        rfl
      · rw [← update_ok.mp hunnest, unnest_eq_unnestFrom htoken hfound]
    | error error reached =>
      have hparent : nestingParent s account = none ∧ reached = s :=
        nestingParent_eq_none_of_error hbody
      simp only [unnestFrom, hparent.1, hparent.2]
      rfl
  rw [hrun]
  simp

@[simp high] theorem unnestIfNested_bind_ok {α : Type} {next : Unit → Exec T α} {result : α} :
    (unnestIfNested account child >>= next).run s = .ok result s' ↔
      (next ()).run (unnestFrom account child s) = .ok result s' :=
  bind_ok_of_write unnestIfNested_ok

theorem unnestIfNested_bind_error {α : Type} {next : Unit → Exec T α} {error : Failure} :
    (unnestIfNested account child >>= next).run s = .error error s' ↔
      (next ()).run (unnestFrom account child s) = .error error s' := by
  rw [run_bind_of_ok (unnestIfNested_ok.mpr rfl)]

end UniqueChain
