import UniqueChain.Runtime.Burnt
import UniqueChain.Runtime.Frame
import UniqueChain.Sponsorship.Contracts
import UniqueChain.Sponsorship.Withdrawals

/-!
# The limits of the sponsors of collections

Each withdrawal from the sponsor of a collection that is subject to a rate limit has a
key, and the block of the last one is kept in a basket under that key.  A basket protects
the decisions under its key (`Guarded`) as long as an entry is forgotten only when it has
expired, or when nothing can be decided under the key any more (`RateKey.Closed`): the
collection is destroyed, or the item is burnt and its owner was asked for.

Approvals of an NFT are the exception.  `burn_item` forgets the block of the last one, but
an approval is sponsored without a look at the token, so the next one is sponsored at
once.  As with contracts, the sum of a block and a limit may also wrap.
-/

namespace UniqueChain

open Execution RateLimit CollectionDispatch

variable {T : Config} {S : SponsorConfig T} {x x' y : SponsoredState S} {s s' : State T}

variable {call : Call T} {handle : CollectionHandle T} {collection : CollectionId}
  {sender : T.CrossAccountId} {item : TokenId} {decisions : List (CollectionDecision T)}
  {decision : CollectionDecision T} {unique : UniqueStorage T}

/-! ## Decisions -/

/-- The blocks of the decisions under a key, the latest first. -/
def decisionsUnder (key : RateKey T) (decisions : List (CollectionDecision T)) : List ℕ :=
  (decisions.filter fun decision =>
    decision.withdrawal.rateKey decision.handle = some key).map (·.blockNumber)

theorem decisionsUnder_cons_self {key : RateKey T}
    (hkey : decision.withdrawal.rateKey decision.handle = some key) :
    decisionsUnder key (decision :: decisions) =
      decision.blockNumber :: decisionsUnder key decisions := by
  simp only [decisionsUnder, List.filter_cons, decide_eq_true_eq, if_pos hkey, List.map_cons]

theorem decisionsUnder_cons_of_ne {key : RateKey T}
    (hkey : decision.withdrawal.rateKey decision.handle ≠ some key) :
    decisionsUnder key (decision :: decisions) = decisionsUnder key decisions := by
  simp only [decisionsUnder, List.filter_cons, decide_eq_true_eq, if_neg hkey]

/-- A withdrawal under a key that the entry of the basket does not forbid. -/
structure GrantedUnder (handle : CollectionHandle T) (blockNumber : ℕ) (s : State T)
    (key : RateKey T) (unique : UniqueStorage T) : Prop where
  collection : key.collection = handle.id
  passes : ∃ limit, key.timeout handle.collection.limits = some limit ∧
    RateLimit.passes (2 ^ 32) limit blockNumber (key.entry s.unique) = true
  recorded : key.record blockNumber s.unique = unique
  ofMode : ∀ token, key.ofNft token → handle.collection.mode = .nft
  exists_of_nftTransfer : ∀ token, key = .nftTransfer token →
    s.nonfungible.tokenData.get token ≠ none

/-- A granted withdrawal has no key and changes nothing, or is granted under its key. -/
theorem Sponsoring.run_eq_some {blockNumber : ℕ} {withdrawal : Withdrawal T}
    (hrun : Sponsoring.run handle blockNumber s withdrawal = some unique) :
    withdrawal.rateKey handle = none ∧ s.unique = unique ∨
      ∃ key, withdrawal.rateKey handle = some key ∧
        GrantedUnder handle blockNumber s key unique := by
  obtain ⟨hadmissible, hlapsed, rfl⟩ := Sponsoring.run_eq_some_iff.mp hrun
  cases hkey : withdrawal.rateKey handle with
  | none => exact .inl ⟨rfl, by rw [Withdrawal.recorded, hkey]⟩
  | some key =>
    refine .inr ⟨key, rfl, ?_⟩
    exact
      { collection := Withdrawal.collection_of_rateKey hkey
        passes := hlapsed key hkey
        recorded := by rw [Withdrawal.recorded, hkey]
        ofMode := fun token hofNft => Withdrawal.mode_of_rateKey hkey hofNft
        exists_of_nftTransfer := by
          rintro token rfl
          exact Withdrawal.exists_of_rateKey hkey hadmissible }

/-! ## What a step does to the chain -/

/-- A step of the chain, up to the baskets. -/
inductive ChainMoves (s : State T) : State T → Prop
  | baskets {s' : State T} {unique : UniqueStorage T} (hstorage : s'.storage = s.storage) :
      ChainMoves s (s'.mapUnique fun _ => unique)
  | step {budget : ℕ} {call : Call T} {s₁ s' : State T} {unique : UniqueStorage T}
      (hstep : ChainStep (s.setBudget budget) call s₁) (hstorage : s'.storage = s₁.storage) :
      ChainMoves s (s'.mapUnique fun _ => unique)

/-- What every step of the chain keeps, and does not depend on the baskets. -/
theorem ChainMoves.keeps {P : State T → Prop} (hofStorage : OfStorage P)
    (hbaskets : ∀ s unique, P s → P (s.mapUnique fun _ => unique))
    (hkeeps : ∀ s call s', P s → ChainStep s call s' → P s') (hmoves : ChainMoves s s') (hs : P s) :
    P s' := by
  cases hmoves with
  | baskets hstorage => exact hbaskets _ _ (hofStorage hstorage hs)
  | step hstep hstorage =>
    refine hbaskets _ _ (hofStorage hstorage (hkeeps _ _ _ ?_ hstep))
    exact hofStorage State.storage_setBudget hs

theorem ChainMoves.of_run {budget : ℕ}
    (hrun : call.execute.run (s.setBudget budget) = .ok () s') (unique : UniqueStorage T) :
    ChainMoves s (s'.mapUnique fun _ => unique) := by
  obtain ⟨s₁, hstep, hstorage⟩ := Call.execute_ok hrun
  exact .step hstep hstorage

theorem WithdrawnBy.chainMoves (hwithdrawn : WithdrawnBy handle x x') :
    ChainMoves x.chain x'.chain := by
  have hbaskets : x'.chain = x.chain.mapUnique fun _ => x'.chain.unique := by
    induction hwithdrawn with
    | none => rfl
    | granted hbefore hrun ih =>
      rw [UniqueChain.granted, ih]
      rfl
  rw [hbaskets]
  exact .baskets rfl

theorem Charged.chainMoves (hcharged : Charged x x') : ChainMoves x.chain x'.chain := by
  cases hcharged with
  | none => exact .baskets rfl
  | collection hstored hwithdrawn => exact hwithdrawn.chainMoves

theorem BurnsItem.chainMoves {budget value : ℕ}
    (hburns : BurnsItem (s.setBudget budget) sender collection item value s')
    (unique : UniqueStorage T) : ChainMoves s (s'.mapUnique fun _ => unique) := by
  cases hburns with
  | unburnt => exact .baskets rfl
  | nonfungible hrun => exact .of_run hrun unique
  | fungible hrun => exact .of_run hrun unique
  | refungible hrun => exact .of_run hrun unique

theorem SponsoredStep.chainMoves {call : SponsoredCall S} (hstep : SponsoredStep x call x') :
    ChainMoves x.chain x'.chain := by
  cases hstep with
  | extrinsic hcall hstep => exact .of_run (step_eq_some.mp hstep) _
  | burnItem hburns =>
    dsimp only
    split
    · exact hburns.chainMoves _
    · exact hburns.chainMoves _
  | charge hcharged => exact hcharged.chainMoves
  | chargeEvm hcharged =>
    obtain ⟨y, hcharged, hdecided⟩ := hcharged
    cases hdecided with
    | none => exact hcharged.chainMoves
    | named hmay => exact hcharged.chainMoves
  | sponsorCollection hadmin hrun => exact .of_run hrun _
  | stopSponsoringCollection hadmin hrun => exact .of_run hrun _
  | _ => exact .baskets rfl

/-! ## Keys that nothing is decided under any more -/

/-- The collection is destroyed or never was one of NFTs, or the NFT is burnt. -/
inductive RateKey.Closed (s : State T) : RateKey T → Prop
  | destroyed {key : RateKey T} (hregistered : key.collection ≤ s.common.createdCollectionCount)
      (hgone : modeOf s key.collection = none) : Closed s key
  | otherMode {key : RateKey T} {token : Token} (hkey : key.ofNft token)
      (hregistered : key.collection ≤ s.common.createdCollectionCount)
      (hmode : modeOf s key.collection ≠ some .nft) : Closed s key
  | burnt {token : Token} (hgone : Gone Nonfungible.tokenView token s) :
      Closed s (.nftTransfer token)

namespace RateKey.Closed

variable {key : RateKey T}

theorem ofStorage : OfStorage fun s : State T => key.Closed s := by
  intro s s' hstorage hclosed
  have hcommon := (State.storage_eq_iff.mp hstorage).1
  cases hclosed with
  | destroyed hregistered hgone =>
    exact .destroyed (hcommon ▸ hregistered) (modeOf_congr hcommon ▸ hgone)
  | otherMode hkey hregistered hmode =>
    exact .otherMode hkey (hcommon ▸ hregistered) (modeOf_congr hcommon ▸ hmode)
  | burnt hgone => exact .burnt (Gone.ofStorage hstorage hgone)

theorem mapUnique (unique : UniqueStorage T) (hclosed : key.Closed s) :
    key.Closed (s.mapUnique fun _ => unique) := by
  cases hclosed with
  | destroyed hregistered hgone => exact .destroyed hregistered hgone
  | otherMode hkey hregistered hmode => exact .otherMode hkey hregistered hmode
  | burnt hgone => exact .burnt ⟨hgone.registered, hgone.numbered, hgone.gone⟩

/-- The mode under an identifier that was given out changes only to none. -/
theorem modeOf_of_registered
    (hstep : ChainStep s call s') (hregistered : collection ≤ s.common.createdCollectionCount) :
    modeOf s' collection = modeOf s collection ∨ modeOf s' collection = none := by
  rcases hstep.modeOf_cases collection with hsame | rfl | ⟨handle, rfl, _, hdestroyed⟩
  · exact .inl hsame
  · exact absurd hregistered (Nat.not_succ_le_self _)
  · exact .inr hdestroyed.modeOf_eq_none

theorem step (hclosed : key.Closed s) (hstep : ChainStep s call s') : key.Closed s' := by
  have hcount := hstep.pallets.common.createdCollectionCount_le
  cases hclosed with
  | destroyed hregistered hgone =>
    refine .destroyed (hregistered.trans hcount) ?_
    rcases modeOf_of_registered hstep hregistered with hsame | hnone
    · exact hsame.trans hgone
    · exact hnone
  | otherMode hkey hregistered hmode =>
    refine .otherMode hkey (hregistered.trans hcount) ?_
    rcases modeOf_of_registered hstep hregistered with hsame | hnone
    · exact hsame ▸ hmode
    · exact hnone ▸ nofun
  | burnt hgone => exact .burnt (hgone.step hstep (Nonfungible.tokensStep_of_chainStep hstep))

/-- A closed key stays closed. -/
theorem of_chainMoves (hclosed : key.Closed s) (hmoves : ChainMoves s s') : key.Closed s' :=
  hmoves.keeps ofStorage (fun _ unique hclosed => hclosed.mapUnique unique)
    (fun _ _ _ hclosed hstep => hclosed.step hstep) hclosed

end RateKey.Closed

/-- Nothing is granted under a closed key. -/
theorem GrantedUnder.not_closed {blockNumber : ℕ} {key : RateKey T}
    (hgranted : GrantedUnder handle blockNumber s key unique)
    (hstored : s.common.collectionById.get handle.id = some handle.collection) :
    ¬ key.Closed s := by
  have hmode : modeOf s key.collection = some handle.collection.mode := by
    rw [hgranted.collection]
    exact modeOf_of_get hstored
  intro hclosed
  cases hclosed with
  | destroyed hregistered hgone => exact absurd (hmode.symm.trans hgone) nofun
  | otherMode hkey hregistered hother =>
    exact hother (hmode.trans (congrArg some (hgranted.ofMode _ hkey)))
  | burnt hgone => exact hgone.gone (hgranted.exists_of_nftTransfer _ rfl)

/-! ## What a step does to the baskets -/

/-- Invariants of the chain that hold in every run. -/
structure ChainSound (s : State T) : Prop where
  registered : Registered s.common
  ledger : Nonfungible.Ledger s.nonfungible

theorem ChainSound.of_chainMoves (hsound : ChainSound s) (hmoves : ChainMoves s s') :
    ChainSound s' := by
  refine hmoves.keeps ?_ (fun s unique hsound => ⟨hsound.registered, hsound.ledger⟩) ?_ hsound
  · intro s s' hstorage hsound
    obtain ⟨hcommon, hnonfungible, _⟩ := State.storage_eq_iff.mp hstorage
    exact ⟨hcommon ▸ hsound.registered, hnonfungible ▸ hsound.ledger⟩
  · intro s call s' hsound hstep
    exact ⟨hstep.pallets.common.registered hsound.registered, hstep.pallets.nonfungible.ledger
      hsound.ledger⟩

theorem chainSound_of_reaches {balances : T.Balances}
    {history : List (CallRecord (SponsoredState S) (SponsoredCall S))}
    (hrun : SponsoredReaches balances history x) : ChainSound x.chain :=
  Run.invariant (P := fun x => ChainSound x.chain) (fun _ _ => True)
    ⟨fun _ hget => absurd rfl hget, .empty⟩
    (fun _ _ _ hsound _ hstep => hsound.of_chainMoves (sponsoredStep_ok hstep).chainMoves) hrun
    fun _ _ => trivial

/-- Apart from withdrawals, only a destruction changes the baskets. -/
theorem ChainStep.unique_cases (hstep : ChainStep s call s') (hcall : call.isWithdrawal = false) :
    s'.unique = s.unique ∨ ∃ sender handle, call = .destroyCollection sender handle.id ∧
      s.common.collectionById.get handle.id = some handle.collection ∧ Destroyed handle s s' := by
  cases hstep with
  | fungible hfound hoperation => exact .inl hoperation.frame.1.unique
  | refungible hfound hoperation => exact .inl hoperation.frame.1.unique
  | destroyCollection hnative hfound hdestroyed => exact .inr ⟨_, _, rfl, hfound, hdestroyed⟩
  | sponsor => cases hcall
  | _ => exact .inl rfl

theorem unique_eq_of_run (hrun : call.execute.run s = .ok () s') (hcall : call.isWithdrawal = false)
    (hdestroy : ∀ sender id, call ≠ .destroyCollection sender id) : s'.unique = s.unique := by
  obtain ⟨s₁, hstep, hstorage⟩ := Call.execute_ok hrun
  have hsame := (State.storage_eq_iff.mp hstorage).2.2.2.2.2
  rcases hstep.unique_cases hcall with hunique | ⟨sender, handle, hdestroyed, _⟩
  · exact hsame.trans hunique
  · exact absurd hdestroyed (hdestroy _ _)

theorem BurnsItem.unique_eq {value : ℕ} (hburns : BurnsItem s sender collection item value s') :
    s'.unique = s.unique := by
  cases hburns with
  | unburnt => rfl
  | nonfungible hrun => exact unique_eq_of_run hrun rfl (by rintro _ _ ⟨⟩)
  | fungible hrun => exact unique_eq_of_run hrun rfl (by rintro _ _ ⟨⟩)
  | refungible hrun => exact unique_eq_of_run hrun rfl (by rintro _ _ ⟨⟩)

/-- A call on a collection that is not one of NFTs, and leaves the settings alone. -/
theorem otherMode_of_stored (hsound : ChainSound s)
    (hstored : s.common.collectionById.get handle.id = some handle.collection)
    (hmode : handle.collection.mode ≠ .nft) (hcommon : s'.common = s.common) :
    handle.id ≤ s'.common.createdCollectionCount ∧ modeOf s' handle.id ≠ some .nft := by
  rw [modeOf_congr hcommon, hcommon, modeOf_of_get hstored]
  refine ⟨hsound.registered handle.id (hstored ▸ Option.some_ne_none _), ?_⟩
  exact fun hnft => hmode (Option.some.inj hnft)

/-- What `burn_item` does with the value one: an NFT is burnt, or the collection is not
one of NFTs. -/
theorem BurnsItem.burnt_or_otherMode (hsound : ChainSound s) {budget : ℕ}
    (hburns : BurnsItem (s.setBudget budget) sender collection item 1 s') :
    modeOf s collection = some .nft ∧ Gone Nonfungible.tokenView (collection, item) s' ∨
      collection ≤ s'.common.createdCollectionCount ∧ modeOf s' collection ≠ some .nft := by
  cases hburns with
  | nonfungible hrun =>
    obtain ⟨handle, hfound, _⟩ := Call.nonfungible_ok.mp hrun
    obtain ⟨_, _, hstored, hmode⟩ := dispatch_eq_nonfungible.mp hfound
    obtain ⟨s₁, hstep, hstorage⟩ := Call.execute_ok hrun
    have hburns : Nonfungible.Burns (collection, item)
        (Call.nonfungible collection (.burn sender item)) := .burn
    obtain ⟨hcollection, hexists, hgone⟩ := Nonfungible.burnt_of_chainStep hburns hstep
    have hnft : modeOf s collection = some .nft := by
      rw [← hmode]
      exact modeOf_of_get hstored
    refine .inl ⟨hnft, Gone.ofStorage hstorage ?_⟩
    exact .of_step hstep (Nonfungible.tokensStep_of_chainStep hstep)
      (hsound.registered _ hcollection) (hsound.ledger.numbered _ _ hexists).2 (not_not.mpr hgone)
  | fungible hrun =>
    obtain ⟨s₁, hstep, hstorage⟩ := Call.execute_ok hrun
    have hcommon := (State.storage_eq_iff.mp hstorage).1
    cases hstep with
    | fungible hfound hoperation =>
      obtain ⟨_, _, hstored, decimals, hmode⟩ := dispatch_eq_fungible.mp hfound
      exact .inr (otherMode_of_stored hsound hstored (hmode ▸ nofun)
        (hcommon.trans hoperation.frame.1.common))
  | refungible hrun =>
    obtain ⟨s₁, hstep, hstorage⟩ := Call.execute_ok hrun
    have hcommon := (State.storage_eq_iff.mp hstorage).1
    cases hstep with
    | refungible hfound hoperation =>
      obtain ⟨_, _, hstored, hmode⟩ := dispatch_eq_refungible.mp hfound
      exact .inr (otherMode_of_stored hsound hstored (hmode ▸ nofun)
        (hcommon.trans hoperation.frame.1.common))

/-- What a step can do to the baskets, the decisions and the clock. -/
inductive BasketsStep (x : SponsoredState S) (call : SponsoredCall S) : SponsoredState S → Prop
  | kept {x' : SponsoredState S} (hunique : x'.chain.unique = x.chain.unique)
      (hdecisions : x'.decisions = x.decisions) (hclock : x.blockNumber ≤ x'.blockNumber)
      (hwidth : x.blockNumber < 2 ^ 32 → x'.blockNumber < 2 ^ 32) : BasketsStep x call x'
  | withdrawn {handle : CollectionHandle T} {y x' : SponsoredState S}
      (hstored : x.chain.common.collectionById.get handle.id = some handle.collection)
      (hwithdrawn : WithdrawnBy handle x y) (hchain : x'.chain = y.chain)
      (hdecisions : x'.decisions = y.decisions) (hclock : x'.blockNumber = y.blockNumber) :
      BasketsStep x call x'
  | cleared {id : CollectionId} {x' : SponsoredState S}
      (hregistered : id ≤ x'.chain.common.createdCollectionCount)
      (hgone : modeOf x'.chain id = none)
      (hunique : x'.chain.unique = clearBaskets id x.chain.unique)
      (hdecisions : x'.decisions = x.decisions) (hclock : x'.blockNumber = x.blockNumber) :
      BasketsStep x call x'
  | forgotten {sender : T.AccountId} {collection : CollectionId} {item : TokenId} {budget : ℕ}
      {x' : SponsoredState S} (hcall : call = .burnItem sender collection item 1 budget)
      (hburnt : modeOf x.chain collection = some .nft ∧
          Gone Nonfungible.tokenView (collection, item) x'.chain ∨
        collection ≤ x'.chain.common.createdCollectionCount ∧
          modeOf x'.chain collection ≠ some .nft)
      (hunique : x'.chain.unique = forgetItem (collection, item) x.chain.unique)
      (hdecisions : x'.decisions = x.decisions) (hclock : x'.blockNumber = x.blockNumber) :
      BasketsStep x call x'

theorem Charged.basketsStep {call : SponsoredCall S} (hcharged : Charged x y)
    (hchain : x'.chain = y.chain) (hdecisions : x'.decisions = y.decisions)
    (hclock : x'.blockNumber = y.blockNumber) : BasketsStep x call x' := by
  cases hcharged with
  | none => exact .kept (by rw [hchain]) hdecisions hclock.ge (hclock ▸ id)
  | collection hstored hwithdrawn => exact .withdrawn hstored hwithdrawn hchain hdecisions hclock

theorem extrinsic_basketsStep (hsound : ChainSound x.chain) {submitted : Extrinsic T}
    {chain : State T} (hcall : submitted.call.isWithdrawal = false)
    (hstep : step x.chain submitted = some chain) :
    BasketsStep x (.extrinsic submitted) { x with chain } := by
  obtain ⟨s₁, hchain, hstorage⟩ := chainStep_of_step hstep
  obtain ⟨hcommon, _, _, _, _, hunique⟩ := State.storage_eq_iff.mp hstorage
  rcases hchain.unique_cases hcall with hsame | ⟨sender, handle, _, hfound, hdestroyed⟩
  · exact .kept (hunique.trans hsame) rfl (Nat.le_refl _) id
  · have hregistered : handle.id ≤ x.chain.common.createdCollectionCount :=
      hsound.registered handle.id fun hnone => absurd (hfound.symm.trans hnone) nofun
    have hcleared : chain.unique = clearBaskets handle.id x.chain.unique := by
      rw [hunique]
      cases hdestroyed with
      | _ => rfl
    refine .cleared ?_ ?_ hcleared rfl rfl
    · rw [hcommon]
      exact hregistered.trans hchain.pallets.common.createdCollectionCount_le
    · rw [modeOf_congr hcommon]
      exact hdestroyed.modeOf_eq_none

theorem SponsoredStep.basketsStep {call : SponsoredCall S} (hsound : ChainSound x.chain)
    (hstep : SponsoredStep x call x') : BasketsStep x call x' := by
  cases hstep with
  | nextBlock hwidth => exact .kept rfl rfl (Nat.le_succ _) fun _ => hwidth
  | extrinsic hcall hstep => exact extrinsic_basketsStep hsound hcall hstep
  | @burnItem sender collection item value budget chain hburns =>
    by_cases hone : value = 1
    · subst hone
      rw [if_pos rfl]
      refine .forgotten rfl ?_ (congrArg (forgetItem (collection, item)) hburns.unique_eq) rfl rfl
      rcases hburns.burnt_or_otherMode hsound with ⟨hnft, hgone⟩ | hother
      · exact .inl ⟨hnft, hgone.registered, hgone.numbered, hgone.gone⟩
      · exact .inr hother
    · refine .kept ?_ rfl (Nat.le_refl _) id
      rw [if_neg hone]
      exact hburns.unique_eq
  | charge hcharged => exact hcharged.basketsStep rfl rfl rfl
  | chargeEvm hcharged =>
    obtain ⟨y, hcharged, hdecided⟩ := hcharged
    cases hdecided with
    | none => exact hcharged.basketsStep rfl rfl rfl
    | named hmay => exact hcharged.basketsStep rfl rfl rfl
  | sponsorCollection hadmin hrun =>
    exact .kept (unique_eq_of_run hrun rfl (by rintro _ _ ⟨⟩)) rfl (Nat.le_refl _) id
  | stopSponsoringCollection hadmin hrun =>
    exact .kept (unique_eq_of_run hrun rfl (by rintro _ _ ⟨⟩)) rfl (Nat.le_refl _) id
  | _ => exact .kept rfl rfl (Nat.le_refl _) id

/-! ## The invariant -/

/-- The basket protects the decisions under a key. -/
structure KeyGuarded (key : RateKey T) (limit : ℕ) (x : SponsoredState S) : Prop where
  clock : x.blockNumber < 2 ^ 32
  guarded : Guarded (2 ^ 32) limit x.blockNumber (key.entry x.chain.unique) (key.Closed x.chain)
    (decisionsUnder key x.decisions)

/-- An NFT of the collection is burnt with `burn_item` only if no approval of it was
sponsored within the timeout. -/
def SponsoredCall.forgetsLapsed (collection : CollectionId) (limits : CollectionLimits)
    (x : SponsoredState S) : SponsoredCall S → Bool
  | .burnItem _ other item value _ =>
    decide (other = collection → value = 1 → modeOf x.chain collection = some .nft →
      ∀ last ∈ x.chain.unique.nftApproveBasket.get (collection, item),
        last + limits.sponsorApproveTimeout ≤ x.blockNumber)
  | _ => true

variable {key : RateKey T} {limits : CollectionLimits} {limit : ℕ}

section

variable (hguarded : KeyGuarded key limit x)

include hguarded

theorem KeyGuarded.withdrawn
    (hlimits : ∀ data ∈ x.chain.common.collectionById.get key.collection, data.limits = limits)
    (hlimit : key.timeout limits = some limit)
    (hstored : x.chain.common.collectionById.get handle.id = some handle.collection)
    (hwithdrawn : WithdrawnBy handle x x') : KeyGuarded key limit x' := by
  induction hwithdrawn with
  | none => exact hguarded
  | @granted y withdrawal unique hbefore hrun ih =>
    have hstays : y.chain.common.collectionById.get handle.id = some handle.collection := by
      rw [hbefore.common]
      exact hstored
    have hclosed : key.Closed y.chain → key.Closed (y.chain.mapUnique fun _ => unique) :=
      fun hclosed => hclosed.mapUnique unique
    refine ⟨ih.clock, ?_⟩
    rcases Sponsoring.run_eq_some hrun with ⟨hnone, rfl⟩ | ⟨other, hother, hgranted⟩
    · rw [granted, decisionsUnder_cons_of_ne (hnone ▸ nofun)]
      exact ih.guarded.mono hclosed
    · by_cases hkey : other = key
      · subst hkey
        obtain ⟨limit', hlimit', hpasses⟩ := hgranted.passes
        have hsame : handle.collection.limits = limits :=
          hlimits _ (hgranted.collection ▸ hstored)
        rw [hsame, hlimit] at hlimit'
        cases hlimit'
        rw [granted, decisionsUnder_cons_self hother]
        have hentry : other.entry unique = some y.blockNumber := by
          rw [← hgranted.recorded]
          exact RateKey.entry_record_self
        change Guarded _ _ _ (other.entry unique) _ _
        rw [hentry]
        exact ih.guarded.grant (hgranted.not_closed hstays) ih.clock hpasses
      · have hdifferent : withdrawal.rateKey handle ≠ some key :=
          hother ▸ fun hsome => hkey (Option.some.inj hsome)
        have hentry : key.entry unique = key.entry y.chain.unique := by
          rw [← hgranted.recorded]
          exact RateKey.entry_record_of_ne (Ne.symm hkey)
        rw [granted, decisionsUnder_cons_of_ne hdifferent]
        change Guarded _ _ _ (key.entry unique) _ _
        rw [hentry]
        exact ih.guarded.mono hclosed

theorem KeyGuarded.cleared {id : CollectionId} (hclosed : key.Closed x.chain → key.Closed x'.chain)
    (hregistered : id ≤ x'.chain.common.createdCollectionCount) (hgone : modeOf x'.chain id = none)
    (hunique : x'.chain.unique = clearBaskets id x.chain.unique)
    (hdecisions : x'.decisions = x.decisions) (hclock : x'.blockNumber = x.blockNumber) :
    KeyGuarded key limit x' := by
  refine ⟨hclock ▸ hguarded.clock, ?_⟩
  rw [hclock, hunique, hdecisions]
  by_cases hid : key.collection = id
  · subst hid
    rcases RateKey.entry_clearBaskets_cases with hnone | hsame
    · rw [hnone]
      exact hguarded.guarded.close (.destroyed hregistered hgone)
    · rw [hsame]
      exact hguarded.guarded.mono hclosed
  · rw [RateKey.entry_clearBaskets_of_ne hid]
    exact hguarded.guarded.mono hclosed

theorem KeyGuarded.forgotten (hclosed : key.Closed x.chain → key.Closed x'.chain)
    (hlimit : key.timeout limits = some limit)
    (hlapsed : collection = key.collection → modeOf x.chain collection = some .nft →
      ∀ last ∈ x.chain.unique.nftApproveBasket.get (collection, item),
        last + limits.sponsorApproveTimeout ≤ x.blockNumber)
    (hburnt : modeOf x.chain collection = some .nft ∧
        Gone Nonfungible.tokenView (collection, item) x'.chain ∨
      collection ≤ x'.chain.common.createdCollectionCount ∧ modeOf x'.chain collection ≠ some .nft)
    (hunique : x'.chain.unique = forgetItem (collection, item) x.chain.unique)
    (hdecisions : x'.decisions = x.decisions) (hclock : x'.blockNumber = x.blockNumber) :
    KeyGuarded key limit x' := by
  refine ⟨hclock ▸ hguarded.clock, ?_⟩
  rw [hclock, hunique, hdecisions]
  by_cases hkey : key.ofNft (collection, item)
  · rw [RateKey.entry_forgetItem_of_ofNft hkey]
    have hid : key.collection = collection := by
      rcases hkey with rfl | rfl
      · rfl
      · rfl
    rcases hburnt with ⟨hnft, hgone⟩ | ⟨hregistered, hmode⟩
    · rcases hkey with rfl | rfl
      · -- no transfer of a token that is gone is sponsored
        exact hguarded.guarded.close (.burnt hgone)
      · -- an approval may be, so that its entry must have expired
        cases hlimit
        exact (hguarded.guarded.forget (hlapsed rfl hnft)).mono hclosed
    · subst hid
      exact hguarded.guarded.close (.otherMode hkey hregistered hmode)
  · rw [RateKey.entry_forgetItem_of_not hkey]
    exact hguarded.guarded.mono hclosed

end

theorem BasketsStep.keyGuarded {call : SponsoredCall S} (hstep : BasketsStep x call x')
    (hmoves : ChainMoves x.chain x'.chain) (hguarded : KeyGuarded key limit x)
    (hlimits : ∀ data ∈ x.chain.common.collectionById.get key.collection, data.limits = limits)
    (hlimit : key.timeout limits = some limit)
    (hlapsed : call.forgetsLapsed key.collection limits x = true) : KeyGuarded key limit x' := by
  have hclosed : key.Closed x.chain → key.Closed x'.chain := fun hclosed =>
    hclosed.of_chainMoves hmoves
  cases hstep with
  | kept hunique hdecisions hclock hwidth =>
    refine ⟨hwidth hguarded.clock, ?_⟩
    rw [hunique, hdecisions]
    exact (hguarded.guarded.advance hclock).mono hclosed
  | withdrawn hstored hwithdrawn hchain hdecisions hclock =>
    obtain ⟨hwidth, hprotected⟩ := hguarded.withdrawn hlimits hlimit hstored hwithdrawn
    refine ⟨hclock ▸ hwidth, ?_⟩
    rw [hchain, hdecisions, hclock]
    exact hprotected
  | cleared hregistered hgone hunique hdecisions hclock =>
    exact hguarded.cleared hclosed hregistered hgone hunique hdecisions hclock
  | @forgotten sender collection item budget _ hcall hburnt hunique hdecisions hclock =>
    subst hcall
    have hexpired := of_decide_eq_true hlapsed
    refine hguarded.forgotten hclosed hlimit ?_ hburnt hunique hdecisions hclock
    rintro rfl hnft
    exact hexpired rfl rfl hnft

/-- In every run in which the limits of a collection stay the same, and an NFT of it is
burnt with `burn_item` only when the timeout has passed since the last approval of it that
was sponsored: two decisions under the same key are the effective timeout apart if and
only if the block of the first one and the timeout fit in 32 bits. -/
theorem collection_sponsor_protected {balances : T.Balances}
    {history : List (CallRecord (SponsoredState S) (SponsoredCall S))}
    (hrun : SponsoredReaches balances history x) {collection : CollectionId}
    {limits : CollectionLimits} (hlimits : ∀ event ∈ history,
      ∀ data ∈ event.state.chain.common.collectionById.get collection, data.limits = limits)
    (hlapsed : ∀ event ∈ history, event.call.forgetsLapsed collection limits event.state = true)
    {key : RateKey T} (hkey : key.collection = collection) {limit : ℕ}
    (hlimit : key.timeout limits = some limit) :
    (decisionsUnder key x.decisions).Pairwise fun later earlier =>
      earlier + limit ≤ later ↔ earlier + limit < 2 ^ 32 := by
  subst hkey
  refine (Run.invariant_of_base (P := KeyGuarded key limit)
    (fun x call =>
      (∀ data ∈ x.chain.common.collectionById.get key.collection, data.limits = limits) ∧
        call.forgetsLapsed key.collection limits x = true)
    chainSound_of_reaches ?_ ?_ hrun
    fun event hevent => ⟨hlimits event hevent, hlapsed event hevent⟩).guarded.apart
  · refine ⟨Nat.two_pow_pos 32, ?_⟩
    cases key <;> exact Guarded.empty
  · intro x call x' hsound _ hguarded hallowed hstep
    have hsteps := sponsoredStep_ok hstep
    exact (hsteps.basketsStep hsound).keyGuarded hsteps.chainMoves hguarded hallowed.1 hlimit
      hallowed.2

namespace BasketsExample

open reference ReferenceAccount

/-- Bob sponsors a collection of Alice, who has an NFT of it. -/
def sponsoredNft : List (SponsoredCall sponsors) :=
  [.extrinsic
    ⟨.createCollection alice (.user alice) { mode := .nft, pendingSponsor := some bob }, 5⟩,
    .extrinsic ⟨.settings 1 (.confirmSponsorship bob), 5⟩,
    .extrinsic ⟨.nonfungible 1 (.createMultipleItems alice [⟨alice, []⟩]), 5⟩]

/-- Alice approves the token. -/
def approve : SponsoredCall sponsors := .charge alice (.approve 1 1)

/-- Alice approves the token in every block, and every fifth time Bob pays. -/
def everyFifth : List (SponsoredCall sponsors) :=
  sponsoredNft ++ [approve, .nextBlock, approve, .nextBlock, approve, .nextBlock, .nextBlock,
    .nextBlock,
    approve]

theorem everyFifth_succeeds : (sponsoredHistory? everyFifth).isSome := by decide +kernel

theorem collection_sponsor_protected_everyFifth :
    decisionsUnder (.nftApprove (1, 1))
        (sponsoredStateOf everyFifth everyFifth_succeeds).decisions = [5, 0] ∧
      ([5, 0] : List ℕ).Pairwise fun later earlier => earlier + 5 ≤ later ↔
      earlier + 5 < 2 ^ 32 := by
  have hblocks : decisionsUnder (.nftApprove (1, 1))
      (sponsoredStateOf everyFifth everyFifth_succeeds).decisions = [5, 0] := by
    decide +kernel
  have hlimits : ∀ event ∈ sponsoredHistoryOf everyFifth everyFifth_succeeds,
      ∀ data ∈ event.state.chain.common.collectionById.get 1, data.limits = {} := by
    decide +kernel
  have hlapsed : ∀ event ∈ sponsoredHistoryOf everyFifth everyFifth_succeeds,
      event.call.forgetsLapsed 1 {} event.state = true := by decide +kernel
  have hprotected := collection_sponsor_protected
    (run_replay _ _ everyFifth everyFifth_succeeds) hlimits hlapsed
    (show (RateKey.nftApprove (1, 1)).collection = 1 from rfl)
    (show (RateKey.nftApprove (1, 1)).timeout {} = some 5 from rfl)
  exact ⟨hblocks, hblocks ▸ hprotected⟩

/-- The token is burnt between two approvals in one block. -/
def burntBetween : List (SponsoredCall sponsors) :=
  sponsoredNft ++ [approve, .burnItem alice 1 1 1 5, approve]

theorem collection_sponsor_unprotected :
    ∃ hcalls : (sponsoredHistory? burntBetween).isSome,
      let x := sponsoredStateOf burntBetween hcalls
      SponsoredReaches noBalances (sponsoredHistoryOf burntBetween hcalls) x ∧
        (∀ event ∈ sponsoredHistoryOf burntBetween hcalls,
          ∀ data ∈ event.state.chain.common.collectionById.get 1, data.limits = {}) ∧
        CollectionLimits.sponsorApproveTimeout {} = 5 ∧
        decisionsUnder (.nftApprove (1, 1)) x.decisions = [0, 0] :=
  ⟨by decide +kernel, run_replay _ _ _ _, by decide +kernel⟩

end BasketsExample

end UniqueChain
