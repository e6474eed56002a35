import UniqueChain.Sponsorship.Baskets

/-!
# The prediction of sponsored transfers

`predict` tells the holder of an item how many blocks to wait until a transfer of it is
sponsored.  It computes the end of the timeout with a sum that saturates, while the
withdrawal itself computes it with one that wraps.  Entries of the baskets are never later
than the current block (`EntriesPast`), so the two sums differ only near the last block there
is.
-/

namespace UniqueChain

open Execution RateLimit

variable {T : Config} {S : SponsorConfig T} {x x' y : SponsoredState S} {s : State T}
  {handle : CollectionHandle T} {who : T.CrossAccountId} {item : TokenId} {balances : T.Balances}
  {history : List (CallRecord (SponsoredState S) (SponsoredCall S))}

/-! ## Entries lie in the past -/

structure EntriesPast (x : SponsoredState S) : Prop where
  clock : x.blockNumber < 2 ^ 32
  past : ∀ (key : RateKey T) last, key.entry x.chain.unique = some last → last ≤ x.blockNumber

theorem EntriesPast.withdrawn (hpast : EntriesPast x) (hwithdrawn : WithdrawnBy handle x y) :
    EntriesPast y := by
  induction hwithdrawn with
  | none => exact hpast
  | @granted y withdrawal unique hbefore hrun ih =>
    refine ⟨ih.clock, fun key last hentry => ?_⟩
    change key.entry unique = some last at hentry
    rcases Sponsoring.run_eq_some hrun with ⟨-, rfl⟩ | ⟨other, -, hgranted⟩
    · exact ih.past key last hentry
    · rw [← hgranted.recorded] at hentry
      by_cases hkey : key = other
      · rw [hkey, RateKey.entry_record_self] at hentry
        exact (Option.some.inj hentry).ge
      · rw [RateKey.entry_record_of_ne hkey] at hentry
        exact ih.past key last hentry

theorem BasketsStep.entriesPast {call : SponsoredCall S} (hstep : BasketsStep x call x')
    (hpast : EntriesPast x) : EntriesPast x' := by
  cases hstep with
  | kept hunique hdecisions hclock hwidth =>
    refine ⟨hwidth hpast.clock, fun key last hentry => ?_⟩
    rw [hunique] at hentry
    exact (hpast.past key last hentry).trans hclock
  | withdrawn hstored hwithdrawn hchain hdecisions hclock =>
    have hpast := hpast.withdrawn hwithdrawn
    exact ⟨hclock ▸ hpast.clock, by rw [hchain, hclock]; exact hpast.past⟩
  | @cleared id _ hregistered hgone hunique hdecisions hclock =>
    refine ⟨hclock ▸ hpast.clock, fun key last hentry => ?_⟩
    rw [hunique] at hentry
    rw [hclock]
    by_cases hid : key.collection = id
    · subst hid
      rcases RateKey.entry_clearBaskets_cases with hnone | hsame
      · rw [hnone] at hentry
        cases hentry
      · exact hpast.past key last (hsame ▸ hentry)
    · exact hpast.past key last (RateKey.entry_clearBaskets_of_ne hid ▸ hentry)
  | @forgotten sender collection item budget _ hcall hburnt hunique hdecisions hclock =>
    refine ⟨hclock ▸ hpast.clock, fun key last hentry => ?_⟩
    rw [hunique] at hentry
    rw [hclock]
    by_cases hkey : key.ofNft (collection, item)
    · rw [RateKey.entry_forgetItem_of_ofNft hkey] at hentry
      cases hentry
    · exact hpast.past key last (RateKey.entry_forgetItem_of_not hkey ▸ hentry)

theorem EntriesPast.last_le (hpast : EntriesPast x) {last : ℕ}
    (hentry : lastTxBlock handle x.chain who item = some last) : last ≤ x.blockNumber := by
  unfold lastTxBlock at hentry
  split at hentry
  · exact hpast.past (.nftTransfer _) last hentry
  · exact hpast.past (.fungibleTransfer _) last hentry
  · exact hpast.past (.reFungibleTransfer _) last hentry

theorem entriesPast_of_reaches (hrun : SponsoredReaches balances history x) : EntriesPast x := by
  refine Run.invariant_of_base (P := EntriesPast) (fun _ _ => True) chainSound_of_reaches
    ⟨Nat.two_pow_pos 32, fun key last hentry => ?_⟩
    (fun x call x' hsound _ hpast _ hstep =>
      ((sponsoredStep_ok hstep).basketsStep hsound).entriesPast hpast) hrun fun _ _ => trivial
  cases key <;> cases hentry

/-! ## What is held exists -/

theorem listed_of_reaches (hrun : SponsoredReaches balances history x) :
    Refungible.Ledger x.chain.refungible ∧ Refungible.ListedHold x.chain.refungible := by
  refine Run.invariant (P := fun x : SponsoredState S =>
      Refungible.Ledger x.chain.refungible ∧ Refungible.ListedHold x.chain.refungible)
    (fun _ _ => True) ⟨.empty, fun _ _ _ howned => absurd rfl howned⟩ ?_ hrun fun _ _ => trivial
  intro x call x' hbefore _ hstep
  refine (sponsoredStep_ok hstep).chainMoves.keeps (OfStorage.refungible fun refungible =>
    Refungible.Ledger refungible ∧ Refungible.ListedHold refungible) (fun _ _ => id) ?_ hbefore
  intro s call s' hbefore hstep
  exact ⟨hstep.pallets.refungible.ledger hbefore.1,
    hstep.pallets.refungible.listedHold hbefore.1.toPieces hbefore.2⟩

theorem tokenExists_of_holdsItem (hledger : Refungible.Ledger s.refungible)
    (hlisted : Refungible.ListedHold s.refungible)
    (hholds : Sponsoring.holdsItem s handle who item = true) :
    tokenExists handle s item = true := by
  unfold Sponsoring.holdsItem at hholds
  unfold tokenExists
  cases hmode : handle.collection.mode with
  | nft =>
    rw [hmode] at hholds
    cases hdata : s.nonfungible.tokenData.get (handle.id, item) with
    | none => simp [hdata] at hholds
    | some data => rfl
  | fungible decimals =>
    simp only [hmode, Bool.and_eq_true] at hholds
    exact hholds.1
  | reFungible =>
    simp only [hmode] at hholds
    have howned : s.refungible.owned.get (handle.id, who, item) ≠ none := by
      intro hnone
      simp [FiniteMap.getD, hnone] at hholds
    exact Option.isSome_iff_ne_none.mpr (hledger.held _ (hlisted _ _ _ howned))

/-! ## The prediction -/

theorem Sponsoring.isSome_withdraw {Key : Type} [DecidableEq Key] {basket : FiniteMap Key ℕ}
    {key : Key} {limit blockNumber : ℕ} :
    (Sponsoring.withdraw basket key limit blockNumber).isSome =
      passes (2 ^ 32) limit blockNumber (basket.get key) := by
  unfold Sponsoring.withdraw passes
  split <;> simp_all

/-- The timeout of transfers. -/
abbrev transferTimeout (handle : CollectionHandle T) : ℕ :=
  handle.collection.limits.sponsorTransferTimeout handle.collection.mode.sponsorTransferTimeout

theorem isSome_withdrawTransfer {blockNumber : ℕ}
    (hholds : Sponsoring.holdsItem s handle who item = true) :
    (Sponsoring.withdrawTransfer handle blockNumber s who item).isSome =
      passes (2 ^ 32) (transferTimeout handle) blockNumber (lastTxBlock handle s who item) := by
  rw [Sponsoring.withdrawTransfer, if_pos hholds, transferTimeout, lastTxBlock]
  cases handle.collection.mode with
  | nft => exact Option.isSome_map.trans Sponsoring.isSome_withdraw
  | fungible decimals => exact Option.isSome_map.trans Sponsoring.isSome_withdraw
  | reFungible => exact Option.isSome_map.trans Sponsoring.isSome_withdraw

/-- In every reachable state, for everyone who holds an item of a collection with a confirmed
sponsor: there is a prediction, and a transfer is sponsored after as many blocks as it says and
not before, if and only if the end of the current timeout is a block number.  The last block of
all is the exception, after which there is nothing to predict. -/
theorem predict_exact_iff (hrun : SponsoredReaches balances history x) {sponsor : T.AccountId}
    (hload : load x.chain handle.id = some (sponsor, handle))
    (hholds : Sponsoring.holdsItem x.chain handle who item = true) :
    (∃ n, predict x.chain x.blockNumber handle.id who item = some n ∧
        ∀ k, x.blockNumber + k ≤ u32Max →
          ((Sponsoring.withdrawTransfer handle (x.blockNumber + k) x.chain who item).isSome = true ↔
            n ≤ k)) ↔
      x.blockNumber = u32Max ∨
        ∀ last, lastTxBlock handle x.chain who item = some last →
          last + transferTimeout handle ≤ u32Max := by
  have hpast := entriesPast_of_reaches hrun
  obtain ⟨hledger, hlisted⟩ := listed_of_reaches hrun
  have hexists := tokenExists_of_holdsItem hledger hlisted hholds
  simp only [isSome_withdrawTransfer hholds, predict, hload, Option.bind_eq_bind, Option.bind_some]
  cases hentry : lastTxBlock handle x.chain who item with
  | none =>
    refine iff_of_true ⟨0, if_pos hexists, fun k _ => iff_of_true rfl k.zero_le⟩ (.inr nofun)
  | some last =>
    have hlast := hpast.last_le hentry
    have hlimit : transferTimeout handle ≤ u32Max :=
      (Nat.min_le_right ..).trans (by decide : maxSponsorTimeout ≤ u32Max)
    simp only [Option.some.injEq, exists_eq_left', forall_eq']
    exact passes_after_iff (Nat.le_of_lt_succ hpast.clock) hlast hlimit

/-! ## Runs of many blocks -/

def SponsoredState.atBlock (x : SponsoredState S) (blockNumber : ℕ) : SponsoredState S :=
  { x with blockNumber }

theorem reaches_later (hrun : SponsoredReaches balances history x) (blocks : ℕ)
    (hblocks : x.blockNumber + blocks < 2 ^ 32) :
    ∃ history' : List (CallRecord (SponsoredState S) (SponsoredCall S)),
      SponsoredReaches balances history' (x.atBlock (x.blockNumber + blocks)) := by
  induction blocks with
  | zero => exact ⟨history, hrun⟩
  | succ blocks ih =>
    obtain ⟨earlier, hearlier⟩ := ih (by omega)
    have hnext : sponsoredStep (x.atBlock (x.blockNumber + blocks)) .nextBlock =
        some (x.atBlock (x.blockNumber + (blocks + 1))) := if_pos hblocks
    exact ⟨_, hearlier.accepted hnext⟩

namespace PredictExample

open reference ReferenceAccount BasketsExample

/-- Alice transfers her NFT, and Bob pays. -/
def transfer : SponsoredCall sponsors := .charge alice (.transfer 1 1)

def calls : List (SponsoredCall sponsors) := sponsoredNft ++ [transfer]

theorem calls_succeed : (sponsoredHistory? calls).isSome := by decide +kernel

def state : SponsoredState sponsors := sponsoredStateOf calls calls_succeed

theorem reaches_state :
    SponsoredReaches noBalances (sponsoredHistoryOf calls calls_succeed) state :=
  run_replay _ _ calls calls_succeed

def nfts : CollectionHandle reference := handleOf state.chain 1 rfl

theorem predict_exact_iff_five :
    load state.chain 1 = some (bob, nfts) ∧
      Sponsoring.holdsItem state.chain nfts alice 1 = true ∧
      ∃ n, predict state.chain state.blockNumber 1 alice 1 = some n ∧
        ∀ k, state.blockNumber + k ≤ u32Max →
          ((Sponsoring.withdrawTransfer nfts (state.blockNumber + k) state.chain alice 1).isSome =
            true ↔ n ≤ k) := by
  have hload : load state.chain nfts.id = some (bob, nfts) := rfl
  have hholds : Sponsoring.holdsItem state.chain nfts alice 1 = true := by decide +kernel
  have hentry : lastTxBlock nfts state.chain alice 1 = some 0 := by decide +kernel
  refine ⟨hload, hholds, (predict_exact_iff reaches_state hload hholds).mpr (.inr ?_)⟩
  rintro last hlast
  rw [hentry] at hlast
  cases hlast
  decide +kernel

/-- The same transfer five blocks before the block numbers end. -/
def start : SponsoredState sponsors := sponsoredStateOf sponsoredNft (by decide +kernel)

def late? : Option (SponsoredState sponsors) :=
  sponsoredStep (start.atBlock (start.blockNumber + (2 ^ 32 - 5))) transfer

def late : SponsoredState sponsors := late?.get (by decide +kernel)

/-- Four blocks are predicted, but the next transfer is sponsored at once. -/
theorem predict_inexact :
    (∃ history : List (CallRecord (SponsoredState sponsors) (SponsoredCall sponsors)),
        SponsoredReaches noBalances history late) ∧
      load late.chain 1 = some (bob, nfts) ∧
      Sponsoring.holdsItem late.chain nfts alice 1 = true ∧
      predict late.chain late.blockNumber 1 alice 1 = some 4 ∧
      (Sponsoring.withdrawTransfer nfts (late.blockNumber + 0) late.chain alice 1).isSome =
      true := by
  refine ⟨?_, rfl, by decide +kernel, by decide +kernel, by decide +kernel⟩
  obtain ⟨history, hrun⟩ := reaches_later
    (run_replay _ (sponsoredGenesis noBalances) sponsoredNft (by decide +kernel))
    (2 ^ 32 - 5) (by decide +kernel)
  exact ⟨_, hrun.accepted (Option.some_get _).symm⟩

end PredictExample

end UniqueChain
