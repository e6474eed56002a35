import UniqueChain.Sponsorship.Steps

/-!
# Withdrawals from the sponsor of a collection

A withdrawal is granted if it passes the checks of its kind (`Withdrawal.Admissible`) and
if the rate limit of its key has lapsed (`Withdrawal.Lapsed`).  Then the block is recorded
under the key, and nothing else changes.  `Sponsoring.run_eq_some_iff` says this of all
kinds of withdrawals at once.
-/

namespace UniqueChain

open Execution RateLimit FiniteMap

variable {T : Config} {S : SponsorConfig T} {x x' y : SponsoredState S} {s s' : State T}

variable {item : TokenId} {token : Token}

/-! ## Keys -/

/-- What a rate limit applies to. -/
inductive RateKey (T : Config) where
  | nftTransfer (token : Token)
  | fungibleTransfer (key : CollectionId × T.AccountId)
  | reFungibleTransfer (key : Token × T.AccountId)
  | createItem (key : CollectionId × T.AccountId)
  | nftApprove (token : Token)
  | fungibleApprove (key : CollectionId × T.AccountId)
  | refungibleApprove (key : Token × T.AccountId)
  | tokenProperty (token : Token)
  deriving DecidableEq

namespace RateKey

def collection : RateKey T → CollectionId
  | nftTransfer token => token.1
  | fungibleTransfer key => key.1
  | reFungibleTransfer key => key.1.1
  | createItem key => key.1
  | nftApprove token => token.1
  | fungibleApprove key => key.1
  | refungibleApprove key => key.1.1
  | tokenProperty token => token.1

/-- The entry of the basket. -/
def entry (unique : UniqueStorage T) : RateKey T → Option ℕ
  | nftTransfer token => unique.nftTransferBasket.get token
  | fungibleTransfer key => unique.fungibleTransferBasket.get key
  | reFungibleTransfer key => unique.reFungibleTransferBasket.get key
  | createItem key => unique.createItemBasket.get key
  | nftApprove token => unique.nftApproveBasket.get token
  | fungibleApprove key => unique.fungibleApproveBasket.get key
  | refungibleApprove key => unique.refungibleApproveBasket.get key
  | tokenProperty token => unique.tokenPropertyBasket.get token

/-- The effective timeout, if there is sponsoring at all.  The default for transfers is the
same for all kinds of collections. -/
def timeout (limits : CollectionLimits) : RateKey T → Option ℕ
  | nftTransfer _ => some (limits.sponsorTransferTimeout nftSponsorTransferTimeout)
  | fungibleTransfer _ => some (limits.sponsorTransferTimeout fungibleSponsorTransferTimeout)
  | reFungibleTransfer _ => some (limits.sponsorTransferTimeout refungibleSponsorTransferTimeout)
  | createItem _ => some (limits.sponsorTransferTimeout nftSponsorTransferTimeout)
  | nftApprove _ => some limits.sponsorApproveTimeout
  | fungibleApprove _ => some limits.sponsorApproveTimeout
  | refungibleApprove _ => some limits.sponsorApproveTimeout
  | tokenProperty _ => limits.sponsoredDataRateLimit

/-- Write the block to the basket. -/
def record (blockNumber : ℕ) (unique : UniqueStorage T) : RateKey T → UniqueStorage T
  | nftTransfer token =>
    { unique with nftTransferBasket := unique.nftTransferBasket.insert token blockNumber }
  | fungibleTransfer key =>
    { unique with
      fungibleTransferBasket := unique.fungibleTransferBasket.insert key blockNumber }
  | reFungibleTransfer key =>
    { unique with
      reFungibleTransferBasket := unique.reFungibleTransferBasket.insert key blockNumber }
  | createItem key =>
    { unique with createItemBasket := unique.createItemBasket.insert key blockNumber }
  | nftApprove token =>
    { unique with nftApproveBasket := unique.nftApproveBasket.insert token blockNumber }
  | fungibleApprove key =>
    { unique with fungibleApproveBasket := unique.fungibleApproveBasket.insert key blockNumber }
  | refungibleApprove key =>
    { unique with
      refungibleApproveBasket := unique.refungibleApproveBasket.insert key blockNumber }
  | tokenProperty token =>
    { unique with tokenPropertyBasket := unique.tokenPropertyBasket.insert token blockNumber }

variable {key other : RateKey T} {unique : UniqueStorage T} {blockNumber : ℕ}

theorem entry_record_self : key.entry (key.record blockNumber unique) = some blockNumber := by
  cases key <;> exact get_insert_self ..

theorem entry_record_of_ne (hne : key ≠ other) :
    key.entry (other.record blockNumber unique) = key.entry unique := by
  cases other <;> cases key <;>
    first | rfl | exact get_insert_of_ne _ _ fun heq => hne (congrArg _ heq)

/-- The destruction of another collection leaves the entry alone. -/
theorem entry_clearBaskets_of_ne {id : CollectionId} (hne : key.collection ≠ id) :
    key.entry (clearBaskets id unique) = key.entry unique := by
  cases key <;> first | rfl | exact get_eraseWhere_of_not _ hne

/-- The destruction of the collection removes the entry, or leaves it alone. -/
theorem entry_clearBaskets_cases {id : CollectionId} :
    key.entry (clearBaskets id unique) = none ∨
      key.entry (clearBaskets id unique) = key.entry unique := by
  by_cases hid : key.collection = id
  · cases key with
    | createItem key => exact .inr rfl
    | tokenProperty token => exact .inr rfl
    | _ => exact .inl (if_pos hid)
  · exact .inr (entry_clearBaskets_of_ne hid)

/-- Whether the entries of the key are those that `burn_item` removes. -/
def ofNft (token : Token) (key : RateKey T) : Prop :=
  key = nftTransfer token ∨ key = nftApprove token

theorem entry_forgetItem_of_not (hother : ¬ key.ofNft token) :
    key.entry (forgetItem token unique) = key.entry unique := by
  cases key with
  | nftTransfer other =>
    exact get_erase_of_ne _ fun heq => hother (.inl (congrArg nftTransfer heq))
  | nftApprove other =>
    exact get_erase_of_ne _ fun heq => hother (.inr (congrArg nftApprove heq))
  | _ => rfl

theorem entry_forgetItem_of_ofNft (hkey : key.ofNft token) :
    key.entry (forgetItem token unique) = none := by
  rcases hkey with rfl | rfl
  · exact get_erase_self ..
  · exact get_erase_self ..

end RateKey

/-- The key of a withdrawal; properties without data are not limited. -/
def Withdrawal.rateKey (handle : CollectionHandle T) : Withdrawal T → Option (RateKey T)
  | .setExistingTokenProperty _ item dataSize =>
    if dataSize = 0 then none else some (.tokenProperty (handle.id, item))
  | .setTokenProperty item dataSize =>
    if dataSize = 0 then none else some (.tokenProperty (handle.id, item))
  | .transfer who item =>
    match handle.collection.mode with
    | .nft => some (.nftTransfer (handle.id, item))
    | .fungible _ => some (.fungibleTransfer (handle.id, T.asSub who))
    | .reFungible => some (.reFungibleTransfer ((handle.id, item), T.asSub who))
  | .createItem who _ => some (.createItem (handle.id, T.asSub who))
  | .approve who item =>
    match handle.collection.mode with
    | .nft => some (.nftApprove (handle.id, item))
    | .fungible _ => some (.fungibleApprove (handle.id, who))
    | .reFungible => some (.refungibleApprove ((handle.id, item), who))

/-! ## What a withdrawal does -/

theorem Sponsoring.withdraw_eq_some {Key : Type} [DecidableEq Key]
    {basket basket' : FiniteMap Key ℕ} {key : Key} {limit blockNumber : ℕ} :
    Sponsoring.withdraw basket key limit blockNumber = some basket' ↔
      passes (2 ^ 32) limit blockNumber (basket.get key) = true ∧
        basket.insert key blockNumber = basket' := by
  simp only [Sponsoring.withdraw, Option.ite_none_right_eq_some, Option.some.injEq]
  rfl

namespace Withdrawal

variable (handle : CollectionHandle T)

/-- The checks of a withdrawal before its rate limit.  Who sets a property or transfers
an item has to hold it; who approves need not. -/
def Admissible (s : State T) : Withdrawal T → Prop
  | .setExistingTokenProperty who item dataSize =>
    (∀ decimals, handle.collection.mode ≠ .fungible decimals) ∧
      Sponsoring.holdsItem s handle who item = true ∧
      dataSize ≤ handle.collection.limits.sponsoredDataSize
  | .setTokenProperty _ dataSize => dataSize ≤ handle.collection.limits.sponsoredDataSize
  | .transfer who item => Sponsoring.holdsItem s handle who item = true
  | .createItem _ _ => True
  | .approve _ _ => True

/-- The rate limit of the withdrawal, if it has one, has passed since the last time. -/
def Lapsed (blockNumber : ℕ) (unique : UniqueStorage T) (withdrawal : Withdrawal T) : Prop :=
  ∀ key, withdrawal.rateKey handle = some key →
    ∃ limit, key.timeout handle.collection.limits = some limit ∧
      passes (2 ^ 32) limit blockNumber (key.entry unique) = true

/-- The baskets after the withdrawal. -/
def recorded (blockNumber : ℕ) (unique : UniqueStorage T) (withdrawal : Withdrawal T) :
    UniqueStorage T :=
  match withdrawal.rateKey handle with
  | some key => key.record blockNumber unique
  | none => unique

variable {handle} {blockNumber : ℕ} {unique : UniqueStorage T} {withdrawal : Withdrawal T}
  {key : RateKey T}

theorem lapsed_of_none (hkey : withdrawal.rateKey handle = none) :
    withdrawal.Lapsed handle blockNumber unique := by
  intro key hsome
  rw [hkey] at hsome
  cases hsome

section

variable (hkey : withdrawal.rateKey handle = some key)

include hkey

theorem lapsed_iff_of_some :
    withdrawal.Lapsed handle blockNumber unique ↔
      ∃ limit, key.timeout handle.collection.limits = some limit ∧
        passes (2 ^ 32) limit blockNumber (key.entry unique) = true := by
  constructor
  · intro hlapsed
    exact hlapsed key hkey
  · intro hlapsed other hother
    rw [hkey] at hother
    cases hother
    exact hlapsed

theorem collection_of_rateKey : key.collection = handle.id := by
  unfold rateKey at hkey
  repeat' split at hkey
  all_goals cases hkey <;> rfl

/-- The baskets of NFTs are for collections of them. -/
theorem mode_of_rateKey (hofNft : key.ofNft token) : handle.collection.mode = .nft := by
  unfold rateKey at hkey
  repeat' split at hkey
  all_goals first
    | assumption
    | (cases hkey; rcases hofNft with ⟨⟨⟩⟩ | ⟨⟨⟩⟩)
    | cases hkey

end

/-- An NFT whose transfer is sponsored exists. -/
theorem exists_of_rateKey (hkey : withdrawal.rateKey handle = some (.nftTransfer token))
    (hadmissible : withdrawal.Admissible handle s) : s.nonfungible.tokenData.get token ≠ none := by
  intro hnone
  cases withdrawal with
  | transfer who item =>
    have hmode := mode_of_rateKey hkey (.inl rfl)
    simp only [rateKey, hmode, Option.some.injEq, RateKey.nftTransfer.injEq] at hkey
    subst hkey
    simp [Admissible, Sponsoring.holdsItem, hmode, hnone] at hadmissible
  | approve who item =>
    simp only [rateKey] at hkey
    split at hkey <;> cases hkey
  | _ => simp [rateKey] at hkey

end Withdrawal

section Withdrawals

variable {handle : CollectionHandle T} {blockNumber : ℕ} {unique : UniqueStorage T}

/-- A basket under a key with a timeout. -/
theorem map_withdraw_eq_some {Key : Type} [DecidableEq Key] {basket : FiniteMap Key ℕ}
    {entry : Key} {limit : ℕ} {write : FiniteMap Key ℕ → UniqueStorage T}
    {withdrawal : Withdrawal T} (key : RateKey T) (hkey : withdrawal.rateKey handle = some key)
    (htimeout : key.timeout handle.collection.limits = some limit)
    (hentry : key.entry s.unique = basket.get entry)
    (hrecord : key.record blockNumber s.unique = write (basket.insert entry blockNumber)) :
    (Sponsoring.withdraw basket entry limit blockNumber).map write = some unique ↔
      withdrawal.Lapsed handle blockNumber s.unique ∧
        withdrawal.recorded handle blockNumber s.unique = unique := by
  rw [Withdrawal.lapsed_iff_of_some hkey, Withdrawal.recorded, hkey, Option.map_eq_some_iff, hentry]
  simp only [Sponsoring.withdraw_eq_some, htimeout, Option.some.injEq, exists_eq_left', hrecord]
  constructor
  · rintro ⟨_, ⟨hpasses, rfl⟩, hunique⟩
    exact ⟨hpasses, hunique⟩
  · rintro ⟨hpasses, hunique⟩
    exact ⟨_, ⟨hpasses, rfl⟩, hunique⟩

theorem withdrawSetTokenProperty_eq_some {dataSize : ℕ} :
    Sponsoring.withdrawSetTokenProperty handle blockNumber s item dataSize = some unique ↔
      (Withdrawal.setTokenProperty item dataSize).Admissible handle s ∧
        (Withdrawal.setTokenProperty item dataSize).Lapsed handle blockNumber s.unique ∧
        (Withdrawal.setTokenProperty item dataSize).recorded handle blockNumber s.unique =
          unique := by
  unfold Sponsoring.withdrawSetTokenProperty
  by_cases hempty : dataSize = 0
  · have hkey : (Withdrawal.setTokenProperty item dataSize).rateKey handle = none := if_pos hempty
    rw [if_pos hempty, Withdrawal.recorded, hkey]
    constructor
    · intro hunique
      exact ⟨hempty ▸ Nat.zero_le _, Withdrawal.lapsed_of_none hkey, Option.some.inj hunique⟩
    · rintro ⟨_, _, rfl⟩
      rfl
  · have hkey : (Withdrawal.setTokenProperty item dataSize).rateKey handle =
        some (.tokenProperty (handle.id, item)) := if_neg hempty
    rw [if_neg hempty]
    by_cases hsize : dataSize ≤ handle.collection.limits.sponsoredDataSize
    · rw [if_pos hsize, Withdrawal.lapsed_iff_of_some hkey, Withdrawal.recorded, hkey]
      simp only [Option.bind_eq_bind, Option.bind_eq_some_iff, Sponsoring.withdraw_eq_some,
        Option.some.injEq]
      constructor
      · rintro ⟨limit, hlimit, _, ⟨hpasses, rfl⟩, rfl⟩
        exact ⟨hsize, ⟨limit, hlimit, hpasses⟩, rfl⟩
      · rintro ⟨_, ⟨limit, hlimit, hpasses⟩, rfl⟩
        exact ⟨limit, hlimit, _, ⟨hpasses, rfl⟩, rfl⟩
    · rw [if_neg hsize]
      constructor
      · nofun
      · rintro ⟨hadmissible, _⟩
        exact absurd hadmissible hsize

theorem withdrawTransfer_eq_some {who : T.CrossAccountId} :
    Sponsoring.withdrawTransfer handle blockNumber s who item = some unique ↔
      (Withdrawal.transfer who item).Admissible handle s ∧
        (Withdrawal.transfer who item).Lapsed handle blockNumber s.unique ∧
        (Withdrawal.transfer who item).recorded handle blockNumber s.unique = unique := by
  unfold Sponsoring.withdrawTransfer
  rw [Option.ite_none_right_eq_some]
  refine and_congr_right fun _ => ?_
  dsimp only
  cases hmode : handle.collection.mode with
  | nft =>
    exact map_withdraw_eq_some (.nftTransfer (handle.id, item))
      (by rw [Withdrawal.rateKey, hmode]) rfl rfl rfl
  | fungible decimals =>
    exact map_withdraw_eq_some (.fungibleTransfer (handle.id, T.asSub who))
      (by rw [Withdrawal.rateKey, hmode]) rfl rfl rfl
  | reFungible =>
    exact map_withdraw_eq_some (.reFungibleTransfer ((handle.id, item), T.asSub who))
      (by rw [Withdrawal.rateKey, hmode]) rfl rfl rfl

theorem withdrawApprove_eq_some {who : T.AccountId} :
    Sponsoring.withdrawApprove handle blockNumber s who item = some unique ↔
      (Withdrawal.approve who item).Lapsed handle blockNumber s.unique ∧
        (Withdrawal.approve who item).recorded handle blockNumber s.unique = unique := by
  unfold Sponsoring.withdrawApprove
  dsimp only
  cases hmode : handle.collection.mode with
  | nft =>
    exact map_withdraw_eq_some (.nftApprove (handle.id, item))
      (by rw [Withdrawal.rateKey, hmode]) rfl rfl rfl
  | fungible decimals =>
    exact map_withdraw_eq_some (.fungibleApprove (handle.id, who))
      (by rw [Withdrawal.rateKey, hmode]) rfl rfl rfl
  | reFungible =>
    exact map_withdraw_eq_some (.refungibleApprove ((handle.id, item), who))
      (by rw [Withdrawal.rateKey, hmode]) rfl rfl rfl

/-- A withdrawal is granted exactly if it is admissible and its rate limit has lapsed. -/
theorem Sponsoring.run_eq_some_iff {withdrawal : Withdrawal T} :
    Sponsoring.run handle blockNumber s withdrawal = some unique ↔
      withdrawal.Admissible handle s ∧ withdrawal.Lapsed handle blockNumber s.unique ∧
        withdrawal.recorded handle blockNumber s.unique = unique := by
  cases withdrawal with
  | setExistingTokenProperty who item dataSize =>
    -- beyond the look at the holder it is the same as for a new token
    have hproperty : Sponsoring.withdrawSetTokenProperty handle blockNumber s item dataSize =
        some unique ↔ _ := withdrawSetTokenProperty_eq_some
    have hholder : Sponsoring.run handle blockNumber s
          (.setExistingTokenProperty who item dataSize) = some unique ↔
        (∀ decimals, handle.collection.mode ≠ .fungible decimals) ∧
          Sponsoring.holdsItem s handle who item = true ∧
          Sponsoring.withdrawSetTokenProperty handle blockNumber s item dataSize =
            some unique := by
      simp only [Sponsoring.run, Sponsoring.withdrawSetExistingTokenProperty]
      cases handle.collection.mode <;> simp
    rw [hholder, hproperty]
    simp only [Withdrawal.Admissible, and_assoc]
    rfl
  | setTokenProperty item dataSize => exact withdrawSetTokenProperty_eq_some
  | transfer who item => exact withdrawTransfer_eq_some
  | createItem who properties =>
    have htimeout : properties.sponsorTransferTimeout = nftSponsorTransferTimeout := by
      cases properties <;> rfl
    refine Iff.trans (map_withdraw_eq_some (.createItem (handle.id, T.asSub who)) rfl ?_ rfl
      rfl) (true_and _).symm.to_iff
    rw [htimeout]
    rfl
  | approve who item => exact withdrawApprove_eq_some.trans (true_and _).symm.to_iff

end Withdrawals

end UniqueChain
