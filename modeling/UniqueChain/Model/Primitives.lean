import Mathlib.Algebra.GroupWithZero.Nat
import Mathlib.Data.List.Nodup
import Mathlib.Tactic.Common

/-!
# Identifiers, addresses and checked arithmetic

The identifiers of `up_data_structs`, the mapping between tokens and Ethereum
addresses, and the checked operations on the fixed-width integers of the
source.  Identifiers and amounts are natural numbers; every operation that can
leave the width of its type does so explicitly.
-/

namespace UniqueChain

/-- A `u32`. -/
abbrev CollectionId := ℕ

/-- A `u32`. -/
abbrev TokenId := ℕ

/-- A token is named by its collection and its number in it. -/
abbrev Token := CollectionId × TokenId

/-- Items numbered in a row get different tokens. -/
theorem nodup_numbered {ι : Type} (collection : CollectionId) (items : List ι) (first : TokenId) :
    ((items.zipIdx first).map fun item => ((collection, item.2) : Token)).Nodup := by
  have hnumbers : ((items.zipIdx first).map fun item => ((collection, item.2) : Token)) =
      (List.range' first items.length).map fun number => (collection, number) := by
    rw [← List.zipIdx_map_snd, List.map_map]
    rfl
  rw [hnumbers]
  refine List.Nodup.map (fun a b hab => ?_) (List.nodup_range' 1)
  exact (Prod.mk.inj hab).2

/-- Items numbered from the first free number on get numbers that were free. -/
theorem bounds_of_mem_numbered {ι : Type} {items : List ι} {used : ℕ} {item : ι × ℕ}
    (hitem : item ∈ items.zipIdx (used + 1)) :
    used + 1 ≤ item.2 ∧ item.2 ≤ used + items.length := by
  have hlower := List.le_snd_of_mem_zipIdx hitem
  have hupper := List.snd_lt_of_mem_zipIdx hitem
  exact ⟨hlower, by omega⟩

/-- All items of a mint are tokens of its collection. -/
theorem countP_numbered_collection {ι : Type} (items : List (ι × TokenId))
    (collection other : CollectionId) :
    (items.countP fun item => decide (((collection, item.2) : Token).1 = other)) =
      if other = collection then items.length else 0 := by
  by_cases hother : collection = other
  · simp [hother]
  · simp [hother, Ne.symm hother]

/-- An Ethereum address: twenty bytes, the first one the most significant. -/
abbrev H160 := BitVec 160

/-- The collection that stands for the native currency. -/
def nativeFungibleCollectionId : CollectionId := 0

/-! ## Constants -/

/-- `u32::MAX`. -/
def u32Max : ℕ := 2 ^ 32 - 1

/-- `u128::MAX`. -/
def u128Max : ℕ := 2 ^ 128 - 1

/-- The most decimals of a fungible collection. -/
def maxDecimalPoints : ℕ := 30

/-- The most pieces of a token. -/
def maxRefungiblePieces : ℕ := 1000000000000000000000

/-- The longest timeout, in blocks. -/
def maxSponsorTimeout : ℕ := 10368000

/-- The most tokens of an account. -/
def maxTokenOwnership : ℕ := 100000000

/-- The most collections at a time. -/
def collectionNumberLimit : ℕ := 100000

/-- The most bytes a sponsor pays for. -/
def customDataLimit : ℕ := 2048

/-- The most admins of a collection. -/
def collectionAdminsLimit : ℕ := 5

/-- Tokens of a collection without a limit of its own. -/
def collectionTokenLimit : ℕ := u32Max

/-- Tokens of an account where no limit is set. -/
def accountTokenOwnershipLimit : ℕ := 100000000

/-- Blocks between sponsored transfers of an NFT. -/
def nftSponsorTransferTimeout : ℕ := 5

/-- The same for an account of a fungible collection. -/
def fungibleSponsorTransferTimeout : ℕ := 5

/-- The same for an account and a refungible token. -/
def refungibleSponsorTransferTimeout : ℕ := 5

/-- Blocks between sponsored approvals. -/
def sponsorApproveTimeout : ℕ := 5

/-- In bytes. -/
def maxTokenPrefixLength : ℕ := 16

/-- In bytes. -/
def maxPropertyKeyLength : ℕ := 256

/-- In bytes. -/
def maxPropertyValueLength : ℕ := 32768

/-- The most entries of a property map. -/
def maxPropertiesPerItem : ℕ := 64

/-- Bytes of the properties of a collection. -/
def maxCollectionPropertiesSize : ℕ := 40960

/-- Bytes of the properties of a token. -/
def maxTokenPropertiesSize : ℕ := 32768

/-! ## Checked arithmetic -/

/-- `checked_add` on integers of at most `max`. -/
def checkedAdd (max a b : ℕ) : Option ℕ :=
  if a + b ≤ max then some (a + b) else none

/-- `checked_sub` on unsigned integers. -/
def checkedSub (a b : ℕ) : Option ℕ :=
  if b ≤ a then some (a - b) else none

@[simp] theorem checkedAdd_eq_some {max a b c : ℕ} :
    checkedAdd max a b = some c ↔ a + b ≤ max ∧ a + b = c := by
  simp [checkedAdd]

@[simp] theorem checkedAdd_eq_none {max a b : ℕ} : checkedAdd max a b = none ↔ max < a + b := by
  simp [checkedAdd]

@[simp] theorem checkedSub_eq_some {a b c : ℕ} : checkedSub a b = some c ↔ b ≤ a ∧ a - b = c := by
  simp [checkedSub]

@[simp] theorem checkedSub_eq_none {a b : ℕ} : checkedSub a b = none ↔ a < b := by
  simp [checkedSub]

/-- `try_fold(start, checked_add)` over a list of amounts. -/
def checkedSum (max : ℕ) (start : ℕ) : List ℕ → Option ℕ
  | [] => some start
  | amount :: rest => do
    let next ← checkedAdd max start amount
    checkedSum max next rest

theorem checkedSum_eq_some {max start total : ℕ} {amounts : List ℕ}
    (hsum : checkedSum max start amounts = some total) : total = start + amounts.sum := by
  induction amounts generalizing start with
  | nil =>
    simp only [checkedSum, Option.some.injEq] at hsum
    simp [hsum]
  | cons amount rest ih =>
    simp only [checkedSum, Option.bind_eq_bind, Option.bind_eq_some_iff,
      checkedAdd_eq_some] at hsum
    obtain ⟨next, ⟨_, hnext⟩, hrest⟩ := hsum
    rw [ih hrest, List.sum_cons]
    omega

/-- The fold stays within the width of the type. -/
theorem checkedSum_le {max start total : ℕ} {amounts : List ℕ} (hstart : start ≤ max)
    (hsum : checkedSum max start amounts = some total) : total ≤ max := by
  induction amounts generalizing start with
  | nil =>
    simp only [checkedSum, Option.some.injEq] at hsum
    omega
  | cons amount rest ih =>
    simp only [checkedSum, Option.bind_eq_bind, Option.bind_eq_some_iff,
      checkedAdd_eq_some] at hsum
    obtain ⟨next, ⟨hle, hnext⟩, hrest⟩ := hsum
    exact ih (by omega) hrest

/-! ## Token and collection addresses -/

/-- The first twelve bytes of the address of every token. -/
def ethCollectionTokenPrefix : BitVec 96 := 0xf8238ccfff8ed887463fd5e0#96

/-- The first sixteen bytes of the address of every collection. -/
def ethCollectionPrefix : BitVec 128 := 0x17c4e6453cc49aaaaeaca894e6d9683e#128

/-- The address under which a token can own tokens. -/
def evmTokenToAddress (collection : CollectionId) (token : TokenId) : H160 :=
  ethCollectionTokenPrefix ++ BitVec.ofNat 32 collection ++ BitVec.ofNat 32 token

/-- The token of such an address. -/
def evmAddressToToken (address : H160) : Option Token :=
  if address.extractLsb' 64 96 = ethCollectionTokenPrefix then
    some ((address.extractLsb' 32 32).toNat, (address.extractLsb' 0 32).toNat)
  else
    none

/-- The address of the contract of a collection. -/
def collectionIdToAddress (collection : CollectionId) : H160 :=
  ethCollectionPrefix ++ BitVec.ofNat 32 collection

/-- Whether an address is that of a collection. -/
def isCollection (address : H160) : Bool :=
  address.extractLsb' 32 128 = ethCollectionPrefix

/-- The collection of such an address. -/
def mapEthToId (address : H160) : Option CollectionId :=
  if isCollection address then some (address.extractLsb' 0 32).toNat else none

/-- The two kinds of address are told apart by their first bit. -/
theorem not_isCollection_of_evmAddressToToken {address : H160} {token : Token}
    (htoken : evmAddressToToken address = some token) : isCollection address = false := by
  unfold evmAddressToToken at htoken
  split at htoken
  · rename_i hinitial
    rw [isCollection, decide_eq_false_iff_not]
    intro hcollection
    have hset : (address.extractLsb' 64 96).getLsbD 95 = true := by
      rw [hinitial]
      decide
    have hclear : (address.extractLsb' 32 128).getLsbD 127 = false := by
      rw [hcollection]
      decide
    rw [BitVec.getLsbD_extractLsb'] at hset hclear
    simp only [Nat.reduceLT, decide_true, Bool.true_and, Nat.reduceAdd] at hset hclear
    rw [hset] at hclear
    exact Bool.noConfusion hclear
  · exact absurd htoken (by simp)

end UniqueChain
