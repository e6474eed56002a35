import Mathlib.Algebra.BigOperators.Group.Finset.Basic
import Mathlib.Algebra.GroupWithZero.Nat
import Mathlib.Algebra.Order.BigOperators.Group.Finset
import Mathlib.Data.Finset.Image

/-!
# Finite maps with a computable support

A key-value store is modelled by a partial function together with the finite
set of keys on which it is defined.  The set is determined by the function, so
two stores that answer every lookup alike are equal (`FiniteMap.ext_get`), and
nothing can depend on the order in which the entries were written.

What a ledger is proved about is almost always a sum over the entries of a
store: a total of balances, a number of records.  Both are instances of
`FiniteMap.sum`, and the three lemmas `sum_insert`, `sum_erase` and
`sum_eraseWhere` say how each way of writing to a store moves such a sum.
-/

/-- A finite partial function, together with the set of keys it is defined on. -/
structure FiniteMap (Key Value : Type) where
  get : Key → Option Value
  support : Finset Key
  mem_support : ∀ key, key ∈ support ↔ (get key).isSome

namespace FiniteMap

variable {Key Value : Type}

variable {first second : FiniteMap Key Value} {map : FiniteMap Key Value}

/-- The support adds no information: lookups determine the map. -/
theorem ext_get (hget : ∀ key, first.get key = second.get key) : first = second := by
  obtain ⟨get₁, support₁, hmem₁⟩ := first
  obtain ⟨get₂, support₂, hmem₂⟩ := second
  obtain rfl : get₁ = get₂ := funext hget
  have hsupport : support₁ = support₂ := by
    ext key
    rw [hmem₁, hmem₂]
  subst hsupport
  rfl

/-- The stored value, or `default` for an absent key. -/
def getD (map : FiniteMap Key Value) (key : Key) (default : Value) : Value :=
  (map.get key).getD default

/-- Whether a key has a value. -/
def contains (map : FiniteMap Key Value) (key : Key) : Bool :=
  (map.get key).isSome

/-- The map without entries. -/
def empty : FiniteMap Key Value where
  get _ := none
  support := ∅
  mem_support _ := by simp

theorem contains_eq_false {key : Key} : map.contains key = false ↔ map.get key = none := by
  simp [contains]

@[simp] theorem get_empty (key : Key) : (empty : FiniteMap Key Value).get key = none := rfl

theorem getD_of_get {key : Key} {value default : Value}
    (hget : map.get key = some value) : map.getD key default = value := by
  simp [getD, hget]

theorem getD_of_get_none {key : Key} {default : Value}
    (hget : map.get key = none) : map.getD key default = default := by
  simp [getD, hget]

/-- Where the default is a value no lookup is interested in, a different answer
comes from an entry. -/
theorem get_of_getD_ne {key : Key} {default : Value}
    (hne : map.getD key default ≠ default) : map.get key = some (map.getD key default) := by
  unfold getD at hne ⊢
  cases hget : map.get key with
  | none => simp [hget] at hne
  | some value => rfl

/-- What is asked of the value under a key, if there is one, can be decided. -/
instance decidableForallGet (map : FiniteMap Key Value) (key : Key) (P : Value → Prop)
    [DecidablePred P] : Decidable (∀ value, map.get key = some value → P value) :=
  match hget : map.get key with
  | none => isTrue fun _ hvalue => by cases hvalue
  | some value => decidable_of_iff (P value)
      ⟨fun hvalue _ hother => by cases hother; exact hvalue, fun hall => hall value rfl⟩

section Writing

variable [DecidableEq Key] (map) {other : Key}

/-- Write `value` under `key`, replacing what was there. -/
def insert (key : Key) (value : Value) : FiniteMap Key Value where
  get other := if other = key then some value else map.get other
  support := Insert.insert key map.support
  mem_support other := by
    by_cases hother : other = key
    · simp [hother]
    · simp [hother, map.mem_support]

/-- Forget the entry under `key`. -/
def erase (key : Key) : FiniteMap Key Value where
  get other := if other = key then none else map.get other
  support := map.support.erase key
  mem_support other := by
    by_cases hother : other = key
    · simp [hother]
    · simp [hother, map.mem_support]

/-- Forget every entry whose key satisfies `p`. -/
def eraseWhere (p : Key → Prop) [DecidablePred p] : FiniteMap Key Value where
  get other := if p other then none else map.get other
  support := map.support.filter fun key => ¬ p key
  mem_support other := by
    by_cases hother : p other
    · simp [hother]
    · simp [hother, map.mem_support]

@[grind =] theorem get_insert (key other : Key) (value : Value) :
    (map.insert key value).get other = if other = key then some value else map.get other := rfl

@[grind =] theorem get_erase (key other : Key) :
    (map.erase key).get other = if other = key then none else map.get other := rfl

omit [DecidableEq Key] in
@[grind =] theorem get_eraseWhere (p : Key → Prop) [DecidablePred p]
    (other : Key) : (map.eraseWhere p).get other = if p other then none else map.get other := rfl

@[simp] theorem get_insert_self (key : Key) (value : Value) :
    (map.insert key value).get key = some value := by
  simp [get_insert]

@[simp] theorem get_erase_self (key : Key) : (map.erase key).get key = none := by
  simp [get_erase]

theorem get_insert_of_ne {key other : Key} (value : Value)
    (hne : other ≠ key) : (map.insert key value).get other = map.get other := by
  simp [get_insert, hne]

theorem insert_insert (key : Key) (first second : Value) :
    (map.insert key first).insert key second = map.insert key second := by
  refine ext_get fun other => ?_
  rw [get_insert, get_insert, get_insert]
  split <;> rfl

theorem get_erase_of_ne {key other : Key} (hne : other ≠ key) :
    (map.erase key).get other = map.get other := by
  simp [get_erase, hne]

omit [DecidableEq Key] in
theorem get_eraseWhere_of_not {p : Key → Prop} [DecidablePred p] (hother : ¬ p other) :
    (map.eraseWhere p).get other = map.get other := by
  rw [get_eraseWhere, if_neg hother]

@[grind =] theorem getD_insert (key other : Key) (value default : Value) :
    (map.insert key value).getD other default =
      if other = key then value else map.getD other default := by
  unfold getD
  rw [get_insert]
  split <;> rfl

@[grind =] theorem getD_erase (key other : Key) (default : Value) :
    (map.erase key).getD other default =
      if other = key then default else map.getD other default := by
  unfold getD
  rw [get_erase]
  split <;> rfl

omit [DecidableEq Key] in
@[grind =] theorem getD_eraseWhere (p : Key → Prop) [DecidablePred p]
    (other : Key) (default : Value) :
    (map.eraseWhere p).getD other default =
      if p other then default else map.getD other default := by
  unfold getD
  rw [get_eraseWhere]
  split <;> rfl

/-- Write an entry for each element of a list, from the left. -/
def insertEach {ι : Type} (entries : List ι) (key : ι → Key)
    (value : ι → Value) : FiniteMap Key Value :=
  entries.foldl (fun map entry => map.insert (key entry) (value entry)) map

variable {map}

theorem get_erase_of_eq_none {key other : Key}
    (hnone : map.get other = none) : (map.erase key).get other = none := by
  rw [get_erase, hnone, ite_self]

omit [DecidableEq Key] in
theorem get_eraseWhere_of_eq_none {p : Key → Prop} [DecidablePred p]
    (hnone : map.get other = none) : (map.eraseWhere p).get other = none := by
  rw [get_eraseWhere, hnone, ite_self]

omit [DecidableEq Key] in
/-- Nothing is forgotten where there is nothing. -/
theorem eraseWhere_eq_self {p : Key → Prop} [DecidablePred p]
    (hnone : ∀ key, p key → map.get key = none) : map.eraseWhere p = map := by
  refine ext_get fun key => ?_
  rw [get_eraseWhere]
  split
  · rename_i hkey
    rw [hnone key hkey]
  · rfl

section InsertEach

variable {ι : Type} {map : FiniteMap Key Value} {entries : List ι} {key : ι → Key}
  {value : ι → Value}

@[simp] theorem insertEach_nil : map.insertEach [] key value = map := rfl

@[simp] theorem insertEach_cons {entry : ι} :
    map.insertEach (entry :: entries) key value =
      (map.insert (key entry) (value entry)).insertEach entries key value := rfl

theorem insertEach_append {others : List ι} :
    map.insertEach (entries ++ others) key value =
      (map.insertEach entries key value).insertEach others key value :=
  List.foldl_append

/-- A key that no element has is left alone. -/
theorem get_insertEach_of_forall_ne (hother : ∀ entry ∈ entries, other ≠ key entry) :
    (map.insertEach entries key value).get other = map.get other := by
  induction entries generalizing map with
  | nil => rfl
  | cons entry rest ih =>
    rw [List.forall_mem_cons] at hother
    rw [insertEach_cons, ih hother.2, get_insert_of_ne _ _ hother.1]

/-- Where keys are not repeated, every element finds its own value. -/
theorem get_insertEach_of_mem (hnodup : (entries.map key).Nodup) {entry : ι}
    (hentry : entry ∈ entries) :
    (map.insertEach entries key value).get (key entry) = some (value entry) := by
  induction entries generalizing map with
  | nil => simp at hentry
  | cons head rest ih =>
    rw [List.map_cons, List.nodup_cons] at hnodup
    rw [insertEach_cons]
    rcases List.mem_cons.mp hentry with rfl | hrest
    · rw [get_insertEach_of_forall_ne, get_insert_self]
      exact fun other hmem heq => hnodup.1 (heq ▸ List.mem_map_of_mem hmem)
    · exact ih hnodup.2 hrest

/-- If the same value is written under all keys, it does not matter whether some
of them are equal. -/
theorem get_insertEach_const {constant : Value} (hother : ∃ entry ∈ entries, other = key entry) :
    (map.insertEach entries key fun _ => constant).get other = some constant := by
  induction entries generalizing map with
  | nil => simp at hother
  | cons head rest ih =>
    rw [insertEach_cons]
    by_cases hlater : ∃ later ∈ rest, other = key later
    · exact ih hlater
    · obtain ⟨entry, hentry, rfl⟩ := hother
      obtain rfl : entry = head := by
        rcases List.mem_cons.mp hentry with rfl | hrest
        · rfl
        · exact absurd ⟨entry, hrest, rfl⟩ hlater
      rw [get_insertEach_of_forall_ne fun later hmem heq => hlater ⟨later, hmem, heq⟩,
        get_insert_self]

theorem get_insertEach_ne_none :
    (map.insertEach entries key value).get other ≠ none ↔
      (∃ entry ∈ entries, other = key entry) ∨ map.get other ≠ none := by
  induction entries generalizing map with
  | nil => simp
  | cons entry rest ih =>
    rw [insertEach_cons, ih, List.exists_mem_cons_iff, get_insert]
    by_cases hother : other = key entry
    · simp [hother]
    · simp [hother]

variable (map value) in
/-- What a lookup finds after such a write. -/
theorem get_insertEach_cases (hnodup : (entries.map key).Nodup) (other : Key) :
    (∃ entry ∈ entries, other = key entry ∧
        (map.insertEach entries key value).get other = some (value entry)) ∨
      (∀ entry ∈ entries, other ≠ key entry) ∧
        (map.insertEach entries key value).get other = map.get other := by
  by_cases hmem : ∃ entry ∈ entries, other = key entry
  · obtain ⟨entry, hentry, rfl⟩ := hmem
    exact .inl ⟨entry, hentry, rfl, get_insertEach_of_mem hnodup hentry⟩
  · push Not at hmem
    exact .inr ⟨hmem, get_insertEach_of_forall_ne hmem⟩

end InsertEach

/-- Store an amount; zero is stored as no entry. -/
def putAmount (map : FiniteMap Key ℕ) (key : Key) (amount : ℕ) : FiniteMap Key ℕ :=
  if amount = 0 then map.erase key else map.insert key amount

@[grind =] theorem get_putAmount (map : FiniteMap Key ℕ) (key other : Key) (amount : ℕ) :
    (map.putAmount key amount).get other =
      if other = key then (if amount = 0 then none else some amount) else map.get other := by
  unfold putAmount
  split <;> rfl

@[grind =] theorem getD_putAmount (map : FiniteMap Key ℕ) (key other : Key) (amount : ℕ) :
    (map.putAmount key amount).getD other 0 = if other = key then amount else map.getD other 0 := by
  unfold putAmount
  split
  · rename_i hzero
    rw [getD_erase, hzero]
  · rw [getD_insert]

end Writing

/-! ## Searching the keys -/

/-- Some key satisfies `p`. -/
def anyKey (map : FiniteMap Key Value) (p : Key → Prop) [DecidablePred p] : Bool :=
  decide (map.support.filter p).Nonempty

theorem anyKey_iff {p : Key → Prop} [DecidablePred p] :
    map.anyKey p = true ↔ ∃ key value, map.get key = some value ∧ p key := by
  rw [anyKey, decide_eq_true_iff]
  constructor
  · rintro ⟨key, hkey⟩
    obtain ⟨hmem, hp⟩ := Finset.mem_filter.mp hkey
    obtain ⟨value, hvalue⟩ := Option.isSome_iff_exists.mp ((map.mem_support key).mp hmem)
    exact ⟨key, value, hvalue, hp⟩
  · rintro ⟨key, value, hvalue, hp⟩
    refine ⟨key, Finset.mem_filter.mpr ⟨(map.mem_support key).mpr ?_, hp⟩⟩
    rw [hvalue]
    rfl

theorem anyKey_eq_false_iff {p : Key → Prop} [DecidablePred p] :
    map.anyKey p = false ↔ ∀ key, p key → map.get key = none := by
  rw [Bool.eq_false_iff, ne_eq, anyKey_iff]
  push Not
  constructor
  · intro hnone key hkey
    cases hget : map.get key with
    | none => rfl
    | some value => exact absurd hkey (hnone key value hget)
  · intro hnone key value hvalue hkey
    rw [hnone key hkey] at hvalue
    cases hvalue

theorem anyKey_erase_self [DecidableEq Key] {key : Key} :
    ((map.erase key).anyKey fun other => other = key) = false := by
  rw [anyKey_eq_false_iff]
  rintro _ rfl
  exact get_erase_self _ _

theorem anyKey_eraseWhere_self {p : Key → Prop} [DecidablePred p] :
    (map.eraseWhere p).anyKey p = false := by
  rw [anyKey_eq_false_iff]
  intro key hkey
  rw [get_eraseWhere, if_pos hkey]

private theorem existsUnique_of_card {p : Key → Prop}
    [DecidablePred p] (hcard : (map.support.filter p).card = 1) :
    ∃! key, key ∈ map.support ∧ p key := by
  obtain ⟨key, hkey⟩ := Finset.card_eq_one.mp hcard
  have hmem : ∀ other, other ∈ map.support ∧ p other ↔ other = key := by
    intro other
    rw [← Finset.mem_filter, hkey, Finset.mem_singleton]
  exact ⟨key, (hmem key).mpr rfl, fun other hother => (hmem other).mp hother⟩

/-- The key that satisfies `p`, if there is exactly one. -/
def soleKey (map : FiniteMap Key Value) (p : Key → Prop) [DecidablePred p] : Option Key :=
  if h : (map.support.filter p).card = 1 then
    some (map.support.choose p (existsUnique_of_card h))
  else
    none

theorem soleKey_eq_some_iff {p : Key → Prop} [DecidablePred p] {key : Key} :
    map.soleKey p = some key ↔
      (map.get key).isSome ∧ p key ∧ ∀ other, (map.get other).isSome → p other → other = key := by
  unfold soleKey
  constructor
  · intro hsole
    split at hsole
    · rename_i hcard
      have hspec := Finset.choose_spec p map.support (existsUnique_of_card hcard)
      rw [Option.some.inj hsole] at hspec
      refine ⟨(map.mem_support key).mp hspec.1, hspec.2, fun other hother hp => ?_⟩
      exact (existsUnique_of_card hcard).unique ⟨(map.mem_support other).mpr hother, hp⟩ hspec
    · cases hsole
  · rintro ⟨hget, hp, hunique⟩
    have hfilter : map.support.filter p = {key} := by
      ext other
      rw [Finset.mem_filter, map.mem_support, Finset.mem_singleton]
      constructor
      · rintro ⟨hother, hp⟩
        exact hunique other hother hp
      · rintro rfl
        exact ⟨hget, hp⟩
    have hcard : (map.support.filter p).card = 1 := by rw [hfilter, Finset.card_singleton]
    rw [dif_pos hcard, Option.some.injEq]
    have hspec := Finset.choose_spec p map.support (existsUnique_of_card hcard)
    exact hunique _ ((map.mem_support _).mp hspec.1) hspec.2

/-- The search looks at the keys that satisfy `p` only. -/
theorem anyKey_congr {p : Key → Prop} [DecidablePred p]
    (hagree : ∀ key, p key → second.get key = first.get key) :
    second.anyKey p = first.anyKey p := by
  have hnone : second.anyKey p = false ↔ first.anyKey p = false := by
    rw [anyKey_eq_false_iff, anyKey_eq_false_iff]
    exact forall₂_congr fun key hkey => by rw [hagree key hkey]
  cases hsecond : second.anyKey p with
  | false => rw [hnone.mp hsecond]
  | true =>
    cases hfirst : first.anyKey p with
    | false => rw [hnone.mpr hfirst] at hsecond; cases hsecond
    | true => rfl

theorem soleKey_congr {p : Key → Prop} [DecidablePred p]
    (hagree : ∀ key, p key → second.get key = first.get key) :
    second.soleKey p = first.soleKey p := by
  refine Option.ext fun key => ?_
  rw [soleKey_eq_some_iff, soleKey_eq_some_iff]
  constructor
  · rintro ⟨hget, hp, hunique⟩
    refine ⟨hagree key hp ▸ hget, hp, fun other hother hq => hunique other ?_ hq⟩
    rwa [hagree other hq]
  · rintro ⟨hget, hp, hunique⟩
    refine ⟨by rwa [hagree key hp], hp, fun other hother hq => hunique other ?_ hq⟩
    rwa [hagree other hq] at hother

/-! ## Writing within bounds -/

/-- The second map differs from the first at most where `p` holds. -/
def AgreesOff (p : Key → Prop) (first second : FiniteMap Key Value) : Prop :=
  ∀ key, ¬ p key → second.get key = first.get key

namespace AgreesOff

variable {p : Key → Prop} {first second third : FiniteMap Key Value}

@[refl] theorem refl (map : FiniteMap Key Value) : AgreesOff p map map := fun _ _ => rfl

variable [DecidableEq Key] {key : Key}

theorem insert (hagrees : AgreesOff p first second) (hkey : p key) (value : Value) :
    AgreesOff p first (second.insert key value) := by
  intro other hother
  have hne : other ≠ key := fun heq => hother (heq ▸ hkey)
  rw [get_insert_of_ne _ _ hne, hagrees other hother]

theorem erase (hagrees : AgreesOff p first second) (hkey : p key) :
    AgreesOff p first (second.erase key) := by
  intro other hother
  have hne : other ≠ key := fun heq => hother (heq ▸ hkey)
  rw [get_erase_of_ne _ hne, hagrees other hother]

theorem putAmount {first second : FiniteMap Key ℕ} (hagrees : AgreesOff p first second)
    (hkey : p key) (amount : ℕ) : AgreesOff p first (second.putAmount key amount) := by
  unfold FiniteMap.putAmount
  split
  · exact hagrees.erase hkey
  · exact hagrees.insert hkey amount

end AgreesOff

/-! ## Sums over the entries -/

/-- The contribution of one key to a sum over the entries: nothing if it is absent. -/
def term (map : FiniteMap Key Value) (f : Key → Value → ℕ) (key : Key) : ℕ :=
  (map.get key).elim 0 (f key)

/-- The sum of `f key value` over all entries. -/
def sum (map : FiniteMap Key Value) (f : Key → Value → ℕ) : ℕ :=
  ∑ key ∈ map.support, map.term f key

variable (f : Key → Value → ℕ)

theorem term_of_get {key : Key} {value : Value} (hget : map.get key = some value) :
    map.term f key = f key value := by
  simp [term, hget]

theorem term_of_get_none {key : Key} (hget : map.get key = none) : map.term f key = 0 := by
  simp [term, hget]

variable (map)

/-- The sum may be taken over any finite set that contains the support. -/
theorem sum_eq_of_support_subset {keys : Finset Key} (hsubset : map.support ⊆ keys) :
    map.sum f = ∑ key ∈ keys, map.term f key := by
  refine Finset.sum_subset hsubset fun key _ hkey => ?_
  refine term_of_get_none f ?_
  rw [map.mem_support] at hkey
  simpa using hkey

theorem sum_congr {f g : Key → Value → ℕ}
    (hfg : ∀ key value, map.get key = some value → f key value = g key value) :
    map.sum f = map.sum g := by
  refine Finset.sum_congr rfl fun key hkey => ?_
  obtain ⟨value, hvalue⟩ := Option.isSome_iff_exists.mp ((map.mem_support key).mp hkey)
  rw [term_of_get f hvalue, term_of_get g hvalue, hfg key value hvalue]

/-- Two maps whose keys contribute alike have the same sum. -/
theorem sum_eq_of_term_eq {f : Key → Value → ℕ}
    (hterm : ∀ key, first.term f key = second.term f key) : first.sum f = second.sum f := by
  classical
  have hfirst : first.support ⊆ first.support ∪ second.support := Finset.subset_union_left
  have hsecond : second.support ⊆ first.support ∪ second.support := Finset.subset_union_right
  rw [sum_eq_of_support_subset first f hfirst, sum_eq_of_support_subset second f hsecond]
  exact Finset.sum_congr rfl fun key _ => hterm key

@[simp] theorem sum_empty : (empty : FiniteMap Key Value).sum f = 0 := by
  simp [sum, empty]

theorem term_le_sum (key : Key) : map.term f key ≤ map.sum f := by
  by_cases hkey : key ∈ map.support
  · exact Finset.single_le_sum (f := map.term f) (fun _ _ => Nat.zero_le _) hkey
  · rw [map.mem_support] at hkey
    rw [term_of_get_none f (by simpa using hkey)]
    exact Nat.zero_le _

theorem sum_eq_zero_iff :
    map.sum f = 0 ↔ ∀ key value, map.get key = some value → f key value = 0 := by
  constructor
  · intro hsum key value hvalue
    have hle := map.term_le_sum f key
    rw [term_of_get f hvalue] at hle
    omega
  · intro hzero
    refine Finset.sum_eq_zero fun key hkey => ?_
    obtain ⟨value, hvalue⟩ := Option.isSome_iff_exists.mp ((map.mem_support key).mp hkey)
    rw [term_of_get f hvalue, hzero key value hvalue]

section Writing

variable [DecidableEq Key]

/-- Splitting one key off a sum. -/
theorem sum_eq_term_add (key : Key) :
    map.sum f = map.term f key + ∑ other ∈ map.support.erase key, map.term f other := by
  rw [map.sum_eq_of_support_subset f (Finset.subset_insert key map.support),
    ← Finset.sum_erase_add _ _ (Finset.mem_insert_self key map.support),
    Finset.erase_insert_eq_erase, add_comm]

/-- Writing an entry replaces the contribution of its key. -/
theorem sum_insert (key : Key) (value : Value) :
    (map.insert key value).sum f + map.term f key = map.sum f + f key value := by
  have hrest : ∑ other ∈ (map.insert key value).support.erase key,
        (map.insert key value).term f other =
      ∑ other ∈ map.support.erase key, map.term f other := by
    have hsupport : (map.insert key value).support.erase key = map.support.erase key :=
      Finset.erase_insert_eq_erase _ _
    rw [hsupport]
    refine Finset.sum_congr rfl fun other hother => ?_
    simp only [term, get_insert_of_ne map value (Finset.ne_of_mem_erase hother)]
  rw [sum_eq_term_add _ f key, sum_eq_term_add map f key, hrest,
    term_of_get f (get_insert_self map key value)]
  omega

/-- Forgetting an entry takes its contribution away. -/
theorem sum_erase (key : Key) : (map.erase key).sum f + map.term f key = map.sum f := by
  have hrest : (map.erase key).sum f = ∑ other ∈ map.support.erase key, map.term f other := by
    refine Finset.sum_congr rfl fun other hother => ?_
    simp only [term, get_erase_of_ne map (Finset.ne_of_mem_erase hother)]
  rw [hrest, sum_eq_term_add map f key, add_comm]

/-- Writing entries under different keys replaces the contributions of these keys. -/
theorem sum_insertEach {ι : Type}
    {entries : List ι} {key : ι → Key} {value : ι → Value} (hnodup : (entries.map key).Nodup) :
    (map.insertEach entries key value).sum f +
        (entries.map fun entry => map.term f (key entry)).sum =
      map.sum f + (entries.map fun entry => f (key entry) (value entry)).sum := by
  induction entries generalizing map with
  | nil => simp
  | cons entry rest ih =>
    rw [List.map_cons, List.nodup_cons] at hnodup
    have hrest : (rest.map fun other => map.term f (key other)) =
        rest.map fun other => (map.insert (key entry) (value entry)).term f (key other) := by
      refine List.map_congr_left fun other hother => ?_
      have hne : key other ≠ key entry := fun heq =>
        hnodup.1 (heq ▸ List.mem_map_of_mem hother)
      unfold term
      rw [get_insert_of_ne _ _ hne]
    have hinsert := map.sum_insert f (key entry) (value entry)
    have hothers := @ih (map.insert (key entry) (value entry)) hnodup.2
    simp only [insertEach_cons, List.map_cons, List.sum_cons, hrest]
    omega

variable {map} in
/-- Writing entries under new keys adds their contributions. -/
theorem sum_insertEach_of_new {ι : Type}
    {entries : List ι} {key : ι → Key} {value : ι → Value} (hnodup : (entries.map key).Nodup)
    (hnew : ∀ entry ∈ entries, map.get (key entry) = none) :
    (map.insertEach entries key value).sum f =
      map.sum f + (entries.map fun entry => f (key entry) (value entry)).sum := by
  have hold : (entries.map fun entry => map.term f (key entry)).sum = 0 := by
    rw [List.sum_eq_zero_iff]
    intro amount hamount
    obtain ⟨entry, hentry, rfl⟩ := List.mem_map.mp hamount
    exact term_of_get_none f (hnew entry hentry)
  rw [← sum_insertEach map f hnodup, hold, Nat.add_zero]

theorem sum_putAmount (map : FiniteMap Key ℕ) (f : Key → ℕ → ℕ) (key : Key) (amount : ℕ)
    (hzero : f key 0 = 0) :
    (map.putAmount key amount).sum f + map.term f key = map.sum f + f key amount := by
  unfold putAmount
  split
  · rename_i hamount
    rw [sum_erase, hamount, hzero, Nat.add_zero]
  · exact sum_insert map f key amount

omit [DecidableEq Key] in
/-- Forgetting a set of entries takes all their contributions away. -/
theorem sum_eraseWhere (p : Key → Prop) [DecidablePred p] :
    (map.eraseWhere p).sum f = map.sum fun key value => if p key then 0 else f key value := by
  have hsubset : (map.eraseWhere p).support ⊆ map.support := Finset.filter_subset _ _
  rw [sum_eq_of_support_subset _ f hsubset]
  refine Finset.sum_congr rfl fun key _ => ?_
  unfold term
  rw [get_eraseWhere]
  by_cases hkey : p key
  · cases map.get key <;> simp [hkey]
  · cases map.get key <;> simp [hkey]

/-- Two different keys contribute at most the whole sum. -/
theorem term_add_term_le_sum {first second : Key} (hne : first ≠ second) :
    map.term f first + map.term f second ≤ map.sum f := by
  have herase := map.sum_erase f first
  have hle := (map.erase first).term_le_sum f second
  simp only [term, get_erase_of_ne map hne.symm] at hle herase ⊢
  omega

end Writing

/-! ## Counting the entries -/

section Counting

variable {map : FiniteMap Key Value} {p : Key → Value → Prop} [∀ key, DecidablePred (p key)]

/-- The number of entries that satisfy `p`. -/
def count (map : FiniteMap Key Value) (p : Key → Value → Prop) [∀ key, DecidablePred (p key)] : ℕ :=
  map.sum fun key value => if p key value then 1 else 0

theorem count_eq_zero (hnone : ∀ key value, map.get key = some value → ¬ p key value) :
    map.count p = 0 :=
  (sum_eq_zero_iff _ _).mpr fun key value hget => if_neg (hnone key value hget)

/-- The count depends on the entries that may satisfy `p` only. -/
theorem count_congr {other : FiniteMap Key Value}
    (hget : ∀ key, (∃ value, p key value) → map.get key = other.get key) :
    map.count p = other.count p := by
  refine sum_eq_of_term_eq fun key => ?_
  unfold term
  by_cases hkey : ∃ value, p key value
  · rw [hget key hkey]
  · have hnone : ∀ value, ¬ p key value := fun value hvalue => hkey ⟨value, hvalue⟩
    cases map.get key <;> cases other.get key <;> simp [hnone]

/-- Conditions that agree on the entries count alike. -/
theorem count_congr_of_iff {q : Key → Value → Prop} [∀ key, DecidablePred (q key)]
    (hiff : ∀ key value, map.get key = some value → (p key value ↔ q key value)) :
    map.count p = map.count q :=
  map.sum_congr fun key value hget => if_congr (hiff key value hget) rfl rfl

theorem one_le_count {key : Key} {value : Value} (hget : map.get key = some value)
    (hp : p key value) : 1 ≤ map.count p := by
  have hterm := map.term_le_sum (fun key value => if p key value then 1 else 0) key
  rwa [term_of_get _ hget, if_pos hp] at hterm

variable [DecidableEq Key] {key : Key} {old : Value}

theorem count_insert (value : Value) (hget : map.get key = some old) :
    (map.insert key value).count p + (if p key old then 1 else 0) =
      map.count p + if p key value then 1 else 0 := by
  have hsum := map.sum_insert (fun key value => if p key value then 1 else 0) key value
  rwa [term_of_get _ hget] at hsum

theorem count_insert_of_none (value : Value) (hget : map.get key = none) :
    (map.insert key value).count p = map.count p + if p key value then 1 else 0 := by
  have hsum := map.sum_insert (fun key value => if p key value then 1 else 0) key value
  rwa [term_of_get_none _ hget, Nat.add_zero] at hsum

theorem count_erase (hget : map.get key = some old) :
    (map.erase key).count p + (if p key old then 1 else 0) = map.count p := by
  have hsum := map.sum_erase (fun key value => if p key value then 1 else 0) key
  rwa [term_of_get _ hget] at hsum

/-- New entries are counted once each. -/
theorem count_insertEach {ι : Type} {entries : List ι} {keyOf : ι → Key} {valueOf : ι → Value}
    (hnodup : (entries.map keyOf).Nodup) (hnew : ∀ entry ∈ entries, map.get (keyOf entry) = none) :
    (map.insertEach entries keyOf valueOf).count p =
      map.count p + entries.countP fun entry => p (keyOf entry) (valueOf entry) := by
  unfold count
  rw [sum_insertEach_of_new _ hnodup hnew]
  congr 1
  induction entries with
  | nil => rfl
  | cons entry rest ih =>
    rw [List.map_cons, List.nodup_cons] at hnodup
    rw [List.forall_mem_cons] at hnew
    rw [List.map_cons, List.sum_cons, List.countP_cons, ih hnodup.2 hnew.2, add_comm]
    simp

end Counting

end FiniteMap
