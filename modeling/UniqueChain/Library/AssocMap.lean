import UniqueChain.Library.FiniteMap
import Mathlib.Data.List.Nodup

/-!
# Association maps

An in-memory map that is iterated over: a list of entries whose keys are
pairwise different.  The order of the entries is the order of iteration; no
lemma depends on which order it is.
-/

/-- A list of entries with different keys. -/
structure AssocMap (Key Value : Type) where
  entries : List (Key × Value)
  nodup_keys : (entries.map Prod.fst).Nodup

namespace AssocMap

variable {Key Value : Type}

variable (map : AssocMap Key Value)

/-- The keys in order. -/
def keys : List Key := map.entries.map Prod.fst

/-- The values in order. -/
def values : List Value := map.entries.map Prod.snd

/-- No entries. -/
def empty : AssocMap Key Value := ⟨[], List.nodup_nil⟩

variable [DecidableEq Key] {entries : List (Key × Value)} {key : Key} {value : Value}

/-- Look a key up in a list of entries. -/
def lookup (key : Key) : List (Key × Value) → Option Value
  | [] => none
  | entry :: rest => if entry.1 = key then some entry.2 else lookup key rest

/-- The value of a key. -/
def get (key : Key) : Option Value := lookup key map.entries

/-- Write an entry in place, or at the end if the key is new. -/
def upsert (key : Key) (value : Value) : List (Key × Value) → List (Key × Value)
  | [] => [(key, value)]
  | entry :: rest =>
    if entry.1 = key then (key, value) :: rest else entry :: upsert key value rest

theorem mem_keys_upsert {key other : Key} :
    other ∈ (upsert key value entries).map Prod.fst ↔
      other = key ∨ other ∈ entries.map Prod.fst := by
  induction entries with
  | nil => simp [upsert]
  | cons entry rest ih =>
    unfold upsert
    split
    · rename_i hentry
      simp only [List.map_cons, List.mem_cons, hentry]
      tauto
    · simp only [List.map_cons, List.mem_cons, ih]
      tauto

theorem nodup_keys_upsert
    (hnodup : (entries.map Prod.fst).Nodup) : ((upsert key value entries).map Prod.fst).Nodup := by
  induction entries with
  | nil => simp [upsert]
  | cons entry rest ih =>
    rw [List.map_cons, List.nodup_cons] at hnodup
    unfold upsert
    split
    · rename_i hentry
      simpa [← hentry] using hnodup
    · rename_i hentry
      rw [List.map_cons, List.nodup_cons, mem_keys_upsert]
      exact ⟨fun h => h.elim hentry hnodup.1, ih hnodup.2⟩

/-- Replaces the value of a key or appends an entry. -/
def insert (key : Key) (value : Value) : AssocMap Key Value :=
  ⟨upsert key value map.entries, nodup_keys_upsert map.nodup_keys⟩

@[simp] theorem get_empty (key : Key) : (empty : AssocMap Key Value).get key = none := rfl

theorem lookup_upsert (key other : Key) (value : Value) (entries : List (Key × Value)) :
    lookup other (upsert key value entries) =
      if other = key then some value else lookup other entries := by
  induction entries with
  | nil => simp [upsert, lookup, eq_comm]
  | cons entry rest ih =>
    unfold upsert
    by_cases hentry : entry.1 = key
    · by_cases hother : other = key
      · simp [hentry, lookup, hother]
      · simp [hentry, lookup, hother, Ne.symm hother]
    · simp only [if_neg hentry, lookup, ih]
      by_cases hother : entry.1 = other
      · have hne : other ≠ key := hother ▸ hentry
        simp [hother, hne]
      · simp [hother]

theorem get_insert (key other : Key) (value : Value) :
    (map.insert key value).get other = if other = key then some value else map.get other :=
  lookup_upsert key other value map.entries

theorem lookup_eq_none_of_not_mem
    (hkey : key ∉ entries.map Prod.fst) : lookup key entries = none := by
  induction entries with
  | nil => rfl
  | cons entry rest ih =>
    simp only [List.map_cons, List.mem_cons, not_or] at hkey
    simp [lookup, Ne.symm hkey.1, ih hkey.2]

theorem get_eq_some_of_mem {map : AssocMap Key Value} {entry : Key × Value}
    (hentry : entry ∈ map.entries) : map.get entry.1 = some entry.2 := by
  obtain ⟨entries, hnodup⟩ := map
  unfold get
  induction entries with
  | nil => simp at hentry
  | cons head rest ih =>
    rw [List.map_cons, List.nodup_cons] at hnodup
    rcases List.mem_cons.mp hentry with rfl | hrest
    · simp [lookup]
    · have hne : head.1 ≠ entry.1 := fun heq =>
        hnodup.1 (heq ▸ List.mem_map_of_mem hrest)
      simpa [lookup, hne] using ih hnodup.2 hrest

theorem mem_of_get_eq_some {map : AssocMap Key Value}
    (hget : map.get key = some value) : (key, value) ∈ map.entries := by
  obtain ⟨entries, hnodup⟩ := map
  unfold get at hget
  induction entries with
  | nil => cases hget
  | cons head rest ih =>
    unfold lookup at hget
    split at hget
    · rename_i hhead
      cases hget
      subst hhead
      exact List.mem_cons_self ..
    · exact List.mem_cons_of_mem _ (ih (List.nodup_cons.mp hnodup).2 hget)

/-! ## Collecting a list -/

/-- The map that a list of entries is collected to; a later entry of a key replaces the
earlier one. -/
def ofList (list : List (Key × Value)) : AssocMap Key Value :=
  list.foldl (fun map entry => map.insert entry.1 entry.2) empty

theorem get_foldl_insert (list : List (Key × Value)) (map : AssocMap Key Value) (key : Key) :
    (list.foldl (fun map entry => map.insert entry.1 entry.2) map).get key =
      ((ofList list).get key).or (map.get key) := by
  induction list generalizing map with
  | nil => rfl
  | cons entry rest ih =>
    rw [ofList, List.foldl_cons, List.foldl_cons, ih, ih, Option.or_assoc]
    congr 1
    rw [get_insert, get_insert, get_empty]
    split
    · rfl
    · rfl

theorem get_ofList_cons (entry : Key × Value) (rest : List (Key × Value)) (key : Key) :
    (ofList (entry :: rest)).get key =
      ((ofList rest).get key).or (if key = entry.1 then some entry.2 else none) := by
  rw [ofList, List.foldl_cons, get_foldl_insert, get_insert, get_empty]

theorem get_ofList_eq_none_iff {list : List (Key × Value)} :
    (ofList list).get key = none ↔ ∀ entry ∈ list, entry.1 ≠ key := by
  induction list with
  | nil => exact iff_of_true rfl nofun
  | cons entry rest ih =>
    have hhead : (if key = entry.1 then some entry.2 else none) = none ↔ entry.1 ≠ key := by
      rw [ite_eq_right_iff]
      exact ⟨fun hnone heq => Option.some_ne_none _ (hnone heq.symm),
        fun hne heq => absurd heq.symm hne⟩
    rw [get_ofList_cons, Option.or_eq_none_iff, ih, hhead, List.forall_mem_cons, and_comm]

section Amounts

/-- All that a list has for a key. -/
def listed (key : Key) (list : List (Key × ℕ)) : ℕ :=
  ((list.filter fun entry => entry.1 = key).map Prod.snd).sum

/-- An entry whose key is listed again later has nothing to lose. -/
def NothingLost (list : List (Key × ℕ)) : Prop :=
  list.Pairwise fun earlier later => earlier.1 = later.1 → earlier.2 = 0

instance (list : List (Key × ℕ)) : Decidable (NothingLost list) :=
  inferInstanceAs (Decidable (List.Pairwise _ _))

theorem listed_cons (key : Key) (entry : Key × ℕ) (rest : List (Key × ℕ)) :
    listed key (entry :: rest) = (if entry.1 = key then entry.2 else 0) + listed key rest := by
  unfold listed
  by_cases hentry : entry.1 = key
  · simp [hentry]
  · simp [hentry]

variable {list : List (Key × ℕ)}

theorem listed_eq_zero (hnone : ∀ entry ∈ list, entry.1 ≠ key) : listed key list = 0 := by
  unfold listed
  rw [List.filter_eq_nil_iff.mpr fun entry hentry => by simpa using hnone entry hentry]
  rfl

/-- What is stored for a key is at most what is listed for it. -/
theorem getD_ofList_le (list : List (Key × ℕ)) (key : Key) :
    ((ofList list).get key).getD 0 ≤ listed key list := by
  induction list with
  | nil => exact Nat.zero_le _
  | cons entry rest ih =>
    rw [get_ofList_cons, listed_cons]
    cases hrest : (ofList rest).get key with
    | some amount =>
      rw [hrest] at ih
      exact Nat.le_add_left_of_le ih
    | none =>
      by_cases hentry : entry.1 = key
      · rw [if_pos hentry.symm, if_pos hentry]
        exact Nat.le_add_right ..
      · rw [if_neg (Ne.symm hentry)]
        exact Nat.zero_le _

/-- What one more entry in front changes: its amount is lost if its key is listed again. -/
theorem getD_ofList_cons_eq_iff {entry : Key × ℕ} {rest : List (Key × ℕ)} :
    ((ofList (entry :: rest)).get key).getD 0 = listed key (entry :: rest) ↔
      ((ofList rest).get key).getD 0 = listed key rest ∧
        (entry.1 = key → (∃ later ∈ rest, later.1 = key) → entry.2 = 0) := by
  have hle := getD_ofList_le rest key
  rw [get_ofList_cons, listed_cons]
  cases hrest : (ofList rest).get key with
  | some amount =>
    have hlater : ∃ later ∈ rest, later.1 = key := by
      by_contra hnone
      push Not at hnone
      rw [get_ofList_eq_none_iff.mpr hnone] at hrest
      cases hrest
    rw [hrest] at hle
    simp only [Option.some_or, Option.getD_some] at hle ⊢
    by_cases hentry : entry.1 = key
    · rw [if_pos hentry]
      constructor
      · intro hsum
        exact ⟨by omega, fun _ _ => by omega⟩
      · rintro ⟨hsame, hzero⟩
        have hlost := hzero hentry hlater
        omega
    · rw [if_neg hentry, Nat.zero_add]
      exact ⟨fun hsame => ⟨hsame, fun heq => absurd heq hentry⟩, And.left⟩
  | none =>
    have hnone := get_ofList_eq_none_iff.mp hrest
    have hzero := listed_eq_zero hnone
    by_cases hentry : entry.1 = key
    · rw [if_pos hentry, if_pos hentry.symm, hzero]
      refine iff_of_true rfl ⟨rfl, ?_⟩
      rintro _ ⟨later, hlater, hkey⟩
      exact absurd hkey (hnone later hlater)
    · rw [if_neg hentry, if_neg (Ne.symm hentry), hzero]
      exact iff_of_true rfl ⟨rfl, fun heq => absurd heq hentry⟩

/-- The map has all that is listed for each key, exactly if nothing is lost. -/
theorem getD_ofList_eq_listed_iff :
    (∀ key, ((ofList list).get key).getD 0 = listed key list) ↔ NothingLost list := by
  induction list with
  | nil => exact iff_of_true (fun _ => rfl) List.Pairwise.nil
  | cons entry rest ih =>
    rw [forall_congr' fun _ => getD_ofList_cons_eq_iff, forall_and, ih]
    unfold NothingLost
    rw [List.pairwise_cons, and_comm]
    refine and_congr_left fun _ => ⟨?_, ?_⟩
    · intro hzero later hlater heq
      exact hzero later.1 heq ⟨later, hlater, rfl⟩
    · rintro hzero key heq ⟨later, hlater, hkey⟩
      exact hzero later hlater (heq.trans hkey.symm)

theorem sum_upsert (key : Key) (amount : ℕ) (entries : List (Key × ℕ)) :
    ((upsert key amount entries).map Prod.snd).sum + (lookup key entries).getD 0 =
      (entries.map Prod.snd).sum + amount := by
  induction entries with
  | nil => simp [upsert, lookup]
  | cons entry rest ih =>
    unfold upsert lookup
    split
    · simp only [List.map_cons, List.sum_cons, Option.getD_some]
      omega
    · simp only [List.map_cons, List.sum_cons]
      omega

/-- If nothing is lost, the map has all that is listed. -/
theorem sum_values_ofList (hkept : NothingLost list) :
    (ofList list).values.sum = (list.map Prod.snd).sum := by
  have hloop : ∀ (map : AssocMap Key ℕ), (∀ entry ∈ list, (map.get entry.1).getD 0 = 0) →
      (list.foldl (fun map entry => map.insert entry.1 entry.2) map).values.sum =
        map.values.sum + (list.map Prod.snd).sum := by
    induction list with
    | nil => exact fun _ _ => rfl
    | cons entry rest ih =>
      intro map hnew
      obtain ⟨hhead, hrest⟩ := List.pairwise_cons.mp hkept
      rw [List.forall_mem_cons] at hnew
      rw [List.foldl_cons, ih hrest, List.map_cons, List.sum_cons]
      · have hsum := sum_upsert entry.1 entry.2 map.entries
        have hold : (lookup entry.1 map.entries).getD 0 = 0 := hnew.1
        rw [hold] at hsum
        change ((upsert entry.1 entry.2 map.entries).map Prod.snd).sum + _ =
          (map.entries.map Prod.snd).sum + _
        omega
      · intro later hlater
        rw [get_insert]
        split
        · rename_i heq
          exact hhead later hlater heq.symm
        · exact hnew.2 later hlater
  have hall := hloop empty fun _ _ => rfl
  rwa [show (empty : AssocMap Key ℕ).values.sum = 0 from rfl, Nat.zero_add] at hall

end Amounts

/-! ## Writing all entries to a store -/

/-- Copying the entries of an association map to a store, under keys made by an
injective `key`. -/
theorem get_insertEach {Stored : Type} [DecidableEq Stored] {key : Key → Stored}
    (hkey : Function.Injective key) (entries : List (Key × Value))
    (hnodup : (entries.map Prod.fst).Nodup) (store : FiniteMap Stored Value) (other : Key) :
    (store.insertEach entries (fun entry => key entry.1) Prod.snd).get (key other) =
      (lookup other entries).or (store.get (key other)) := by
  induction entries generalizing store with
  | nil => simp [lookup]
  | cons entry rest ih =>
    rw [List.map_cons, List.nodup_cons] at hnodup
    rw [FiniteMap.insertEach_cons, ih hnodup.2, FiniteMap.get_insert]
    by_cases hentry : entry.1 = other
    · subst hentry
      simp [lookup, lookup_eq_none_of_not_mem hnodup.1]
    · have hne : key other ≠ key entry.1 := fun heq => hentry (hkey heq).symm
      simp [lookup, hentry, hne]

end AssocMap
