import Mathlib.Data.List.Sort
import UniqueChain.Library.FiniteMap

/-!
# Iteration over a finite map

A store is iterated in a fixed order of its keys, given by a rank that tells
different keys apart.  `entries` lists the whole store in that order and
`entriesAfter` what comes strictly after a key, whether or not the key is there.

The list is computed by insertion, so that it can be evaluated; that it does not
depend on how the set of keys is represented is what the rank is needed for.
-/

namespace FiniteMap

section Ranked

variable {Key : Type} {rank : Key → ℕ}

/-- The members of a finite set in ascending order of their rank. -/
def ranked (rank : Key → ℕ) (hrank : Function.Injective rank) (keys : Finset Key) : List Key :=
  Quot.liftOn keys.val (List.insertionSort (rank · ≤ rank ·)) fun first second hperm => by
    have htotal : Std.Total (fun a b : Key => rank a ≤ rank b) := ⟨fun a b => Nat.le_total _ _⟩
    have htrans : IsTrans Key (fun a b : Key => rank a ≤ rank b) :=
      ⟨fun a b c => Nat.le_trans⟩
    have hanti : Std.Antisymm (fun a b : Key => rank a ≤ rank b) :=
      ⟨fun a b hab hba => hrank (Nat.le_antisymm hab hba)⟩
    exact List.Perm.eq_of_pairwise (fun a b _ _ hab hba => hanti.antisymm a b hab hba)
      (List.pairwise_insertionSort _ first) (List.pairwise_insertionSort _ second)
      (((List.perm_insertionSort _ first).trans hperm).trans
        (List.perm_insertionSort _ second).symm)

variable (hrank : Function.Injective rank) (keys : Finset Key)

theorem ranked_perm : (ranked rank hrank keys : Multiset Key) = keys.val := by
  obtain ⟨members, hnodup⟩ := keys
  induction members using Quot.inductionOn with
  | h members => exact Quot.sound (List.perm_insertionSort _ members)

theorem mem_ranked {key : Key} : key ∈ ranked rank hrank keys ↔ key ∈ keys := by
  rw [← Multiset.mem_coe, ranked_perm, Finset.mem_val]

theorem nodup_ranked : (ranked rank hrank keys).Nodup := by
  rw [← Multiset.coe_nodup, ranked_perm]
  exact keys.nodup

theorem pairwise_ranked :
    (ranked rank hrank keys).Pairwise fun first second => rank first < rank second := by
  have hle : (ranked rank hrank keys).Pairwise fun first second => rank first ≤ rank second := by
    have htotal : Std.Total (fun a b : Key => rank a ≤ rank b) := ⟨fun a b => Nat.le_total _ _⟩
    have htrans : IsTrans Key (fun a b : Key => rank a ≤ rank b) :=
      ⟨fun a b c => Nat.le_trans⟩
    obtain ⟨members, hnodup⟩ := keys
    induction members using Quot.inductionOn with
    | h members => exact List.pairwise_insertionSort _ members
  refine (hle.and (nodup_ranked hrank keys)).imp fun {first second} h => ?_
  exact Nat.lt_of_le_of_ne h.1 fun heq => h.2 (hrank heq)

end Ranked

section Entries

variable {Key Value : Type} {rank : Key → ℕ} (hrank : Function.Injective rank)
  (map : FiniteMap Key Value) {entry : Key × Value}

/-- The entries of a map under the given keys. -/
def entriesAt (keys : List Key) : List (Key × Value) :=
  keys.filterMap fun key => (map.get key).map (key, ·)

theorem mem_entriesAt {keys : List Key} :
    entry ∈ map.entriesAt keys ↔ entry.1 ∈ keys ∧ map.get entry.1 = some entry.2 := by
  simp only [entriesAt, List.mem_filterMap, Option.map_eq_some_iff]
  constructor
  · rintro ⟨key, hkey, value, hget, rfl⟩
    exact ⟨hkey, hget⟩
  · rintro ⟨hkey, hget⟩
    exact ⟨entry.1, hkey, entry.2, hget, rfl⟩

theorem map_fst_entriesAt {keys : List Key} (hkeys : ∀ key ∈ keys, map.get key ≠ none) :
    (map.entriesAt keys).map Prod.fst = keys := by
  induction keys with
  | nil => rfl
  | cons key rest ih =>
    obtain ⟨value, hvalue⟩ := Option.ne_none_iff_exists'.mp (hkeys key (List.mem_cons_self ..))
    have hrest := ih fun other hother => hkeys other (List.mem_cons_of_mem _ hother)
    simp only [entriesAt] at hrest ⊢
    simp [hvalue, hrest]

/-- All entries, in the order of the iteration. -/
def entries : List (Key × Value) := map.entriesAt (ranked rank hrank map.support)

theorem mem_entries : entry ∈ map.entries hrank ↔ map.get entry.1 = some entry.2 := by
  rw [entries, mem_entriesAt, mem_ranked, map.mem_support]
  exact ⟨And.right, fun hget => ⟨by simp [hget], hget⟩⟩

theorem map_fst_entries : (map.entries hrank).map Prod.fst = ranked rank hrank map.support :=
  map.map_fst_entriesAt fun key hkey => by
    rw [mem_ranked, map.mem_support] at hkey
    exact Option.isSome_iff_ne_none.mp hkey

theorem pairwise_entries :
    (map.entries hrank).Pairwise fun first second => rank first.1 < rank second.1 := by
  have hkeys := pairwise_ranked hrank map.support
  rwa [← map_fst_entries, List.pairwise_map] at hkeys

theorem nodup_map_fst_entries : ((map.entries hrank).map Prod.fst).Nodup := by
  rw [map_fst_entries]
  exact nodup_ranked hrank map.support

/-- The entries that come strictly after a key. -/
def entriesAfter (cursor : Key) : List (Key × Value) :=
  (map.entries hrank).filter fun entry => rank cursor < rank entry.1

theorem mem_entriesAfter {cursor : Key} :
    entry ∈ map.entriesAfter hrank cursor ↔
      map.get entry.1 = some entry.2 ∧ rank cursor < rank entry.1 := by
  rw [entriesAfter, List.mem_filter, mem_entries, decide_eq_true_iff]

/-- Lists in the order of the iteration that have the same members are the same. -/
theorem eq_of_pairwise_rank {first second : List (Key × Value)}
    (hfirst : first.Pairwise fun earlier later => rank earlier.1 < rank later.1)
    (hsecond : second.Pairwise fun earlier later => rank earlier.1 < rank later.1)
    (hmem : ∀ entry, entry ∈ first ↔ entry ∈ second) : first = second := by
  have hnodup : ∀ {entries : List (Key × Value)},
      entries.Pairwise (fun earlier later => rank earlier.1 < rank later.1) → entries.Nodup := by
    intro entries hentries
    refine List.Pairwise.imp ?_ hentries
    rintro earlier _ hlt rfl
    exact Nat.lt_irrefl _ hlt
  have hperm := (List.perm_ext_iff_of_nodup (hnodup hfirst) (hnodup hsecond)).mpr hmem
  exact hperm.eq_of_pairwise (fun _ _ _ _ hlt hgt => absurd (hlt.trans hgt) (Nat.lt_irrefl _))
    hfirst hsecond

end Entries

section Prefix

variable {Member Value : Type} [DecidableEq Member] (map : FiniteMap (Member × ℕ) Value)
  (member : Member)

/-- The numbers under which a member has entries, in ascending order. -/
def prefixNumbers : List ℕ :=
  ranked id Function.injective_id
    ((map.support.filter fun key => key.1 = member).image Prod.snd)

theorem mem_prefixNumbers {number : ℕ} :
    number ∈ map.prefixNumbers member ↔ map.get (member, number) ≠ none := by
  rw [prefixNumbers, mem_ranked, Finset.mem_image, ← Option.isSome_iff_ne_none, ← map.mem_support]
  constructor
  · rintro ⟨⟨_, _⟩, hkey, rfl⟩
    obtain ⟨hmem, rfl⟩ := Finset.mem_filter.mp hkey
    exact hmem
  · intro hmem
    exact ⟨(member, number), Finset.mem_filter.mpr ⟨hmem, rfl⟩, rfl⟩

/-- The entries of a member, in ascending order of their numbers. -/
def prefixEntries : List (ℕ × Value) :=
  (map.prefixNumbers member).filterMap fun number => (map.get (member, number)).map (number, ·)

theorem mem_prefixEntries {entry : ℕ × Value} :
    entry ∈ map.prefixEntries member ↔ map.get (member, entry.1) = some entry.2 := by
  simp only [prefixEntries, List.mem_filterMap, Option.map_eq_some_iff]
  constructor
  · rintro ⟨number, _, value, hget, rfl⟩
    exact hget
  · intro hget
    exact ⟨entry.1, (map.mem_prefixNumbers member).mpr (by simp [hget]), entry.2, hget, rfl⟩

theorem map_fst_prefixEntries :
    (map.prefixEntries member).map Prod.fst = map.prefixNumbers member := by
  have hpresent : ∀ number ∈ map.prefixNumbers member, map.get (member, number) ≠ none :=
    fun number hnumber => (map.mem_prefixNumbers member).mp hnumber
  unfold prefixEntries
  generalize map.prefixNumbers member = numbers at hpresent
  induction numbers with
  | nil => rfl
  | cons number rest ih =>
    obtain ⟨value, hvalue⟩ :=
      Option.ne_none_iff_exists'.mp (hpresent number (List.mem_cons_self ..))
    have hrest := ih fun other hother => hpresent other (List.mem_cons_of_mem _ hother)
    simp [hvalue, hrest]

theorem nodup_map_fst_prefixEntries : ((map.prefixEntries member).map Prod.fst).Nodup := by
  rw [map_fst_prefixEntries]
  exact nodup_ranked ..

theorem pairwise_prefixEntries :
    (map.prefixEntries member).Pairwise fun first second => first.1 < second.1 := by
  have hnumbers : (map.prefixNumbers member).Pairwise (· < ·) :=
    pairwise_ranked Function.injective_id _
  rwa [← map_fst_prefixEntries, List.pairwise_map] at hnumbers

/-- The entries of a member are the ascending list of what is stored for it. -/
theorem prefixEntries_eq {entries : List (ℕ × Value)}
    (hascending : entries.Pairwise fun first second => first.1 < second.1)
    (hmem : ∀ entry, entry ∈ entries ↔ map.get (member, entry.1) = some entry.2) :
    map.prefixEntries member = entries :=
  @eq_of_pairwise_rank ℕ Value id _ _ (map.pairwise_prefixEntries member) hascending
    fun entry => (map.mem_prefixEntries member).trans (hmem entry).symm

/-- The sum over the entries of one member. -/
theorem sum_prefixEntries (f : Value → ℕ) :
    ((map.prefixEntries member).map fun entry => f entry.2).sum =
      map.sum fun key value => if key.1 = member then f value else 0 := by
  have hterm : ((map.prefixEntries member).map fun entry => f entry.2) =
      (map.prefixNumbers member).map fun number =>
        map.term (fun _ value => f value) (member, number) := by
    rw [← map_fst_prefixEntries, List.map_map]
    refine List.map_congr_left fun entry hentry => ?_
    exact (term_of_get (fun _ value => f value)
      ((map.mem_prefixEntries member).mp hentry)).symm
  have hsum : map.sum (fun key value => if key.1 = member then f value else 0) =
      ∑ key ∈ map.support.filter (fun key => key.1 = member),
        map.term (fun _ value => f value) key := by
    rw [FiniteMap.sum, Finset.sum_filter]
    refine Finset.sum_congr rfl fun key _ => ?_
    unfold term
    cases map.get key with
    | none => simp
    | some value => rfl
  have hinjective : Set.InjOn Prod.snd
      ((map.support.filter fun key => key.1 = member : Finset (Member × ℕ)) :
        Set (Member × ℕ)) := by
    rintro ⟨_, _⟩ hfirst ⟨_, _⟩ hsecond heq
    have hone := (Finset.mem_filter.mp (Finset.mem_coe.mp hfirst)).2
    have htwo := (Finset.mem_filter.mp (Finset.mem_coe.mp hsecond)).2
    exact Prod.ext (hone.trans htwo.symm) heq
  have himage : ∑ key ∈ map.support.filter (fun key => key.1 = member),
        map.term (fun _ value => f value) key =
      ∑ number ∈ (map.support.filter fun key => key.1 = member).image Prod.snd,
        map.term (fun _ value => f value) (member, number) := by
    rw [Finset.sum_image hinjective]
    refine Finset.sum_congr rfl fun key hkey => ?_
    rw [← (Finset.mem_filter.mp hkey).2]
  rw [hterm, hsum, himage, Finset.sum, ← ranked_perm Function.injective_id, Multiset.map_coe,
    Multiset.sum_coe]
  rfl

variable {map member} in
/-- Where only the entries of one member change, a sum changes by what they contribute. -/
theorem sum_add_prefixEntries {other : FiniteMap (Member × ℕ) Value} (f : Value → ℕ)
    (hothers : ∀ key, key.1 ≠ member → other.get key = map.get key) :
    (other.sum fun _ value => f value) +
        ((map.prefixEntries member).map fun entry => f entry.2).sum =
      (map.sum fun _ value => f value) +
        ((other.prefixEntries member).map fun entry => f entry.2).sum := by
  have hsplit : ∀ whole : FiniteMap (Member × ℕ) Value, (whole.sum fun _ value => f value) =
      ((whole.eraseWhere fun key => key.1 = member).sum fun _ value => f value) +
        ((whole.prefixEntries member).map fun entry => f entry.2).sum := by
    intro whole
    rw [sum_eraseWhere, sum_prefixEntries]
    unfold FiniteMap.sum
    rw [← Finset.sum_add_distrib]
    refine Finset.sum_congr rfl fun key _ => ?_
    unfold term
    cases whole.get key with
    | none => rfl
    | some value => by_cases hkey : key.1 = member <;> simp [hkey]
  have hsame : (other.eraseWhere fun key => key.1 = member) =
      map.eraseWhere fun key => key.1 = member := by
    refine ext_get fun key => ?_
    rw [get_eraseWhere, get_eraseWhere]
    split
    · rfl
    · rename_i hkey
      exact hothers key hkey
  rw [hsplit other, hsplit map, hsame]
  omega

end Prefix

end FiniteMap
