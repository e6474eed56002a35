import UniqueChain.Library.FiniteMap

/-!
# Amounts in groups

A store of amounts whose keys are pairs is read as a family of ledgers: the
first component names the ledger, the second the member that holds the amount.
`sumOf` is the total of one ledger.  Each way of writing to the store moves the
totals in a way that the lemmas below state with the old amount added on the
other side, so that nothing is subtracted.
-/

namespace FiniteMap

variable {Group Member : Type} [DecidableEq Group]

variable (map : FiniteMap (Group × Member) ℕ)

variable (group : Group)

/-- The total of the amounts of a group. -/
def sumOf : ℕ :=
  map.sum fun key amount => if key.1 = group then amount else 0

@[simp] theorem sumOf_empty : (empty : FiniteMap (Group × Member) ℕ).sumOf group = 0 :=
  sum_empty _

/-- What a key contributes to the total of a group. -/
theorem term_sumOf (key : Group × Member) :
    map.term (fun key amount => if key.1 = group then amount else 0) key =
      if key.1 = group then map.getD key 0 else 0 := by
  unfold term getD
  cases map.get key with
  | none => simp
  | some amount => rfl

theorem getD_le_sumOf (member : Member) : map.getD (group, member) 0 ≤ map.sumOf group := by
  have hterm := map.term_le_sum (fun key amount => if key.1 = group then amount else 0)
    (group, member)
  rwa [term_sumOf, if_pos rfl] at hterm

theorem sumOf_eraseWhere (p : Group → Prop) [DecidablePred p] (group : Group) :
    (map.eraseWhere fun key => p key.1).sumOf group = if p group then 0 else map.sumOf group := by
  unfold sumOf
  rw [sum_eraseWhere]
  by_cases hgroup : p group
  · rw [if_pos hgroup, sum_eq_zero_iff]
    intro key amount _
    by_cases hkey : key.1 = group
    · rw [if_pos (hkey ▸ hgroup)]
    · rw [if_neg hkey, ite_self]
  · rw [if_neg hgroup]
    refine sum_congr _ fun key amount _ => ?_
    by_cases hkey : key.1 = group
    · rw [if_neg (hkey ▸ hgroup)]
    · rw [if_neg hkey, ite_self]

section Writing

variable [DecidableEq Member]

theorem sumOf_insert (key : Group × Member) (amount : ℕ) (group : Group) :
    (map.insert key amount).sumOf group + (if key.1 = group then map.getD key 0 else 0) =
      map.sumOf group + if key.1 = group then amount else 0 := by
  have hsum := map.sum_insert (fun key amount => if key.1 = group then amount else 0) key amount
  rwa [term_sumOf] at hsum

theorem sumOf_putAmount (key : Group × Member) (amount : ℕ) (group : Group) :
    (map.putAmount key amount).sumOf group + (if key.1 = group then map.getD key 0 else 0) =
      map.sumOf group + if key.1 = group then amount else 0 := by
  have hsum := map.sum_putAmount (fun key amount => if key.1 = group then amount else 0) key amount
    (by simp)
  rwa [term_sumOf] at hsum

theorem sumOf_insertEach {ι : Type} {entries : List ι}
    {key : ι → Group × Member} (amount : ι → ℕ) (hnodup : (entries.map key).Nodup) (group : Group) :
    (map.insertEach entries key amount).sumOf group + (entries.map fun entry =>
        if (key entry).1 = group then map.getD (key entry) 0 else 0).sum =
      map.sumOf group + (entries.map fun entry =>
        if (key entry).1 = group then amount entry else 0).sum := by
  have hsum : (map.insertEach entries key amount).sumOf group + (entries.map fun entry =>
        map.term (fun key amount => if key.1 = group then amount else 0) (key entry)).sum =
      map.sumOf group + (entries.map fun entry =>
        if (key entry).1 = group then amount entry else 0).sum :=
    map.sum_insertEach _ hnodup
  simpa only [term_sumOf] using hsum

/-- Two members of a group hold at most its total. -/
theorem getD_add_getD_le_sumOf {first second : Member} (hne : first ≠ second) :
    map.getD (group, first) 0 + map.getD (group, second) 0 ≤ map.sumOf group := by
  have hkeys : (group, first) ≠ (group, second) := fun heq => hne (Prod.mk.inj heq).2
  have hterms := map.term_add_term_le_sum
    (fun key amount => if key.1 = group then amount else 0) hkeys
  rwa [term_sumOf, term_sumOf, if_pos rfl, if_pos rfl] at hterms

/-- A member that holds the total of its group leaves nothing to the others. -/
theorem getD_eq_zero_of_getD_eq_sumOf {map : FiniteMap (Group × Member) ℕ} {group : Group}
    {member other : Member} (hall : map.getD (group, member) 0 = map.sumOf group)
    (hother : other ≠ member) : map.getD (group, other) 0 = 0 := by
  have hboth := map.getD_add_getD_le_sumOf group hother
  omega

end Writing

end FiniteMap
