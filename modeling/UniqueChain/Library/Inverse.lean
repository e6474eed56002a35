import Mathlib.Tactic.Common

/-!
# Two partial functions that are inverse to each other

A table kept in both directions: `forward` maps a name to what it stands for,
`backward` the other way.  The lemmas say how the pair is changed without
breaking the correspondence: by a new pair, and by a new name for what is
already there.
-/

/-- `forward` and `backward` hold the same pairs. -/
def InverseMaps {α β : Type} (forward : α → Option β) (backward : β → Option α) : Prop :=
  ∀ a b, forward a = some b ↔ backward b = some a

namespace InverseMaps

variable {α β : Type} {forward : α → Option β} {backward : β → Option α}

theorem empty : InverseMaps (fun _ : α => (none : Option β)) fun _ => none := by
  intro a b
  simp

variable [DecidableEq α] [DecidableEq β] {a a' : α} {b : β}

section

variable (hinverse : InverseMaps forward backward)

include hinverse

/-- A pair of two values that occur in no pair yet. -/
theorem insert (hname : forward a = none) (hvalue : backward b = none) :
    InverseMaps (fun name => if name = a then some b else forward name)
      fun value => if value = b then some a else backward value := by
  intro name value
  have hpair := hinverse name value
  by_cases hnames : name = a
  · -- the name is new, so no other value has it
    rw [hnames, hname] at hpair
    by_cases hvalues : value = b
    · simp [hnames, hvalues]
    · simpa [hnames, hvalues, Ne.symm hvalues] using hpair
  · by_cases hvalues : value = b
    · rw [hvalues, hvalue] at hpair
      simpa [hnames, hvalues, Ne.symm hnames] using hpair
    · simpa [hnames, hvalues] using hpair

/-- Take the name of a value away. -/
theorem erase (hpair : forward a = some b) :
    InverseMaps (fun name => if name = a then none else forward name)
      fun value => if value = b then none else backward value := by
  have hback := (hinverse a b).mp hpair
  intro name value
  have hother := hinverse name value
  by_cases hnames : name = a
  · rw [hnames, hpair] at hother
    by_cases hvalues : value = b
    · simp [hnames, hvalues]
    · simpa [hnames, hvalues, Ne.symm hvalues] using hother
  · by_cases hvalues : value = b
    · rw [hvalues, hback] at hother
      simpa [hnames, hvalues, Ne.symm hnames] using hother
    · simpa [hnames, hvalues] using hother

/-- Give a value another name.  The correspondence is kept exactly if the other
name stood for nothing else. -/
theorem rename_iff (hpair : forward a = some b) :
    InverseMaps
        (fun name => if name = a' then some b else if name = a then none else forward name)
        (fun value => if value = b then some a' else if value = b then none else backward value) ↔
      forward a' = none ∨ a' = a := by
  constructor
  · intro hrenamed
    by_contra hused
    obtain ⟨hname, hne⟩ := not_or.mp hused
    obtain ⟨other, hother⟩ := Option.ne_none_iff_exists'.mp hname
    have hback := (hinverse a' other).mp hother
    have hdistinct : other ≠ b := by
      rintro rfl
      have hsame := (hinverse a other).mp hpair
      rw [hback] at hsame
      exact hne (Option.some.inj hsame)
    -- the value that lost its name still claims it
    have hclaims := (hrenamed a' other).mpr (by simpa [hdistinct] using hback)
    simp only [if_pos] at hclaims
    exact hdistinct (Option.some.inj hclaims).symm
  · intro hfree
    refine (hinverse.erase hpair).insert ?_ (if_pos rfl)
    by_cases hne : a' = a
    · exact if_pos hne
    · rw [if_neg hne]
      exact hfree.resolve_right hne

end

end InverseMaps
