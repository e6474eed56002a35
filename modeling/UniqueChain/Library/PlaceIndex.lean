import Mathlib.Tactic.Common

/-!
# An index of places

Some members of a type are holders, and some members stand at a place.  An index
of places is exact if it has an entry for a place exactly when a holder stands
there.  Holders may be added together with the entries of their places.  A holder
may be taken out together with the entry of its place only if it was the only
holder there; this is the one side condition an exact index needs.
-/

variable {Member Place : Type}

/-- The entries are those of the places at which a holder stands. -/
def IndexExact (place : Member → Option Place) (Holds : Member → Prop) (Entry : Place → Prop) :
    Prop :=
  ∀ spot, Entry spot ↔ ∃ member, place member = some spot ∧ Holds member

namespace IndexExact

variable {place : Member → Option Place} {Holds Holds' : Member → Prop}
  {Entry Entry' : Place → Prop}

theorem congr (hexact : IndexExact place Holds Entry)
    (hholds : ∀ member, Holds' member ↔ Holds member) (hentry : ∀ spot, Entry' spot ↔ Entry spot) :
    IndexExact place Holds' Entry' := by
  intro spot
  rw [hentry, hexact spot]
  simp only [hholds]

end IndexExact
