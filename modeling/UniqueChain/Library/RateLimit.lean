import Mathlib.Data.List.Pairwise
import Mathlib.Data.Nat.Notation
import Mathlib.Order.Nat
import Mathlib.Tactic.Common

/-!
# Rate limits

Something may be done again only after a number of blocks.  The block of the last time
is kept as an entry, and the sum of the entry and the limit is computed in integers of
a fixed width, where it may wrap.

`Guarded` is what such an entry guarantees about the log of all the times.  Two times
are at least the limit apart exactly if the earlier one and the limit fit in the width.
The entry may be forgotten when it has expired, or when nothing can be done any more.
-/

namespace RateLimit

/-- The entry, if there is one, lies back by the limit. -/
def passes (width limit now : ℕ) (entry : Option ℕ) : Bool :=
  entry.all fun last => (last + limit) % width ≤ now

/-- The entry protects the times of the log, the latest first. -/
structure Guarded (width limit now : ℕ) (entry : Option ℕ) (closed : Prop) (log : List ℕ) :
    Prop where
  past : ∀ block ∈ log, block ≤ now
  entry_past : ∀ last, entry = some last → last ≤ now
  kept : ∀ block ∈ log, block + limit < width →
    closed ∨ block + limit ≤ now ∨
      ∃ last, entry = some last ∧ (last = block ∨ block + limit ≤ last)
  apart : log.Pairwise fun later earlier => earlier + limit ≤ later ↔ earlier + limit < width

namespace Guarded

variable {width limit now now' : ℕ} {entry : Option ℕ} {closed closed' : Prop} {log : List ℕ}

theorem empty : Guarded width limit now none closed [] :=
  ⟨nofun, nofun, nofun, List.Pairwise.nil⟩

section

variable (hguarded : Guarded width limit now entry closed log)

include hguarded

/-- Time passes. -/
theorem advance (hnow : now ≤ now') : Guarded width limit now' entry closed log where
  past block hblock := (hguarded.past block hblock).trans hnow
  entry_past last hlast := (hguarded.entry_past last hlast).trans hnow
  kept block hblock hwidth := by
    rcases hguarded.kept block hblock hwidth with hclosed | hold | hentry
    · exact .inl hclosed
    · exact .inr (.inl (hold.trans hnow))
    · exact .inr (.inr hentry)
  apart := hguarded.apart

theorem mono (hclosed : closed → closed') : Guarded width limit now entry closed' log :=
  ⟨hguarded.past, hguarded.entry_past,
    fun block hblock hwidth => (hguarded.kept block hblock hwidth).imp_left hclosed,
    hguarded.apart⟩

/-- When the check passes, the limit has passed since every earlier time. -/
theorem lapsed (hopen : ¬ closed)
    (hpasses : passes width limit now entry = true) {block : ℕ} (hblock : block ∈ log)
    (hwidth : block + limit < width) : block + limit ≤ now := by
  rcases hguarded.kept block hblock hwidth with hclosed | hold | ⟨last, rfl, hlast⟩
  · exact absurd hclosed hopen
  · exact hold
  · rcases hlast with rfl | hlater
    · simpa [passes, Nat.mod_eq_of_lt hwidth] using hpasses
    · exact hlater.trans (hguarded.entry_past last rfl)

/-- One more time, after the check. -/
theorem grant (hopen : ¬ closed)
    (hnow : now < width) (hpasses : passes width limit now entry = true) :
    Guarded width limit now (some now) closed' (now :: log) where
  past := by
    intro block hblock
    rcases List.mem_cons.mp hblock with rfl | hearlier
    · exact Nat.le_refl _
    · exact hguarded.past block hearlier
  entry_past := by
    rintro last ⟨⟩
    exact Nat.le_refl _
  kept := by
    intro block hblock hwidth
    rcases List.mem_cons.mp hblock with rfl | hearlier
    · exact .inr (.inr ⟨_, rfl, .inl rfl⟩)
    · exact .inr (.inl (hguarded.lapsed hopen hpasses hearlier hwidth))
  apart := by
    refine List.pairwise_cons.mpr ⟨fun earlier hearlier => ⟨fun happart => ?_, ?_⟩, hguarded.apart⟩
    · exact happart.trans_lt hnow
    · exact hguarded.lapsed hopen hpasses hearlier

/-- An entry that has expired is not needed any more. -/
theorem forget (hexpired : ∀ last, entry = some last → last + limit ≤ now) :
    Guarded width limit now none closed log where
  past := hguarded.past
  entry_past := nofun
  kept block hblock hwidth := by
    rcases hguarded.kept block hblock hwidth with hclosed | hold | ⟨last, hentry, hlast⟩
    · exact .inl hclosed
    · exact .inr (.inl hold)
    · have hlimit := hexpired last hentry
      refine .inr (.inl ?_)
      rcases hlast with rfl | hlater
      · exact hlimit
      · exact hlater.trans ((Nat.le_add_right ..).trans hlimit)
  apart := hguarded.apart

/-- Where nothing can be done any more, no entry is needed. -/
theorem close (hclosed : closed') : Guarded width limit now none closed' log :=
  ⟨hguarded.past, nofun, fun _ _ _ => .inl hclosed, hguarded.apart⟩

end

end Guarded

/-- The blocks to wait, computed with a sum that saturates, are right for every later block
exactly if the sum fits in the width, or if there is no later block. -/
theorem passes_after_iff {top limit now last : ℕ} (hnow : now ≤ top) (hlast : last ≤ now)
    (hlimit : limit ≤ top) :
    (∀ k, now + k ≤ top → (passes (top + 1) limit (now + k) (some last) = true ↔
        min (last + limit) top - now ≤ k)) ↔
      now = top ∨ last + limit ≤ top := by
  simp only [passes, Option.all_some, decide_eq_true_eq]
  by_cases hfits : last + limit ≤ top
  · rw [Nat.mod_eq_of_lt (Nat.lt_succ_of_le hfits)]
    refine iff_of_true (fun k hk => ?_) (.inr hfits)
    omega
  · have hwrapped : (last + limit) % (top + 1) = last + limit - (top + 1) := by
      rw [Nat.mod_eq_sub_mod (by omega), Nat.mod_eq_of_lt (by omega)]
    rw [hwrapped]
    constructor
    · intro hright
      by_contra hlater
      -- one block before the last, the withdrawal is granted but not predicted
      have hbefore := hright (top - 1 - now) (by omega)
      omega
    · intro hend k hk
      omega

end RateLimit
