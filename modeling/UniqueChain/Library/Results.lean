import Mathlib.Data.List.Forall2
import Mathlib.Tactic.Common

/-!
# Results

Code without effects that may fail gives an `Except`.  The lemmas read a successful one
backwards.
-/

namespace Results

variable {ε α β : Type} {convert : α → Except ε β} {converted : List β} {list : List α}

theorem except_bind_ok {result : Except ε α} {next : α → Except ε β} {value : β} :
    (result >>= next) = .ok value ↔ ∃ first, result = .ok first ∧ next first = .ok value := by
  cases result with
  | error error => simp [bind, Except.bind]
  | ok first => simp [bind, Except.bind]

theorem ite_eq_ok {p : Prop} [Decidable p] {first value : α} {error : ε} :
    (if p then Except.ok first else .error error) = .ok value ↔ p ∧ first = value := by
  split
  · rename_i hp
    exact ⟨fun heq => ⟨hp, Except.ok.inj heq⟩, fun heq => congrArg _ heq.2⟩
  · rename_i hp
    exact ⟨nofun, fun heq => absurd heq.1 hp⟩

section

variable (hlist : list.mapM convert = .ok converted)

include hlist

/-- A list is converted by converting its elements one after the other. -/
theorem forall₂_of_mapM_eq_ok : List.Forall₂ (fun a b => convert a = .ok b) list converted := by
  induction list generalizing converted with
  | nil =>
    cases hlist
    exact .nil
  | cons head rest ih =>
    simp only [List.mapM_cons, except_bind_ok] at hlist
    obtain ⟨b, hhead, others, hrest, hcons⟩ := hlist
    cases hcons
    exact .cons hhead (ih hrest)

theorem exists_of_mem_of_mapM_eq_ok {a : α} (ha : a ∈ list) : ∃ b, convert a = .ok b := by
  have helements := forall₂_of_mapM_eq_ok hlist
  clear hlist
  induction helements with
  | nil => cases ha
  | cons hhead hrest ih =>
    rcases List.mem_cons.mp ha with rfl | hmem
    · exact ⟨_, hhead⟩
    · exact ih hmem

omit hlist in
/-- The same where the result of each element is known. -/
theorem eq_map_of_mapM_eq_ok {view : α → β} (hview : ∀ a b, convert a = .ok b → view a = b)
    (hlist : list.mapM convert = .ok converted) : converted = list.map view := by
  have helements := forall₂_of_mapM_eq_ok hlist
  clear hlist
  induction helements with
  | nil => rfl
  | cons hhead hrest ih => rw [List.map_cons, hview _ _ hhead, ih]

theorem filterMap_of_mapM_eq_ok : list.filterMap (fun a => (convert a).toOption) = converted := by
  have helements := forall₂_of_mapM_eq_ok hlist
  clear hlist
  induction helements with
  | nil => rfl
  | cons hhead hrest ih => rw [List.filterMap_cons_some (by rw [hhead]; rfl), ih]

end

/-- What the results have in common with the elements. -/
theorem map_eq_of_mapM_eq_ok {γ : Type} {before : α → γ} {after : β → γ}
    (hsame : ∀ a b, convert a = .ok b → after b = before a)
    (hlist : list.mapM convert = .ok converted) : converted.map after = list.map before := by
  have helements := forall₂_of_mapM_eq_ok hlist
  clear hlist
  induction helements with
  | nil => rfl
  | cons hhead hrest ih => rw [List.map_cons, List.map_cons, hsame _ _ hhead, ih]

end Results
