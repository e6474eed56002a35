import Mathlib.Algebra.BigOperators.Group.Finset.Basic
import Mathlib.Data.Finset.Sort

/-!
# SCALE encodings and their lengths

The little-endian and compact encodings of numbers, byte strings with their length in
front, and sequences.  A compact number takes one, two or four bytes, with the number
of bytes in the two lowest bits, or a byte of its own followed by the number; the last
form is needed for numbers of 32 bits from `2 ^ 30` on.  This stands for the external
package `parity_scale_codec`.
-/

namespace Scale

/-- The bytes of a number, the lowest first. -/
def littleEndian : ℕ → ℕ → List UInt8
  | 0, _ => []
  | width + 1, value => UInt8.ofNat (value % 256) :: littleEndian width (value / 256)

@[simp] theorem length_littleEndian (width value : ℕ) :
    (littleEndian width value).length = width := by
  induction width generalizing value with
  | zero => rfl
  | succ width ih => simp [littleEndian, ih]

/-- The compact encoding of a number of 32 bits. -/
def compact (value : ℕ) : List UInt8 :=
  if value < 2 ^ 6 then littleEndian 1 (4 * value)
  else if value < 2 ^ 14 then littleEndian 2 (4 * value + 1)
  else if value < 2 ^ 30 then littleEndian 4 (4 * value + 2)
  else 3 :: littleEndian 4 value

theorem length_compact (value : ℕ) :
    (compact value).length =
      if value < 2 ^ 6 then 1
      else if value < 2 ^ 14 then 2
      else if value < 2 ^ 30 then 4
      else 5 := by
  unfold compact
  split
  · exact length_littleEndian ..
  · split
    · exact length_littleEndian ..
    · split
      · exact length_littleEndian ..
      · simp

/-- A byte string, after its length. -/
def bytes (data : List UInt8) : List UInt8 := compact data.length ++ data

/-- A sequence, after the number of its elements. -/
def sequence {α : Type} (encode : α → List UInt8) (elements : List α) : List UInt8 :=
  compact elements.length ++ elements.flatMap encode

/-- A finite set as the sequence of its elements in order. -/
theorem length_sequence_sort {α : Type} (encode : α → List UInt8) (elements : Finset α)
    (r : α → α → Prop) [DecidableRel r] [IsTrans α r] [Std.Antisymm r] [Std.Total r] :
    (sequence encode (elements.sort r)).length =
      (compact elements.card).length + ∑ element ∈ elements, (encode element).length := by
  have hsum : ((elements.sort r).map fun element => (encode element).length).sum =
      ∑ element ∈ elements, (encode element).length := by
    rw [Finset.sum, ← Finset.sort_eq elements r, Multiset.map_coe, Multiset.sum_coe]
  rw [sequence, List.length_append, List.length_flatMap, Finset.length_sort, hsum]

end Scale
