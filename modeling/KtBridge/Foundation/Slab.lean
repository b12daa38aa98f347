import Mathlib.Data.List.TakeDrop

/-! # Slabs

A slab is a list that is filled from the front: each source is written over the part
after what is used, and the parts before it stay. What is read back from a slab only
depends on the part up to where the reading ends.
-/

namespace Foundation

variable {α : Type}

/-- Write a source over the part of a slab that starts at an offset. -/
def splice (slab : List α) (offset : Nat) (source : List α) : List α :=
  slab.take offset ++ source ++ slab.drop (offset + source.length)

/-- Read a part of a slab. -/
def slice (slab : List α) (offset length : Nat) : List α := (slab.drop offset).take length

/-- Writing inside a slab keeps its length. -/
theorem length_splice {slab source : List α} {offset : Nat}
    (fits : offset + source.length ≤ slab.length) :
    (splice slab offset source).length = slab.length := by
  simp only [splice, List.length_append, List.length_take, List.length_drop]
  omega

/-- Writing leaves the part before the offset. -/
theorem take_splice {slab source : List α} {offset : Nat} (fits : offset ≤ slab.length) :
    (splice slab offset source).take offset = slab.take offset := by
  rw [splice, List.append_assoc]
  exact List.take_left' (List.length_take_of_le fits)

/-- What was written is read back. -/
theorem slice_splice {slab source : List α} {offset : Nat} (fits : offset ≤ slab.length) :
    slice (splice slab offset source) offset source.length = source := by
  rw [slice, splice, List.append_assoc, List.drop_left' (List.length_take_of_le fits)]
  exact List.take_left

/-- A part is read from what comes before its end. -/
theorem slice_of_take_eq {first second : List α} {offset length bound : Nat}
    (within : offset + length ≤ bound) (same : first.take bound = second.take bound) :
    slice first offset length = slice second offset length := by
  have read : ∀ slab : List α,
      slice slab offset length = ((slab.take bound).drop offset).take length := by
    intro slab
    rw [slice, List.drop_take, List.take_take, Nat.min_eq_left (by omega)]
  rw [read first, read second, same]

end Foundation
