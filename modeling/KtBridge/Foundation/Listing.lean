import Mathlib.Data.Finset.Lattice.Basic
import Mathlib.Data.Finset.Basic

/-! # Listing a collection that others change

A concurrent collection is made a list in two looks: first its size is read, then as much
is read of it as the size asks for. The size is an estimate while others change the
collection. A look at one element takes the first an iterator comes to, and throws where
it comes to none; a longer look has at least whatever stayed in the collection.
-/

namespace Foundation

variable {Item : Type} {size : Nat} {stayed present : Finset Item} {listed : List Item}

/-- What a list may be, after `size` was read: `stayed` has been in the collection all the
time since, and `present` is in it now. -/
def Lists (size : Nat) (stayed present : Finset Item) (listed : List Item) : Prop :=
  match size with
  | 0 => listed = []
  | 1 => listed.length = 1 ∧ ∀ item ∈ listed, item ∈ present
  | _ + 2 => ∀ item ∈ stayed, item ∈ listed

/-- An iterator asked for the one element there should be may find none. -/
def FindsNone (size : Nat) (stayed : Finset Item) : Prop := size = 1 ∧ stayed = ∅

variable [DecidableEq Item]

instance decidableLists : Decidable (Lists size stayed present listed) :=
  match size with
  | 0 => inferInstanceAs (Decidable (listed = []))
  | 1 => inferInstanceAs (Decidable (_ ∧ _))
  | _ + 2 => Finset.decidableDforallFinset

instance decidableFindsNone : Decidable (FindsNone size stayed) :=
  inferInstanceAs (Decidable (_ ∧ _))

omit [DecidableEq Item]

/-- The one element listed was in the collection. -/
theorem Lists.single (lists : Lists 1 stayed present listed) :
    ∃ item ∈ present, listed = [item] := by
  obtain ⟨one, inside⟩ := lists
  obtain ⟨item, rfl⟩ := List.length_eq_one_iff.mp one
  exact ⟨item, inside item (List.mem_singleton_self item), rfl⟩

/-- What stayed is listed, where it was counted at all and is alone where one was. -/
theorem Lists.mem_of_stayed (lists : Lists size stayed present listed) {item : Item}
    (there : item ∈ stayed) (counted : size ≠ 0)
    (alone : size = 1 → ∀ other ∈ present, other = item) : item ∈ listed := by
  match size with
  | 0 => exact absurd rfl counted
  | 1 =>
      obtain ⟨found, inside, rfl⟩ := lists.single
      rw [alone rfl found inside]
      exact List.mem_singleton_self item
  | _ + 2 => exact lists item there

/-- A list that misses what stayed had no room for it. -/
theorem Lists.of_missed (lists : Lists size stayed present listed) {item : Item}
    (there : item ∈ stayed) (missed : item ∉ listed) :
    size = 0 ∨ size = 1 ∧ ∃ other ∈ present, other ≠ item := by
  by_contra counted
  rw [not_or, not_and, not_exists] at counted
  refine missed (lists.mem_of_stayed there counted.1 fun one other inside => ?_)
  by_contra different
  exact counted.2 one other ⟨inside, different⟩

/-- An iterator that cannot come to nothing has something to list. -/
theorem exists_lists (within : stayed ⊆ present) (finds : ¬ FindsNone size stayed) :
    ∃ listed, Lists size stayed present listed := by
  match size with
  | 0 => exact ⟨[], rfl⟩
  | 1 =>
      obtain ⟨item, there⟩ := Finset.nonempty_iff_ne_empty.mpr fun none => finds ⟨rfl, none⟩
      refine ⟨[item], rfl, fun other same => ?_⟩
      rw [List.mem_singleton.mp same]
      exact within there
  | _ + 2 => exact ⟨stayed.toList, fun item there => Finset.mem_toList.mpr there⟩

end Foundation
