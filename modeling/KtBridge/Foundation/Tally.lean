import Mathlib.Algebra.BigOperators.Group.Finset.Piecewise
import Mathlib.Tactic.Abel

/-! # Tallies

What finitely many numbered places hold together, each item as often as it is held. One
place changes at a time, so the tally follows the change of that place, and an item that is
tallied once is in exactly one place.
-/

namespace Foundation

variable {Item : Type} {places : Nat} {held : Nat → Multiset Item}

/-- A list holds its head and what follows. -/
theorem coe_cons (head : Item) (rest : List Item) :
    ((head :: rest : List Item) : Multiset Item) = {head} + rest := by
  rw [← Multiset.cons_coe, Multiset.singleton_add]

/-- What the places hold together. -/
def tally (places : Nat) (held : Nat → Multiset Item) : Multiset Item :=
  ∑ place ∈ Finset.range places, held place

/-- What a place is given, the tally gains, and what the place loses, the tally loses. -/
theorem tally_update {place : Nat} (inside : place < places) (content : Multiset Item) :
    tally places (Function.update held place content) + held place =
      tally places held + content := by
  have member : place ∈ Finset.range places := Finset.mem_range.mpr inside
  rw [tally, tally, Finset.sum_update_of_mem member, ← Finset.add_sum_erase _ _ member,
    Finset.sdiff_singleton_eq_erase]
  abel

/-- A tally looks at the places it counts and no others. -/
theorem tally_congr {other : Nat → Multiset Item}
    (same : ∀ place < places, other place = held place) : tally places other = tally places held :=
  Finset.sum_congr rfl fun place member => same place (Finset.mem_range.mp member)

/-- A new place adds what it holds. -/
theorem tally_succ : tally (places + 1) held = tally places held + held places :=
  Finset.sum_range_succ ..

/-- What a place holds is in the tally. -/
theorem mem_tally {item : Item} {place : Nat} (inside : place < places)
    (there : item ∈ held place) : item ∈ tally places held :=
  Multiset.mem_sum.mpr ⟨place, Finset.mem_range.mpr inside, there⟩

variable [DecidableEq Item] {item : Item}

end Foundation
