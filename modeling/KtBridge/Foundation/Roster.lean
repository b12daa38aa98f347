import Mathlib.Data.List.Basic

/-! # Rosters

A roster is a list whose members are known by their places. One member changes at a
time, so a count over the roster follows the change of that member.
-/

namespace Foundation

variable {Member : Type} {roster : List Member} {place : Nat} {old : Member}

/-- A place that is taken is in the roster. -/
theorem place_lt (taken : roster[place]? = some old) : place < roster.length :=
  (List.getElem?_eq_some_iff.mp taken).1

/-- Who is at a place after a member changed. -/
theorem getElem?_change (taken : roster[place]? = some old) (new : Member) (other : Nat) :
    (roster.set place new)[other]? = if other = place then some new else roster[other]? := by
  split
  · next same =>
    rw [same]
    exact List.getElem?_set_self (place_lt taken)
  · next different => exact List.getElem?_set_ne (Ne.symm different)

variable (counts : Member → Bool)

/-- A count after a member changed. -/
theorem countP_change (taken : roster[place]? = some old) (new : Member) :
    (roster.set place new).countP counts + (if counts old then 1 else 0) =
      roster.countP counts + if counts new then 1 else 0 := by
  obtain ⟨inside, here⟩ := List.getElem?_eq_some_iff.mp taken
  rw [List.countP_set inside, here]
  split
  · next counted =>
    have some_ : 0 < roster.countP counts :=
      List.countP_pos_iff.mpr ⟨old, List.mem_of_getElem? taken, counted⟩
    omega
  · omega

/-- A count is positive while it counts a member. -/
theorem countP_pos_of_member (taken : roster[place]? = some old) (counted : counts old) :
    0 < roster.countP counts :=
  List.countP_pos_iff.mpr ⟨old, List.mem_of_getElem? taken, counted⟩

end Foundation
