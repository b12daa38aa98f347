import Mathlib.Data.List.AList

/-! # Entries of a map

What is found in a map after an entry was removed or added.
-/

namespace Foundation

variable {Key Value : Type} [DecidableEq Key] {map : AList fun _ : Key => Value}
  {key other : Key} {value found : Value}

/-- What is found after an entry was removed is of another key. -/
theorem ne_of_erase (there : (map.erase key).lookup other = some found) : other ≠ key := by
  rintro rfl
  rw [AList.lookup_erase] at there
  cases there

/-- Removing an entry leaves the others. -/
theorem lookup_of_erase (there : (map.erase key).lookup other = some found) :
    map.lookup other = some found := by
  rwa [AList.lookup_erase_ne (ne_of_erase there)] at there

/-- What is found after an entry was added is that entry, or was there before. -/
theorem lookup_of_insert (there : (map.insert key value).lookup other = some found) :
    map.lookup other = some found ∨ other = key ∧ found = value := by
  by_cases here : other = key
  · subst here
    rw [AList.lookup_insert, Option.some.injEq] at there
    exact Or.inr ⟨rfl, there.symm⟩
  · rw [AList.lookup_insert_ne here] at there
    exact Or.inl there

end Foundation
