import Mathlib.Data.List.Basic

/-! # Loops that may throw

A loop over a list whose step may throw. What was done before an exception stays done, so the
exception carries it. -/

namespace Foundation

universe u v

variable {Done : Type u} {Item : Type v}

/-- What was done, whether it ended normally or by an exception. -/
def done : Except Done Done → Done
  | .ok outcome => outcome
  | .error outcome => outcome

@[simp] theorem done_ok (outcome : Done) : done (.ok outcome) = outcome := rfl

@[simp] theorem done_error (outcome : Done) : done (.error outcome) = outcome := rfl

section Loop

variable {step : Done → Item → Except Done Done} {items : List Item}

/-- What every step keeps, the loop keeps, also when it throws. -/
theorem foldlM_keeps (Kept : Done → Prop)
    (keeps : ∀ item ∈ items, ∀ before, Kept before → Kept (done (step before item))) :
    ∀ before, Kept before → Kept (done (items.foldlM step before)) := by
  induction items with
  | nil => exact fun before kept => kept
  | cons item rest rests =>
      intro before kept
      have first := keeps item List.mem_cons_self before kept
      rw [List.foldlM_cons]
      cases taken : step before item with
      | error outcome => rwa [taken] at first
      | ok outcome =>
          rw [taken] at first
          exact rests (fun item member => keeps item (List.mem_cons_of_mem _ member)) outcome first

/-- A loop that ends normally has done, and not undone, what its step does for each item. -/
theorem foldlM_reaches (Reached : Item → Done → Prop)
    (stays : ∀ item ∈ items, ∀ before other, Reached other before →
      Reached other (done (step before item)))
    (reaches : ∀ item ∈ items, ∀ before after, step before item = .ok after → Reached item after) :
    ∀ before after, items.foldlM step before = .ok after →
      ∀ item ∈ items, Reached item after := by
  induction items with
  | nil => exact fun _ _ _ item member => absurd member List.not_mem_nil
  | cons first rest rests =>
      intro before after ended item member
      have staysRest : ∀ item ∈ rest, ∀ before other, Reached other before →
          Reached other (done (step before item)) :=
        fun item member => stays item (List.mem_cons_of_mem _ member)
      rw [List.foldlM_cons] at ended
      cases taken : step before first with
      | error outcome =>
          rw [taken] at ended
          cases ended
      | ok outcome =>
          rw [taken] at ended
          change rest.foldlM step outcome = .ok after at ended
          obtain rfl | later := List.mem_cons.mp member
          · have reached := reaches item List.mem_cons_self before outcome taken
            have kept := foldlM_keeps (Reached item) (fun other member before kept =>
              staysRest other member before item kept) outcome reached
            rwa [ended] at kept
          · exact rests staysRest
              (fun item member => reaches item (List.mem_cons_of_mem _ member))
              outcome after ended item later

/-- A loop none of whose steps throws ends normally. -/
theorem foldlM_returns (returns : ∀ item ∈ items, ∀ before, ∃ after, step before item = .ok after) :
    ∀ before, ∃ after, items.foldlM step before = .ok after := by
  induction items with
  | nil => exact fun before => ⟨before, rfl⟩
  | cons item rest rests =>
      intro before
      obtain ⟨outcome, taken⟩ := returns item List.mem_cons_self before
      rw [List.foldlM_cons, taken]
      exact rests (fun item member => returns item (List.mem_cons_of_mem _ member)) outcome

end Loop

end Foundation
