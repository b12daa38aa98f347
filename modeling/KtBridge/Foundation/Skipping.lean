import Mathlib.Data.List.Chain

/-! # Runs that skip some of their items

A run over a list of items whose state has a part that only some items touch: which items they
are, and what they do to it, is decided by that part alone. The part then ends as it does in the
run without the others.
-/

namespace Foundation

variable {State View Item : Type}

/-- Some items act on a part of the state, the others leave it. -/
structure Skips (step : State → Item → State) (view : State → View) (acts : View → Item → Bool)
    (next : View → Item → View) : Prop where
  acting : ∀ state item, acts (view state) item → view (step state item) = next (view state) item
  skipping : ∀ state item, acts (view state) item = false → view (step state item) = view state

/-- The items of a list that act. -/
def acted (acts : View → Item → Bool) (next : View → Item → View) : View → List Item → List Item
  | _, [] => []
  | view, item :: rest =>
      if acts view item then item :: acted acts next (next view item) rest
      else acted acts next view rest

variable {step : State → Item → State} {view : State → View} {acts : View → Item → Bool}
  {next : View → Item → View}

theorem acted_sublist (start : View) (items : List Item) :
    (acted acts next start items).Sublist items := by
  induction items generalizing start with
  | nil => exact List.Sublist.refl _
  | cons item rest ih =>
      rw [acted]
      split
      · exact (ih _).cons_cons item
      · exact (ih _).cons item

/-- The part after a run is what the acting items make of it. -/
theorem Skips.view_run (skips : Skips step view acts next) (items : List Item) (state : State) :
    view (items.foldl step state) =
      (acted acts next (view state) items).foldl next (view state) := by
  induction items generalizing state with
  | nil => rfl
  | cons item rest ih =>
      rw [List.foldl_cons, ih, acted]
      split
      · rename_i acting
        rw [List.foldl_cons, skips.acting state item acting]
      · rename_i skipping
        rw [skips.skipping state item (Bool.not_eq_true _ |>.mp skipping)]

/-- Every acting item acts in the run without the others too. -/
theorem acted_acted (start : View) (items : List Item) :
    acted acts next start (acted acts next start items) = acted acts next start items := by
  induction items generalizing start with
  | nil => rfl
  | cons item rest ih =>
      rw [acted]
      split
      · rename_i acting
        rw [acted, if_pos acting, ih]
      · exact ih start

/-- The part ends as in the run without the items that do not act. -/
theorem Skips.view_run_acted (skips : Skips step view acts next) (items : List Item)
    (state : State) : view (items.foldl step state) =
      view ((acted acts next (view state) items).foldl step state) := by
  rw [skips.view_run, skips.view_run, acted_acted]

/-- If the part remembers the time of the item that acted last, and acting needs a relation to
that time, then each acting item is so related to the one before. -/
theorem acted_chain {Time : Type} (acts : View → Item → Bool) (next : View → Item → View)
    (time : Item → Time) (last : View → Option Time) (relation : Time → Time → Prop)
    (remembers : ∀ view item, acts view item → last (next view item) = some (time item))
    (needs : ∀ view item previous, last view = some previous → acts view item →
      relation previous (time item))
    (start : View) (items : List Item) :
    (acted acts next start items).IsChain (fun first second => relation (time first) (time second)) ∧
      ∀ previous, last start = some previous →
        ∀ first ∈ (acted acts next start items).head?, relation previous (time first) := by
  induction items generalizing start with
  | nil => exact ⟨List.IsChain.nil, fun _ _ first member => by cases member⟩
  | cons item rest ih =>
      rw [acted]
      split
      · rename_i acting
        obtain ⟨chain, related⟩ := ih (next start item)
        refine ⟨List.isChain_cons.mpr ⟨related (time item) (remembers start item acting), chain⟩, ?_⟩
        intro previous same first member
        rw [List.head?_cons, Option.mem_some_iff] at member
        rw [← member]
        exact needs start item previous same acting
      · exact ih start

end Foundation
