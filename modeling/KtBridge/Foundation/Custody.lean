import Mathlib.Data.List.Nodup
import Mathlib.Data.List.Perm.Lattice

/-! # Exclusive custody

Items kept in places, each place holding a list. Custody is exclusive when no item
is held twice, neither in two places nor twice in one. Items are acquired fresh,
handed from place to place, and given up; each of the three rules below says what
such a step keeps and where the items are afterwards.
-/

namespace Foundation

variable {Place Item : Type}

/-- No item is held twice. -/
structure Exclusive (holding : Place → List Item) : Prop where
  once : ∀ place, (holding place).Nodup
  single : ∀ first second item, item ∈ holding first → item ∈ holding second → first = second

/-- The item is held somewhere. -/
def Held (holding : Place → List Item) (item : Item) : Prop := ∃ place, item ∈ holding place

theorem Exclusive.empty : Exclusive (fun _ => [] : Place → List Item) where
  once := fun _ => List.nodup_nil
  single := fun _ _ _ absent => absurd absent List.not_mem_nil

/-- An item held exclusively is held once, and nowhere else. -/
theorem Exclusive.count_eq_one [BEq Item] [LawfulBEq Item] {holding : Place → List Item}
    (exclusive : Exclusive holding) {item : Item} {place : Place} (member : item ∈ holding place) :
    (holding place).count item = 1 ∧ ∀ other, other ≠ place → item ∉ holding other :=
  ⟨List.count_eq_one_of_mem (exclusive.once place) member,
    fun other differs there => differs (exclusive.single other place item there member)⟩

/-- A step hands items from one place to another: between them the two places keep
what they held, and no other place changes. -/
structure Transfer (before after : Place → List Item) (source target : Place) : Prop where
  apart : source ≠ target
  kept : (after source ++ after target).Perm (before source ++ before target)
  others : ∀ other, other ≠ source → other ≠ target → after other = before other

namespace Transfer

variable {before after : Place → List Item} {source target : Place}

/-- The only item of one place is handed to an empty place. -/
theorem single (item : Item) (apart : source ≠ target) (had : before source = [item])
    (lacked : before target = []) (gave : after source = []) (got : after target = [item])
    (others : ∀ other, other ≠ source → other ≠ target → after other = before other) :
    Transfer before after source target where
  apart := apart
  kept := by
    rw [had, lacked, gave, got]
    exact List.Perm.refl _
  others := others

/-- The two places of a transfer hold the same items together. -/
theorem mem_iff (transfer : Transfer before after source target) (item : Item) :
    item ∈ after source ∨ item ∈ after target ↔ item ∈ before source ∨ item ∈ before target := by
  rw [← List.mem_append, ← List.mem_append]
  exact transfer.kept.mem_iff

/-- A transfer loses nothing and makes nothing up. -/
theorem held_iff (transfer : Transfer before after source target) (item : Item) :
    Held after item ↔ Held before item := by
  constructor
  · intro held
    obtain ⟨place, member⟩ := held
    by_cases here : place = source ∨ place = target
    · have both : item ∈ after source ∨ item ∈ after target := by
        rcases here with rfl | rfl
        · exact Or.inl member
        · exact Or.inr member
      rcases (transfer.mem_iff item).mp both with there | there
      · exact ⟨source, there⟩
      · exact ⟨target, there⟩
    · obtain ⟨notSource, notTarget⟩ := not_or.mp here
      rw [transfer.others place notSource notTarget] at member
      exact ⟨place, member⟩
  · intro held
    obtain ⟨place, member⟩ := held
    by_cases here : place = source ∨ place = target
    · have both : item ∈ before source ∨ item ∈ before target := by
        rcases here with rfl | rfl
        · exact Or.inl member
        · exact Or.inr member
      rcases (transfer.mem_iff item).mpr both with there | there
      · exact ⟨source, there⟩
      · exact ⟨target, there⟩
    · obtain ⟨notSource, notTarget⟩ := not_or.mp here
      rw [← transfer.others place notSource notTarget] at member
      exact ⟨place, member⟩

/-- Custody stays exclusive when items are handed over. -/
theorem exclusive (transfer : Transfer before after source target)
    (exclusive : Exclusive before) : Exclusive after := by
  have both : (before source ++ before target).Nodup := by
    apply List.nodup_append.mpr
    refine ⟨exclusive.once source, exclusive.once target, ?_⟩
    intro first there second here same
    subst same
    exact transfer.apart (exclusive.single source target first there here)
  have next : (after source ++ after target).Nodup := transfer.kept.nodup_iff.mpr both
  obtain ⟨sourceOnce, targetOnce, disjoint⟩ := List.nodup_append.mp next
  -- Where an item of the two places was before.
  have was : ∀ place item, place = source ∨ place = target → item ∈ after place →
      item ∈ before source ∨ item ∈ before target := by
    intro place item here member
    apply (transfer.mem_iff item).mp
    rcases here with rfl | rfl
    · exact Or.inl member
    · exact Or.inr member
  have outside : ∀ place other item, place = source ∨ place = target → other ≠ source →
      other ≠ target → item ∈ after place → item ∈ after other → False := by
    intro place other item here notSource notTarget member there
    rw [transfer.others other notSource notTarget] at there
    rcases was place item here member with old | old
    · exact notSource (exclusive.single other source item there old)
    · exact notTarget (exclusive.single other target item there old)
  refine ⟨?_, ?_⟩
  · intro place
    by_cases isSource : place = source
    · rw [isSource]
      exact sourceOnce
    by_cases isTarget : place = target
    · rw [isTarget]
      exact targetOnce
    rw [transfer.others place isSource isTarget]
    exact exclusive.once place
  · intro first second item there here
    by_cases firstMoves : first = source ∨ first = target
    · by_cases secondMoves : second = source ∨ second = target
      · rcases firstMoves with rfl | rfl <;> rcases secondMoves with rfl | rfl
        · rfl
        · exact absurd rfl (disjoint item there item here)
        · exact absurd rfl (disjoint item here item there)
        · rfl
      · obtain ⟨notSource, notTarget⟩ := not_or.mp secondMoves
        exact (outside first second item firstMoves notSource notTarget there here).elim
    · obtain ⟨notSource, notTarget⟩ := not_or.mp firstMoves
      by_cases secondMoves : second = source ∨ second = target
      · exact (outside second first item secondMoves notSource notTarget here there).elim
      · obtain ⟨notSource', notTarget'⟩ := not_or.mp secondMoves
        rw [transfer.others first notSource notTarget] at there
        rw [transfer.others second notSource' notTarget'] at here
        exact exclusive.single first second item there here

end Transfer

/-- A step puts one new item into one place. -/
structure Acquires (before after : Place → List Item) (place : Place) (item : Item) : Prop where
  fresh : ¬ Held before item
  added : (after place).Perm (item :: before place)
  others : ∀ other, other ≠ place → after other = before other

namespace Acquires

variable {before after : Place → List Item} {place : Place} {item : Item}

theorem mem_iff (acquires : Acquires before after place item) (other : Place) (thing : Item) :
    thing ∈ after other ↔ thing ∈ before other ∨ other = place ∧ thing = item := by
  by_cases here : other = place
  · subst here
    rw [acquires.added.mem_iff, List.mem_cons]
    tauto
  · rw [acquires.others other here]
    tauto

theorem exclusive (acquires : Acquires before after place item) (exclusive : Exclusive before) :
    Exclusive after := by
  refine ⟨?_, ?_⟩
  · intro other
    by_cases here : other = place
    · subst here
      rw [acquires.added.nodup_iff]
      exact List.nodup_cons.mpr ⟨fun there => acquires.fresh ⟨other, there⟩, exclusive.once other⟩
    · rw [acquires.others other here]
      exact exclusive.once other
  · intro first second thing there here
    rw [acquires.mem_iff] at there here
    rcases there with there | ⟨rfl, rfl⟩
    · rcases here with here | ⟨rfl, rfl⟩
      · exact exclusive.single first second thing there here
      · exact absurd ⟨first, there⟩ acquires.fresh
    · rcases here with here | ⟨rfl, _⟩
      · exact absurd ⟨second, here⟩ acquires.fresh
      · rfl

end Acquires

/-- Custody stays exclusive when items are given up. -/
theorem Exclusive.sublist {before after : Place → List Item} (exclusive : Exclusive before)
    (fewer : ∀ place, (after place).Sublist (before place)) : Exclusive after where
  once := fun place => (exclusive.once place).sublist (fewer place)
  single := fun first second item there here =>
    exclusive.single first second item ((fewer first).subset there) ((fewer second).subset here)

/-- A step gives up the only item of a place. -/
theorem Exclusive.release {before after : Place → List Item} (exclusive : Exclusive before)
    {place : Place} {item : Item} (had : before place = [item]) (gave : after place = [])
    (others : ∀ other, other ≠ place → after other = before other) :
    Exclusive after ∧ ∀ thing, Held after thing ↔ Held before thing ∧ thing ≠ item := by
  have here : item ∈ before place := by
    rw [had]
    exact List.mem_singleton.mpr rfl
  refine ⟨?_, ?_⟩
  · apply exclusive.sublist
    intro other
    by_cases same : other = place
    · rw [same, gave]
      exact List.nil_sublist _
    · rw [others other same]
  · intro thing
    constructor
    · intro held
      obtain ⟨other, member⟩ := held
      have elsewhere : other ≠ place := by
        intro same
        rw [same, gave] at member
        cases member
      rw [others other elsewhere] at member
      refine ⟨⟨other, member⟩, ?_⟩
      intro same
      subst same
      exact elsewhere (exclusive.single other place thing member here)
    · intro both
      obtain ⟨⟨other, member⟩, differs⟩ := both
      have elsewhere : other ≠ place := by
        intro same
        rw [same, had] at member
        exact differs (List.mem_singleton.mp member)
      refine ⟨other, ?_⟩
      rw [others other elsewhere]
      exact member

end Foundation
