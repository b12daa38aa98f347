import KtBridge.Handle.Generations
import KtBridge.Handle.Ledger

/-! # No handle is issued twice

While every index fits in a handle and no slot has gone once around, a slot's
generation is one more than the number of removals from it. A handle once issued
is then either in use or of an earlier generation (`Table.Issued`), and no later
insertion issues it again.
-/

namespace KtBridge

variable {Ref : Type}

namespace Table

/-- The calls use at most `2 ^ 32` slots, and each slot less than once around. -/
def Bounded (calls : List (TableCall Ref)) : Prop :=
  (empty.run calls).slots.length ≤ 2 ^ 32 ∧ ∀ index, removals index empty calls < 2 ^ 24 - 1

theorem le_length_run (table : Table Ref) (calls : List (TableCall Ref)) :
    table.slots.length ≤ (table.run calls).slots.length := by
  induction calls generalizing table with
  | nil => exact le_rfl
  | cons call rest ih =>
      exact (table.le_length_perform call).trans (ih (table.perform call).1)

/-- Every earlier part of a bounded history is bounded. -/
theorem Bounded.of_append {first second : List (TableCall Ref)}
    (bounded : Bounded (first ++ second)) : Bounded first := by
  refine ⟨?_, fun index => ?_⟩
  · have grown := (empty.run first).le_length_run second
    rw [← run_append] at grown
    exact grown.trans bounded.1
  · have count := bounded.2 index
    rw [removals_append] at count
    omega

/-- A slot that a call adds starts at generation 1. -/
theorem perform_slot_new {table : Table Ref} (formed : table.WellFormed) (call : TableCall Ref)
    {index : Nat} {slot : Slot Ref} (absent : table.slots.length ≤ index)
    (found : (table.perform call).1.slots[index]? = some slot) : slot.generation = 1 := by
  have inserted : ∀ entry owner, (table.insertInto entry owner).1.slots[index]? = some slot →
      slot.generation = 1 := by
    intro entry owner read
    rcases insertInto_cases table formed entry owner with
      ⟨_, _, _, _, _, result⟩ | ⟨_, _, _, result⟩
    · rw [result, List.getElem?_eq_none (by rw [List.length_set]; exact absent)] at read
      cases read
    · rw [result, List.getElem?_append_right absent] at read
      have member := List.mem_of_getElem? read
      rw [List.mem_singleton.mp member]
  have longer : index < (table.perform call).1.slots.length :=
    (List.getElem?_eq_some_iff.mp found).1
  cases call with
  | insert entry => exact inserted entry 0 found
  | insertOwned runtime entry =>
      cases valid : table.validate runtime kindRuntime with
      | error error =>
          simp only [perform, insertOwned, valid] at longer
          omega
      | ok _ =>
          apply inserted entry runtime
          simp only [perform, insertOwned, valid] at found
          cases outcome : (table.insertInto entry runtime).2 <;> rw [outcome] at found <;> exact found
  | removeOfKind handle kind =>
      rcases removeOfKind_cases table handle kind with
        ⟨_, _, result⟩ | ⟨_, _, _, _, _, _, _, _, result⟩ <;>
      simp only [perform, result, List.length_set] at longer <;> omega
  | removeRuntime runtime =>
      rcases removeRuntime_cases table formed runtime with
        ⟨_, _, result⟩ | ⟨_, _, _, _, _, _, _, result⟩ <;>
      simp only [perform, result, List.length_map, List.length_set] at longer <;> omega
  | _ => simp only [perform] at longer; omega

/-- Nothing was ever removed from a slot that does not exist yet. -/
theorem removals_of_absent {table : Table Ref} {calls : List (TableCall Ref)} {index : Nat}
    (absent : (table.run calls).slots.length ≤ index) : removals index table calls = 0 := by
  induction calls generalizing table with
  | nil => rfl
  | cons call rest ih =>
      have before : table.slots.length ≤ index :=
        (table.le_length_run (call :: rest)).trans absent
      have vacant : table.vacates call index = 0 := by
        simp [vacates, occupied, List.getElem?_eq_none before]
      rw [removals, vacant, ih absent]

/-- Before a slot has gone once around, its generation counts its removals. -/
theorem generation_eq (calls : List (TableCall Ref)) {index : Nat} {slot : Slot Ref}
    (found : (empty.run calls).slots[index]? = some slot)
    (few : removals index empty calls < 2 ^ 24 - 1) :
    slot.generation.toNat = removals index empty calls + 1 := by
  induction calls using List.reverseRecOn generalizing slot with
  | nil => simp [empty] at found
  | append_singleton calls call ih =>
      have formed : (empty.run calls : Table Ref).WellFormed := WellFormed.empty.run calls
      rw [run_append] at found
      rw [removals_append] at few ⊢
      simp only [run_cons, run_nil] at found
      simp only [removals, Nat.add_zero] at few ⊢
      cases before : (empty.run calls : Table Ref).slots[index]? with
      | none =>
          have absent := List.getElem?_eq_none_iff.mp before
          have count : removals index (empty : Table Ref) calls = 0 := removals_of_absent absent
          have vacant : (empty.run calls).vacates call index = 0 := by
            simp [vacates, occupied, before]
          rw [perform_slot_new formed call absent found, count, vacant]
          rfl
      | some old =>
          obtain ⟨next, after, moved⟩ := formed.generation_perform call before
          obtain rfl := Option.some.inj (found.symm.trans after)
          have same := ih before (by omega)
          have member := List.mem_of_getElem? before
          have counted : (empty.run calls).vacates call index ≤ 1 := by
            unfold vacates
            split <;> omega
          rw [moved, Slot.toNat_iterate_bump _ _ (formed.generation_pos old member)
            (formed.generation_lt old member), same]
          omega

/-- The handle was issued: its slot is past the handle's generation, or is occupied
at it. -/
def Issued (table : Table Ref) (handle : Handle) : Prop :=
  ∃ slot, table.slots[handle.index]? = some slot ∧
    (handle.generation.toNat < slot.generation.toNat ∨
      handle.generation = slot.generation ∧ slot.entry.isSome)

/-- An issued handle stays issued along a bounded history. -/
theorem Issued.extend {calls : List (TableCall Ref)} {call : TableCall Ref} {handle : Handle}
    (issued : (empty.run calls).Issued handle) (bounded : Bounded (calls ++ [call])) :
    (empty.run (calls ++ [call])).Issued handle := by
  have formed : (empty.run calls : Table Ref).WellFormed := WellFormed.empty.run calls
  obtain ⟨slot, found, which⟩ := issued
  have member := List.mem_of_getElem? found
  have count := bounded.2 handle.index
  rw [removals_append] at count
  simp only [removals, Nat.add_zero] at count
  have old := generation_eq calls found (by omega)
  obtain ⟨next, after, moved⟩ := formed.generation_perform call found
  have cycle := Slot.toNat_iterate_bump ((empty.run calls).vacates call handle.index) _
    (formed.generation_pos slot member) (formed.generation_lt slot member)
  rw [← moved] at cycle
  rw [run_append]
  refine ⟨next, after, ?_⟩
  by_cases vacated : slot.entry.isSome && next.entry.isNone
  · have one : (empty.run calls).vacates call handle.index = 1 := by
      rw [vacates_eq found after, vacated]
      rfl
    rw [one] at cycle count
    left
    rcases which with earlier | ⟨same, _⟩
    · omega
    · rw [same]
      omega
  · have zero : (empty.run calls).vacates call handle.index = 0 := by
      rw [vacates_eq found after, Bool.eq_false_of_not_eq_true vacated]
      rfl
    rw [zero] at moved
    rw [moved]
    rcases which with earlier | ⟨same, occupied⟩
    · exact Or.inl earlier
    · right
      refine ⟨same, ?_⟩
      rw [occupied, Bool.true_and] at vacated
      cases occupant : next.entry with
      | none => rw [occupant] at vacated; exact absurd rfl vacated
      | some entry => rfl

/-- An insertion issues a handle that was not issued before. -/
theorem not_issued_of_insertInto {table : Table Ref} (formed : table.WellFormed)
    (compact : table.Compact) {entry : Entry Ref} {owner handle : Handle}
    (fits : (table.insertInto entry owner).1.Fits)
    (minted : (table.insertInto entry owner).2 = .ok handle) :
    ¬ table.Issued handle ∧ (table.insertInto entry owner).1.Issued handle := by
  obtain ⟨other, issued, _, vacant, slots⟩ := insertInto_spec table formed compact entry owner fits
  obtain rfl : handle = other := Outcome.ok.inj (minted.symm.trans issued)
  have there := slots handle.index
  rw [if_pos rfl] at there
  refine ⟨?_, ⟨_, there, Or.inr ⟨rfl, rfl⟩⟩⟩
  intro already
  obtain ⟨slot, found, which⟩ := already
  -- The slot was vacant, at the generation of the new handle.
  obtain ⟨next, after, same, _⟩ := insertInto_slot formed entry owner found
  obtain rfl := Option.some.inj (there.symm.trans after)
  rcases which with earlier | ⟨_, occupied⟩
  · rw [← same] at earlier
    exact absurd earlier (lt_irrefl _)
  · rw [vacant slot found] at occupied
    cases occupied

/-- The stack of vacated indices stays sound along a run that fits. -/
theorem Compact.run {table : Table Ref} (formed : table.WellFormed) (compact : table.Compact)
    (calls : List (TableCall Ref)) (fits : (table.run calls).Fits) : (table.run calls).Compact := by
  induction calls generalizing table with
  | nil => exact compact
  | cons call rest ih =>
      have middle : (table.perform call).1.Fits := fits.of_le (le_length_run _ rest)
      exact ih (formed.perform call) (Compact.perform formed compact call middle) fits

theorem Compact.empty : (empty : Table Ref).Compact where
  free_vacant := fun _ absent => absurd absent List.not_mem_nil
  free_nodup := List.nodup_nil

/-- What a call does to the leases of a table that fits: an insertion adds one whose
handle was never issued, a removal takes its own away, and a runtime takes its
children along. -/
theorem holds_perform {table : Table Ref} (formed : table.WellFormed) (compact : table.Compact)
    (call : TableCall Ref) (fits : (table.perform call).1.Fits) (lease : Lease Ref) :
    ((table.perform call).1.Holds lease → table.Holds lease ∨ ¬ table.Issued lease.handle) ∧
    (table.Holds lease → (table.perform call).1.Holds lease ∨
      (∃ kind, call = .removeOfKind lease.handle kind) ∨
      ∃ runtime, call = .removeRuntime runtime ∧
        (lease.handle = runtime ∧ runtime.kind = kindRuntime ∨ lease.owner = runtime)) := by
  have inserted : ∀ entry owner, (table.insertInto entry owner).1.Fits →
      ((table.insertInto entry owner).1.Holds lease →
        table.Holds lease ∨ ¬ table.Issued lease.handle) ∧
      (table.Holds lease → (table.insertInto entry owner).1.Holds lease) := by
    intro entry owner fits
    obtain ⟨handle, issued, _, holds⟩ := table.holds_insertInto formed compact entry owner fits
    refine ⟨fun after => ?_, fun before => (holds lease).mpr (Or.inl before)⟩
    rcases (holds lease).mp after with before | rfl
    · exact Or.inl before
    · exact Or.inr (not_issued_of_insertInto formed compact fits issued).1
  cases call with
  | insert entry =>
      obtain ⟨back, forth⟩ := inserted entry 0 fits
      exact ⟨back, fun before => Or.inl (forth before)⟩
  | insertOwned runtime entry =>
      cases valid : table.validate runtime kindRuntime with
      | error error =>
          simp only [perform, insertOwned, valid]
          exact ⟨Or.inl, Or.inl⟩
      | ok index =>
          have next : (table.perform (.insertOwned runtime entry)).1 =
              (table.insertInto entry runtime).1 := by
            simp only [perform, insertOwned, valid]
            cases (table.insertInto entry runtime).2 <;> rfl
          rw [next] at fits ⊢
          obtain ⟨back, forth⟩ := inserted entry runtime fits
          exact ⟨back, fun before => Or.inl (forth before)⟩
  | removeOfKind handle kind =>
      simp only [perform]
      cases outcome : (table.removeOfKind handle kind).2 with
      | ok entry =>
          have holds := (table.holds_removeOfKind outcome).2 lease
          refine ⟨fun after => Or.inl (holds.mp after).1, fun before => ?_⟩
          by_cases same : lease.handle = handle
          · exact Or.inr (Or.inl ⟨kind, by rw [same]⟩)
          · exact Or.inl (holds.mpr ⟨before, same⟩)
      | error error =>
          have same := table.perform_rejected formed (.removeOfKind handle kind) error none
            (by simp only [perform, outcome, answer])
          simp only [perform] at same
          rw [same]
          exact ⟨Or.inl, Or.inl⟩
      | panic =>
          exact absurd (by simp only [perform, outcome, answer])
            (formed.not_panicked (.removeOfKind handle kind))
  | removeRuntime runtime =>
      simp only [perform]
      cases outcome : (table.removeRuntime runtime).2 with
      | ok result =>
          have holds := table.holds_removeRuntime formed outcome lease
          refine ⟨fun after => Or.inl (holds.mp after).1, fun before => ?_⟩
          have tagged : runtime.kind = kindRuntime := by
            rcases table.removeRuntime_cases formed runtime with
              ⟨_, _, rejected⟩ | ⟨_, _, _, valid, _⟩
            · rw [rejected] at outcome
              cases outcome
            · exact ((validate_ok_iff ..).mp valid).2.1
          by_cases own : lease.handle = runtime
          · exact Or.inr (Or.inr ⟨runtime, rfl, Or.inl ⟨own, tagged⟩⟩)
          · by_cases child : lease.owner = runtime
            · exact Or.inr (Or.inr ⟨runtime, rfl, Or.inr child⟩)
            · exact Or.inl (holds.mpr ⟨before, own, child⟩)
      | error error =>
          have same := table.perform_rejected formed (.removeRuntime runtime) error none
            (by simp only [perform, outcome, answer])
          simp only [perform] at same
          rw [same]
          exact ⟨Or.inl, Or.inl⟩
      | panic =>
          exact absurd (by simp only [perform, outcome, answer])
            (formed.not_panicked (.removeRuntime runtime))
  | _ => exact ⟨Or.inl, Or.inl⟩

end Table

end KtBridge
