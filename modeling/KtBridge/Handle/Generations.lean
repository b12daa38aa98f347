import KtBridge.Handle.WellFormed
import Mathlib.Logic.Function.Iterate

/-! # Generations along a run

A slot's generation counts the removals from it, wrapping in 24 bits and skipping
0, so it returns to a value after exactly `2 ^ 24 - 1` removals
(`Slot.toNat_iterate_bump`). No call changes a generation in any other way
(`Table.WellFormed.generation_run`), hence a removed handle stays dead until its
slot has gone once around (`Table.removed_handle_stays_dead`). Nothing here
depends on the number of slots.
-/

namespace KtBridge

variable {Ref : Type}

namespace Slot

/-- The generation after any number of removals. -/
theorem toNat_iterate_bump (count : Nat) (generation : UInt32) (positive : 1 ≤ generation.toNat)
    (masked : generation.toNat < 2 ^ 24) :
    (bump^[count] generation).toNat = (generation.toNat - 1 + count) % (2 ^ 24 - 1) + 1 := by
  induction count generalizing generation with
  | zero =>
      rw [Function.iterate_zero_apply]
      omega
  | succ count ih =>
      rw [Function.iterate_succ_apply, ih _ (one_le_bump _) (bump_lt _ positive masked),
        toNat_bump _ positive masked]
      split <;> omega

/-- Fewer than a full cycle of removals never brings a generation back. -/
theorem iterate_bump_ne (generation : UInt32) (positive : 1 ≤ generation.toNat)
    (masked : generation.toNat < 2 ^ 24) {count : Nat} (some_removal : 0 < count)
    (few : count < 2 ^ 24 - 1) : bump^[count] generation ≠ generation := by
  intro same
  have cycle := toNat_iterate_bump count generation positive masked
  rw [same] at cycle
  omega

end Slot

namespace Table

/-- The table after a sequence of calls. -/
def run (table : Table Ref) (calls : List (TableCall Ref)) : Table Ref :=
  calls.foldl (fun current call => (current.perform call).1) table

@[simp] theorem run_nil (table : Table Ref) : table.run [] = table := rfl

@[simp] theorem run_cons (table : Table Ref) (call : TableCall Ref)
    (calls : List (TableCall Ref)) :
    table.run (call :: calls) = (table.perform call).1.run calls := rfl

theorem run_append (table : Table Ref) (first second : List (TableCall Ref)) :
    table.run (first ++ second) = (table.run first).run second :=
  List.foldl_append

theorem WellFormed.run {table : Table Ref} (formed : table.WellFormed)
    (calls : List (TableCall Ref)) : (table.run calls).WellFormed := by
  induction calls generalizing table with
  | nil => exact formed
  | cons call rest ih => exact ih (formed.perform call)

def occupied (table : Table Ref) (index : Nat) : Bool :=
  (table.slots[index]?.bind Slot.entry).isSome

/-- Whether the call removes the occupant of a slot: 1 if it does, 0 if not. -/
def vacates (table : Table Ref) (call : TableCall Ref) (index : Nat) : Nat :=
  if table.occupied index && !(table.perform call).1.occupied index then 1 else 0

/-- How often the occupant of a slot is removed in a run. -/
def removals (index : Nat) : Table Ref → List (TableCall Ref) → Nat
  | _, [] => 0
  | table, call :: rest =>
      table.vacates call index + removals index (table.perform call).1 rest

theorem removals_append (index : Nat) (table : Table Ref) (first second : List (TableCall Ref)) :
    removals index table (first ++ second) =
      removals index table first + removals index (table.run first) second := by
  induction first generalizing table with
  | nil => rw [List.nil_append, removals, run_nil, Nat.zero_add]
  | cons call rest ih =>
      rw [List.cons_append, removals, removals, run_cons, ih, Nat.add_assoc]

/-- A call whose effect on a slot is known vacates it when the entry goes. -/
theorem vacates_eq {table : Table Ref} {call : TableCall Ref} {index : Nat} {slot next : Slot Ref}
    (found : table.slots[index]? = some slot)
    (after : (table.perform call).1.slots[index]? = some next) :
    table.vacates call index = if slot.entry.isSome && next.entry.isNone then 1 else 0 := by
  simp only [vacates, occupied, found, after, Option.bind_some]
  cases slot.entry <;> cases next.entry <;> rfl

/-- An insertion keeps every generation and every occupied slot occupied. -/
theorem insertInto_slot {table : Table Ref} (formed : table.WellFormed) (entry : Entry Ref)
    (owner : Handle) {index : Nat} {slot : Slot Ref} (found : table.slots[index]? = some slot) :
    ∃ next, (table.insertInto entry owner).1.slots[index]? = some next ∧
      next.generation = slot.generation ∧ (slot.entry.isSome → next.entry.isSome) := by
  have inside := (List.getElem?_eq_some_iff.mp found).1
  rcases insertInto_cases table formed entry owner with
    ⟨freed, rest, vacant, _, read, result⟩ | ⟨fresh, _, _, result⟩
  · rw [result]
    by_cases same : freed.toNat = index
    · rw [same] at read
      obtain rfl := Option.some.inj (found.symm.trans read)
      refine ⟨{ slot with entry := some entry, owner := owner }, ?_, rfl, fun _ => rfl⟩
      rw [same, List.getElem?_set_self inside]
    · exact ⟨slot, (List.getElem?_set_ne same).trans found, rfl, id⟩
  · rw [result]
    exact ⟨slot, (List.getElem?_append_left inside).trans found, rfl, id⟩

/-- An insertion vacates no slot. -/
theorem WellFormed.vacates_of_inserted {table : Table Ref} (formed : table.WellFormed)
    {call : TableCall Ref} {entry : Entry Ref} (inserts : call.inserted? = some entry)
    (index : Nat) : table.vacates call index = 0 := by
  cases found : table.slots[index]? with
  | none => simp [vacates, occupied, found]
  | some slot =>
      have kept : ∀ next, (table.perform call).1.slots[index]? = some next →
          (slot.entry.isSome → next.entry.isSome) → table.vacates call index = 0 := by
        intro next after stays
        rw [vacates_eq found after]
        cases before : slot.entry.isSome with
        | false => rfl
        | true =>
            have there := stays before
            cases occupant : next.entry with
            | none => rw [occupant] at there; cases there
            | some _ => rfl
      cases call with
      | insert placed =>
          obtain ⟨next, after, _, stays⟩ := insertInto_slot formed placed 0 found
          exact kept next after stays
      | insertOwned runtime placed =>
          cases valid : table.validate runtime kindRuntime with
          | error error =>
              apply kept slot ?_ id
              simpa only [Table.perform, insertOwned, valid] using found
          | ok _ =>
              obtain ⟨next, after, _, stays⟩ := insertInto_slot formed placed runtime found
              apply kept next ?_ stays
              simp only [Table.perform, insertOwned, valid]
              cases (table.insertInto placed runtime).2 <;> exact after
      | _ => cases inserts

/-- A run of insertions removes nothing. -/
theorem removals_of_inserted {table : Table Ref} (formed : table.WellFormed)
    (calls : List (TableCall Ref)) (inserts : ∀ call ∈ calls, ∃ entry, call.inserted? = some entry)
    (index : Nat) : removals index table calls = 0 := by
  induction calls generalizing table with
  | nil => rfl
  | cons call rest ih =>
      obtain ⟨entry, placed⟩ := inserts call List.mem_cons_self
      rw [removals, formed.vacates_of_inserted placed,
        ih (formed.perform call) fun other member => inserts other (List.mem_cons_of_mem _ member)]

/-- One call moves a generation by one bump when it vacates the slot, and leaves
it alone otherwise. -/
theorem WellFormed.generation_perform {table : Table Ref} (formed : table.WellFormed)
    (call : TableCall Ref) {index : Nat} {slot : Slot Ref}
    (found : table.slots[index]? = some slot) :
    ∃ next, (table.perform call).1.slots[index]? = some next ∧
      next.generation = Slot.bump^[table.vacates call index] slot.generation := by
  have inside := (List.getElem?_eq_some_iff.mp found).1
  -- The cases below leave the slot alone, refill it, or empty it.
  have kept : ∀ next, (table.perform call).1.slots[index]? = some next →
      next.generation = slot.generation → (slot.entry.isSome → next.entry.isSome) →
      ∃ next, (table.perform call).1.slots[index]? = some next ∧
        next.generation = Slot.bump^[table.vacates call index] slot.generation := by
    intro next after same stays
    refine ⟨next, after, ?_⟩
    rw [vacates_eq found after, same]
    cases before : slot.entry with
    | none => rfl
    | some entry =>
        rw [before] at stays
        obtain ⟨occupant, there⟩ := Option.isSome_iff_exists.mp (stays rfl)
        rw [there]
        rfl
  have emptied : slot.entry.isSome →
      (table.perform call).1.slots[index]? = some slot.vacated →
      ∃ next, (table.perform call).1.slots[index]? = some next ∧
        next.generation = Slot.bump^[table.vacates call index] slot.generation := by
    intro before after
    refine ⟨_, after, ?_⟩
    rw [vacates_eq found after, before]
    rfl
  cases call with
  | insert entry =>
      obtain ⟨next, after, same, stays⟩ := insertInto_slot formed entry 0 found
      exact kept next after same stays
  | insertOwned runtime entry =>
      cases valid : table.validate runtime kindRuntime with
      | error error =>
          refine kept slot ?_ rfl id
          simpa only [Table.perform, insertOwned, valid] using found
      | ok _ =>
          obtain ⟨next, after, same, stays⟩ := insertInto_slot formed entry runtime found
          refine kept next ?_ same stays
          simp only [Table.perform, insertOwned, valid]
          cases (table.insertInto entry runtime).2 <;> exact after
  | removeOfKind handle kind =>
      rcases removeOfKind_cases table handle kind with
        ⟨_, _, result⟩ | ⟨taken, entry, _, read, _, occupant, _, _, result⟩
      · refine kept slot ?_ rfl id
        simpa only [Table.perform, result] using found
      · by_cases same : handle.index = index
        · subst same
          obtain rfl := Option.some.inj (found.symm.trans read)
          refine emptied (by rw [occupant]; rfl) ?_
          simp only [Table.perform, result, List.getElem?_set_self inside]
        · refine kept slot ?_ rfl id
          simpa only [Table.perform, result, List.getElem?_set_ne same] using found
  | removeRuntime runtime =>
      rcases removeRuntime_cases table formed runtime with
        ⟨_, _, result⟩ | ⟨taken, object, stack, valid, read, _, occupant, result⟩
      · refine kept slot ?_ rfl id
        simpa only [Table.perform, result] using found
      · have nonzero : runtime ≠ 0 := ((validate_ok_iff ..).mp valid).1
        by_cases same : runtime.index = index
        · subst same
          obtain rfl := Option.some.inj (found.symm.trans read)
          refine emptied (by rw [occupant]; rfl) ?_
          simp only [Table.perform, result, List.getElem?_map, List.getElem?_set_self inside,
            Option.map_some, Slot.vacated_owner, nonzero.symm, ↓reduceIte]
        · by_cases owned : slot.owner = runtime
          · refine emptied (formed.owner_live slot (List.mem_of_getElem? found)
              (owned ▸ nonzero)) ?_
            simp only [Table.perform, result, List.getElem?_map, List.getElem?_set_ne same, found,
              Option.map_some, owned, ↓reduceIte]
          · refine kept slot ?_ rfl id
            simp only [Table.perform, result, List.getElem?_map, List.getElem?_set_ne same, found,
              Option.map_some, owned, ↓reduceIte]
  | _ => exact kept slot found rfl id

/-- Along a run a generation moves by one bump for every removal. -/
theorem WellFormed.generation_run {table : Table Ref} (formed : table.WellFormed)
    (calls : List (TableCall Ref)) {index : Nat} {slot : Slot Ref}
    (found : table.slots[index]? = some slot) :
    ∃ next, (table.run calls).slots[index]? = some next ∧
      next.generation = Slot.bump^[removals index table calls] slot.generation := by
  induction calls generalizing table slot with
  | nil => exact ⟨slot, found, rfl⟩
  | cons call rest ih =>
      obtain ⟨middle, between, first⟩ := formed.generation_perform call found
      obtain ⟨last, after, second⟩ := ih (formed.perform call) between
      refine ⟨last, after, ?_⟩
      rw [second, first, ← Function.iterate_add_apply, removals, Nat.add_comm]

/-- The slot of a handle the table could have issued, at the handle's generation. -/
def Current (table : Table Ref) (handle : Handle) : Prop :=
  ∃ slot, table.slots[handle.index]? = some slot ∧ slot.generation = handle.generation

/-- A call issues a handle at the generation its slot has, before and after. -/
theorem WellFormed.issued_current {table : Table Ref} (formed : table.WellFormed)
    {call : TableCall Ref} {handle : Handle}
    (issued : (table.perform call).2 = .issued handle) :
    (table.perform call).1.Current handle ∧
      ∀ slot, table.slots[handle.index]? = some slot → slot.generation = handle.generation := by
  obtain ⟨entry, owner, _, outcome, next⟩ := perform_issued issued
  rw [next]
  have current : (table.insertInto entry owner).1.Current handle := by
    have formed' := formed.insertInto entry owner
    rcases insertInto_cases table formed entry owner with
      ⟨index, rest, slot, _, read, result⟩ | ⟨slot, _, read, result⟩
    · rw [result] at outcome ⊢
      obtain rfl := Outcome.ok.inj outcome
      have inside := (List.getElem?_eq_some_iff.mp read).1
      refine ⟨{ slot with entry := some entry, owner := owner }, ?_, ?_⟩
      · rw [Handle.index_encode, List.getElem?_set_self inside]
      · rw [Handle.generation_encode _ _ _
          (formed.generation_lt slot (List.mem_of_getElem? read))]
    · rw [result] at outcome formed' ⊢
      obtain rfl := Outcome.ok.inj outcome
      refine ⟨slot, ?_, ?_⟩
      · rw [Handle.index_encode]
        exact read
      · rw [Handle.generation_encode _ _ _
          (formed'.generation_lt slot (List.mem_of_getElem? read))]
  refine ⟨current, fun slot found => ?_⟩
  obtain ⟨_, after, same⟩ := current
  obtain ⟨last, found', kept, _⟩ := insertInto_slot formed entry owner found
  obtain rfl := Option.some.inj (found'.symm.trans after)
  exact kept.symm.trans same

/-- A handle is dead when nothing reaches an entry through it, no call made with
it changes the table, and no insertion issues it. -/
structure Dead (table : Table Ref) (handle : Handle) : Prop where
  unresolved : ∀ kind, ∃ error, table.validate handle kind = .error error
  unreadable : ∀ variant : Entry Ref → Option Ref,
    ∃ error, typedGetter variant table handle = .error error
  unowned : ∀ runtime, ∃ error, table.requireOwner handle runtime = .error error
  unremovable : ∀ kind, ∃ error, table.removeOfKind handle kind = (table, .error error)
  unissued : ∀ call, (table.perform call).2 ≠ .issued handle

/-- A handle is dead once its slot has another generation. -/
theorem WellFormed.dead_of_generation {table : Table Ref} (formed : table.WellFormed)
    {handle : Handle} {slot : Slot Ref} (found : table.slots[handle.index]? = some slot)
    (moved : slot.generation ≠ handle.generation) : table.Dead handle := by
  have unresolved : ∀ kind, ∃ error, table.validate handle kind = .error error := by
    intro kind
    cases valid : table.validate handle kind with
    | error error => exact ⟨error, rfl⟩
    | ok index =>
        obtain ⟨_, _, _, other, _, read, same, _⟩ := (validate_ok_iff ..).mp valid
        obtain rfl := Option.some.inj (found.symm.trans read)
        exact absurd same moved
  refine ⟨unresolved, ?_, ?_, ?_, ?_⟩
  · intro variant
    obtain ⟨error, invalid⟩ := unresolved handle.kind
    exact ⟨error, by simp only [typedGetter, withEntry, invalid]⟩
  · intro runtime
    obtain ⟨error, invalid⟩ := unresolved handle.kind
    exact ⟨error, by simp only [requireOwner, invalid]⟩
  · intro kind
    obtain ⟨error, invalid⟩ := unresolved kind
    exact ⟨error, by simp only [removeOfKind, invalid]⟩
  · intro call issued
    exact moved ((formed.issued_current issued).2 slot found)

/-- A handle whose slot was vacated since, but not a full cycle of times, is dead. -/
theorem WellFormed.dead_of_removals {table : Table Ref} (formed : table.WellFormed)
    {handle : Handle} (current : table.Current handle) (calls : List (TableCall Ref))
    (removed : 0 < removals handle.index table calls)
    (few : removals handle.index table calls < 2 ^ 24 - 1) : (table.run calls).Dead handle := by
  obtain ⟨slot, found, same⟩ := current
  have member := List.mem_of_getElem? found
  obtain ⟨next, after, moved⟩ := formed.generation_run calls found
  refine (formed.run calls).dead_of_generation after ?_
  rw [moved, ← same]
  exact Slot.iterate_bump_ne _ (formed.generation_pos slot member)
    (formed.generation_lt slot member) removed few

/-- The call removes the entry the handle resolves to: by its own handle, or with
the runtime it is or belongs to. -/
def Removes (table : Table Ref) (handle : Handle) : TableCall Ref → Prop
  | .removeOfKind removed kind =>
      removed = handle ∧ ∃ entry, (table.removeOfKind removed kind).2 = .ok entry
  | .removeRuntime runtime =>
      (runtime = handle ∨ table.requireOwner handle runtime = .ok ()) ∧
        ∃ result, (table.removeRuntime runtime).2 = .ok result
  | _ => False

/-- A handle's slot is vacated by the call that removes its entry. -/
theorem WellFormed.vacates_of_removes {table : Table Ref} (formed : table.WellFormed)
    {handle : Handle} {call : TableCall Ref} (removes : table.Removes handle call) :
    table.vacates call handle.index = 1 := by
  have vacated : ∀ slot : Slot Ref, table.slots[handle.index]? = some slot → slot.entry.isSome →
      (table.perform call).1.slots[handle.index]? = some slot.vacated →
      table.vacates call handle.index = 1 := by
    intro slot found before after
    rw [vacates_eq found after, before]
    rfl
  cases call with
  | removeOfKind removed kind =>
      obtain ⟨rfl, entry, outcome⟩ := removes
      rcases removeOfKind_cases table removed kind with
        ⟨_, _, result⟩ | ⟨slot, _, _, found, _, occupant, _, _, result⟩
      · rw [result] at outcome
        cases outcome
      · refine vacated slot found (by rw [occupant]; rfl) ?_
        simp only [Table.perform, result,
          List.getElem?_set_self (List.getElem?_eq_some_iff.mp found).1]
  | removeRuntime runtime =>
      obtain ⟨which, result, outcome⟩ := removes
      rcases removeRuntime_cases table formed runtime with
        ⟨_, _, final⟩ | ⟨taken, object, stack, valid, read, _, occupant, final⟩
      · rw [final] at outcome
        cases outcome
      · have nonzero : runtime ≠ 0 := ((validate_ok_iff ..).mp valid).1
        have inside := (List.getElem?_eq_some_iff.mp read).1
        by_cases same : runtime.index = handle.index
        · rw [same] at read inside
          refine vacated taken read (by rw [occupant]; rfl) ?_
          simp only [Table.perform, final, same, List.getElem?_map, List.getElem?_set_self inside,
            Option.map_some, Slot.vacated_owner, nonzero.symm, ↓reduceIte]
        · obtain rfl | owned := which
          · exact absurd rfl same
          · obtain ⟨slot, _, found, owner⟩ := (requireOwner_ok_iff ..).mp owned
            refine vacated slot found
              (formed.owner_live slot (List.mem_of_getElem? found) (owner ▸ nonzero)) ?_
            simp only [Table.perform, final, List.getElem?_map, List.getElem?_set_ne same, found,
              Option.map_some, owner, ↓reduceIte]
  | _ => exact removes.elim

/-- A handle issued and later removed stays dead for as long as its slot has been
vacated fewer than `2 ^ 24 - 1` times since the handle was issued. -/
theorem removed_handle_stays_dead (before between after : List (TableCall Ref))
    (issuing removing : TableCall Ref) (handle : Handle)
    (issued : ((empty.run before).perform issuing).2 = .issued handle)
    (removes : (empty.run (before ++ issuing :: between)).Removes handle removing)
    (few : removals handle.index (empty.run (before ++ [issuing]))
      (between ++ removing :: after) < 2 ^ 24 - 1) :
    (empty.run (before ++ issuing :: (between ++ removing :: after)) : Table Ref).Dead handle := by
  have formed : (empty.run before : Table Ref).WellFormed := WellFormed.empty.run before
  have current := (formed.issued_current issued).1
  have split : ∀ calls, (empty.run (before ++ issuing :: calls) : Table Ref) =
      ((empty.run before).perform issuing).1.run calls := fun calls => by
    rw [run_append, run_cons]
  have single := split []
  rw [run_nil] at single
  rw [split] at removes ⊢
  rw [single] at few
  have next := formed.perform issuing
  refine next.dead_of_removals current _ ?_ few
  rw [removals_append, removals, (next.run between).vacates_of_removes removes]
  omega

/-- A poller's handle after the poller was freed and its slot was used again. -/
theorem removed_handle_stays_dead_reused :
    (empty.run [.insert (.poller 0), .removeOfKind (Handle.encode kindPoller 1 0) kindPoller,
      .insert (.poller 1)] : Table Nat).Dead (Handle.encode kindPoller 1 0) :=
  removed_handle_stays_dead [] [] [.insert (.poller 1)] (.insert (.poller 0))
    (.removeOfKind (Handle.encode kindPoller 1 0) kindPoller) (Handle.encode kindPoller 1 0)
    (by decide) ⟨rfl, .poller 0, by decide⟩ (by decide)

end Table

end KtBridge
