import KtBridge.Handle.Table
import Mathlib.Data.List.Basic

/-! # Well-formed handle tables

One specification lemma for each function of the table, and the invariant they
rely on: generations stay in `1 .. 2 ^ 24 - 1`, an owned slot is occupied, and
the stack of vacated indices points into the slot vector. It holds of every
table the operations build, whatever the number of slots
(`Table.WellFormed.perform`), and excludes every panic
(`Table.WellFormed.not_panicked`).
-/

namespace KtBridge

variable {Ref : Type}

namespace Slot

theorem one_le_bump (generation : UInt32) : 1 ≤ (bump generation).toNat := by
  unfold bump
  rw [UInt32.toNat_max]
  exact le_max_right _ _

theorem toNat_bump (generation : UInt32) (positive : 1 ≤ generation.toNat)
    (masked : generation.toNat < 2 ^ 24) :
    (bump generation).toNat =
      if generation.toNat = 2 ^ 24 - 1 then 1 else generation.toNat + 1 := by
  have mask : ∀ value : Nat, value &&& 16777215 = value % 2 ^ 24 :=
    fun value => Nat.and_two_pow_sub_one_eq_mod value 24
  have plain : (bump generation).toNat = max ((generation.toNat + 1) % 2 ^ 24) 1 := by
    unfold bump
    rw [UInt32.toNat_max, UInt32.toNat_and, UInt32.toNat_add]
    change max ((generation.toNat + 1) % 2 ^ 32 &&& 16777215) 1 = _
    rw [mask]
    congr 1
    omega
  rw [plain]
  split <;> omega

theorem bump_lt (generation : UInt32) (positive : 1 ≤ generation.toNat)
    (masked : generation.toNat < 2 ^ 24) : (bump generation).toNat < 2 ^ 24 := by
  rw [toNat_bump generation positive masked]
  split <;> omega

@[simp] theorem vacated_entry (slot : Slot Ref) : slot.vacated.entry = none := rfl

@[simp] theorem vacated_owner (slot : Slot Ref) : slot.vacated.owner = 0 := rfl

@[simp] theorem vacated_generation (slot : Slot Ref) :
    slot.vacated.generation = bump slot.generation := rfl

end Slot

namespace Table

/-- A handle resolves for a kind exactly when its slot is occupied by an entry of
that kind at the handle's generation. -/
theorem validate_ok_iff (table : Table Ref) (handle : Handle) (kind : UInt8) (index : Nat) :
    table.validate handle kind = .ok index ↔
      handle ≠ 0 ∧ handle.kind = kind ∧ index = handle.index ∧
        ∃ slot entry, table.slots[handle.index]? = some slot ∧
          slot.generation = handle.generation ∧ slot.entry = some entry ∧ entry.kind = kind := by
  unfold validate
  by_cases zero : handle = 0
  · simp [zero]
  by_cases tagged : handle.kind = kind
  · cases found : table.slots[handle.index]? with
    | none => simp [zero, tagged]
    | some slot =>
        by_cases current : slot.generation = handle.generation
        · cases occupant : slot.entry with
          | none => simp [zero, tagged, occupant]
          | some entry =>
              by_cases same : entry.kind = kind
              · simp [zero, tagged, current, occupant, same, eq_comm]
              · simp [zero, tagged, current, occupant, same]
        · simp [zero, tagged, current]
  · simp [zero, tagged]

theorem validate_index {table : Table Ref} {handle : Handle} {kind : UInt8} {index : Nat}
    (valid : table.validate handle kind = .ok index) : index = handle.index :=
  ((validate_ok_iff ..).mp valid).2.2.1

/-- A slot emptied by `take` was occupied, and only that slot changes. -/
theorem take_eq_some_iff (table next : Table Ref) (index : Nat) (entry : Entry Ref) :
    table.take index = some (entry, next) ↔
      ∃ slot, table.slots[index]? = some slot ∧ slot.entry = some entry ∧
        next = { slots := table.slots.set index slot.vacated
                 free := UInt32.ofNat index :: table.free } := by
  unfold take
  cases found : table.slots[index]? with
  | none => simp
  | some slot =>
      cases occupant : slot.entry with
      | none => simp [occupant]
      | some occupied => simp [occupant, eq_comm]

/-- What holds of every table the operations build. -/
structure WellFormed (table : Table Ref) : Prop where
  generation_pos : ∀ slot ∈ table.slots, 1 ≤ slot.generation.toNat
  generation_lt : ∀ slot ∈ table.slots, slot.generation.toNat < 2 ^ 24
  owner_live : ∀ slot ∈ table.slots, slot.owner ≠ 0 → slot.entry.isSome
  free_bound : ∀ index ∈ table.free, index.toNat < table.slots.length

theorem WellFormed.empty : (empty : Table Ref).WellFormed where
  generation_pos := by simp [Table.empty]
  generation_lt := by simp [Table.empty]
  owner_live := by simp [Table.empty]
  free_bound := by simp [Table.empty]

/-- Emptying a slot keeps the table well formed. -/
theorem WellFormed.take {table next : Table Ref} (formed : table.WellFormed) {index : Nat}
    {entry : Entry Ref} (taken : table.take index = some (entry, next)) : next.WellFormed := by
  obtain ⟨slot, found, _, rfl⟩ := (take_eq_some_iff ..).mp taken
  have member := List.mem_of_getElem? found
  have inside : index < table.slots.length := (List.getElem?_eq_some_iff.mp found).1
  refine ⟨?_, ?_, ?_, ?_⟩
  · intro other present
    rcases List.mem_or_eq_of_mem_set present with old | rfl
    · exact formed.generation_pos other old
    · exact Slot.one_le_bump _
  · intro other present
    rcases List.mem_or_eq_of_mem_set present with old | rfl
    · exact formed.generation_lt other old
    · exact Slot.bump_lt _ (formed.generation_pos slot member) (formed.generation_lt slot member)
  · intro other present owned
    rcases List.mem_or_eq_of_mem_set present with old | rfl
    · exact formed.owner_live other old owned
    · exact absurd rfl owned
  · intro freed present
    rw [List.length_set]
    rcases List.mem_cons.mp present with rfl | old
    · rw [UInt32.toNat_ofNat']
      exact (Nat.mod_le _ _).trans_lt inside
    · exact formed.free_bound freed old

/-- An insertion writes one slot: a vacated one, or a new one at the end. -/
theorem insertInto_cases (table : Table Ref) (formed : table.WellFormed) (entry : Entry Ref)
    (owner : Handle) :
    (∃ index rest slot, table.free = index :: rest ∧ table.slots[index.toNat]? = some slot ∧
      table.insertInto entry owner =
        ({ slots := table.slots.set index.toNat { slot with entry := some entry, owner := owner }
           free := rest }, .ok (Handle.encode entry.kind slot.generation index))) ∨
    (∃ slot, table.free = [] ∧
      (table.slots ++ [({ generation := 1, owner := owner, entry := some entry } : Slot Ref)])[
        (UInt32.ofNat table.slots.length).toNat]? = some slot ∧
      table.insertInto entry owner =
        ({ slots := table.slots ++ [{ generation := 1, owner := owner, entry := some entry }]
           free := [] },
          .ok (Handle.encode entry.kind slot.generation (UInt32.ofNat table.slots.length)))) := by
  cases stack : table.free with
  | cons index rest =>
      have bound := formed.free_bound index (by rw [stack]; exact List.mem_cons_self)
      refine Or.inl ⟨index, rest, table.slots[index.toNat], rfl,
        List.getElem?_eq_getElem bound, ?_⟩
      simp only [insertInto, stack, List.getElem?_eq_getElem bound, mint,
        List.getElem?_set_self bound]
  | nil =>
      have bound : (UInt32.ofNat table.slots.length).toNat <
          (table.slots ++ [({ generation := 1, owner := owner, entry := some entry } :
            Slot Ref)]).length := by
        rw [UInt32.toNat_ofNat', List.length_append, List.length_singleton]
        exact Nat.lt_succ_of_le (Nat.mod_le _ _)
      refine Or.inr ⟨_, rfl, List.getElem?_eq_getElem bound, ?_⟩
      simp only [insertInto, stack, mint, List.getElem?_eq_getElem bound]

/-- Placing an entry keeps the table well formed. -/
theorem WellFormed.insertInto {table : Table Ref} (formed : table.WellFormed) (entry : Entry Ref)
    (owner : Handle) : (table.insertInto entry owner).1.WellFormed := by
  rcases insertInto_cases table formed entry owner with
    ⟨index, rest, slot, stack, found, result⟩ | ⟨slot, _, _, result⟩
  · have member := List.mem_of_getElem? found
    rw [result]
    refine ⟨?_, ?_, ?_, ?_⟩
    · intro other present
      rcases List.mem_or_eq_of_mem_set present with old | rfl
      · exact formed.generation_pos other old
      · exact formed.generation_pos slot member
    · intro other present
      rcases List.mem_or_eq_of_mem_set present with old | rfl
      · exact formed.generation_lt other old
      · exact formed.generation_lt slot member
    · intro other present owned
      rcases List.mem_or_eq_of_mem_set present with old | rfl
      · exact formed.owner_live other old owned
      · rfl
    · intro freed present
      rw [List.length_set]
      exact formed.free_bound freed (by rw [stack]; exact List.mem_cons_of_mem _ present)
  · rw [result]
    refine ⟨?_, ?_, ?_, ?_⟩
    · intro other present
      rcases List.mem_append.mp present with old | new
      · exact formed.generation_pos other old
      · rw [List.mem_singleton.mp new]
        exact (by decide : 1 ≤ (1 : UInt32).toNat)
    · intro other present
      rcases List.mem_append.mp present with old | new
      · exact formed.generation_lt other old
      · rw [List.mem_singleton.mp new]
        exact (by decide : (1 : UInt32).toNat < 2 ^ 24)
    · intro other present owned
      rcases List.mem_append.mp present with old | new
      · exact formed.owner_live other old owned
      · rw [List.mem_singleton.mp new]
        rfl
    · intro freed present
      exact absurd present List.not_mem_nil

/-- The part of the scan still ahead: it takes exactly the owned slots, in order. -/
private theorem sweep_from (runtime : Handle) (nonzero : runtime ≠ 0) (ahead : List (Slot Ref)) :
    ∀ (behind : List (Slot Ref)) (free : List UInt32),
      (∀ slot ∈ ahead, slot.owner ≠ 0 → slot.entry.isSome) →
      ∃ stack, sweep runtime (List.range' behind.length ahead.length)
          { slots := behind ++ ahead, free := free } =
        ({ slots := behind ++ ahead.map fun slot =>
            if slot.owner = runtime then slot.vacated else slot
           free := stack },
          .ok (ahead.filterMap fun slot => if slot.owner = runtime then slot.entry else none)) := by
  induction ahead with
  | nil =>
      intro behind free _
      exact ⟨free, by simp [sweep]⟩
  | cons slot rest ih =>
      intro behind free live
      have here : (behind ++ slot :: rest)[behind.length]? = some slot := by
        rw [List.getElem?_append_right (le_refl _), Nat.sub_self]
        rfl
      have later := fun other (present : other ∈ rest) =>
        live other (List.mem_cons_of_mem _ present)
      rw [List.length_cons, List.range'_succ]
      by_cases owned : slot.owner = runtime
      · obtain ⟨entry, occupant⟩ := Option.isSome_iff_exists.mp
          (live slot List.mem_cons_self (owned ▸ nonzero))
        obtain ⟨stack, swept⟩ := ih (behind ++ [slot.vacated])
          (UInt32.ofNat behind.length :: free) later
        rw [List.length_append, List.length_singleton, List.append_assoc] at swept
        refine ⟨stack, ?_⟩
        simp only [sweep, here, owned, ↓reduceIte, take, occupant]
        rw [List.set_append_right (h := le_refl _), Nat.sub_self, List.set_cons_zero]
        rw [List.singleton_append] at swept
        simp only [swept, List.map_cons, owned, ↓reduceIte, List.filterMap_cons, occupant,
          List.append_assoc, List.singleton_append]
      · obtain ⟨stack, swept⟩ := ih (behind ++ [slot]) free later
        rw [List.length_append, List.length_singleton, List.append_assoc,
          List.singleton_append] at swept
        refine ⟨stack, ?_⟩
        simp only [sweep, here, owned, ↓reduceIte, swept, List.map_cons, List.filterMap_cons,
          List.append_assoc, List.singleton_append]

/-- The scan takes exactly the slots owned by the runtime, in index order. -/
theorem sweep_eq (table : Table Ref) (formed : table.WellFormed) (runtime : Handle)
    (nonzero : runtime ≠ 0) :
    ∃ stack, sweep runtime (List.range table.slots.length) table =
      ({ slots := table.slots.map fun slot =>
          if slot.owner = runtime then slot.vacated else slot
         free := stack },
        .ok (table.slots.filterMap fun slot =>
          if slot.owner = runtime then slot.entry else none)) := by
  obtain ⟨stack, swept⟩ := sweep_from runtime nonzero table.slots [] table.free formed.owner_live
  exact ⟨stack, by simpa [List.range_eq_range'] using swept⟩

/-- A property kept by every `take` is kept by the scan. -/
theorem sweep_induction (predicate : Table Ref → Prop)
    (taken : ∀ table index entry next, predicate table →
      table.take index = some (entry, next) → predicate next)
    (runtime : Handle) (indices : List Nat) (table : Table Ref) (holds : predicate table) :
    predicate (sweep runtime indices table).1 := by
  induction indices generalizing table with
  | nil => exact holds
  | cons index rest ih =>
      cases found : table.slots[index]? with
      | none => simpa only [sweep, found] using holds
      | some slot =>
          by_cases owned : slot.owner = runtime
          · cases emptied : table.take index with
            | none => simpa only [sweep, found, owned, ↓reduceIte, emptied] using holds
            | some result =>
                have last := ih result.2 (taken table index result.1 result.2 holds emptied)
                simp only [sweep, found, owned, ↓reduceIte, emptied]
                cases swept : sweep runtime rest result.2 with
                | mk final outcome =>
                    rw [swept] at last
                    cases outcome <;> exact last
          · simpa only [sweep, found, owned, ↓reduceIte] using ih table holds

/-- A property kept by every insertion and every `take` is kept by every call. -/
theorem perform_induction (predicate : Table Ref → Prop)
    (inserted : ∀ table entry owner, predicate table →
      predicate (table.insertInto entry owner).1)
    (taken : ∀ table index entry next, predicate table →
      table.take index = some (entry, next) → predicate next)
    (table : Table Ref) (call : TableCall Ref) (holds : predicate table) :
    predicate (table.perform call).1 := by
  cases call with
  | insert entry => exact inserted table entry 0 holds
  | insertOwned runtime entry =>
      cases valid : table.validate runtime kindRuntime with
      | error error => simpa only [perform, insertOwned, valid] using holds
      | ok index =>
          have kept := inserted table entry runtime holds
          simp only [perform, insertOwned, valid]
          cases outcome : (table.insertInto entry runtime).2 <;> exact kept
  | removeOfKind handle kind =>
      cases valid : table.validate handle kind with
      | error error => simpa only [perform, removeOfKind, valid] using holds
      | ok index =>
          cases emptied : table.take index with
          | none => simpa only [perform, removeOfKind, valid, emptied] using holds
          | some result =>
              simpa only [perform, removeOfKind, valid, emptied] using
                taken table index result.1 result.2 holds emptied
  | requireOwner handle runtime => exact holds
  | removeRuntime runtime =>
      cases valid : table.validate runtime kindRuntime with
      | error error => simpa only [perform, removeRuntime, valid] using holds
      | ok index =>
          cases emptied : table.take index with
          | none => simpa only [perform, removeRuntime, valid, emptied] using holds
          | some result =>
              obtain ⟨entry, next⟩ := result
              have middle := taken table index entry next holds emptied
              have last := sweep_induction predicate taken runtime (List.range next.slots.length) next middle
              cases entry with
              | runtime object =>
                  simp only [perform, removeRuntime, valid, emptied]
                  cases swept : sweep runtime (List.range next.slots.length) next with
                  | mk final outcome =>
                      rw [swept] at last
                      cases outcome <;> exact last
              | _ => simpa only [perform, removeRuntime, valid, emptied] using middle
  | _ => exact holds

/-- Every call keeps the table well formed. -/
theorem WellFormed.perform {table : Table Ref} (formed : table.WellFormed)
    (call : TableCall Ref) : (table.perform call).1.WellFormed :=
  perform_induction WellFormed (fun _ entry owner holds => holds.insertInto entry owner)
    (fun _ _ _ _ holds taken => holds.take taken) table call formed

/-- A removal is rejected without a change, or empties the slot the handle names. -/
theorem removeOfKind_cases (table : Table Ref) (handle : Handle) (kind : UInt8) :
    (∃ error, table.validate handle kind = .error error ∧
      table.removeOfKind handle kind = (table, .error error)) ∨
    (∃ slot entry, table.validate handle kind = .ok handle.index ∧
      table.slots[handle.index]? = some slot ∧ slot.generation = handle.generation ∧
      slot.entry = some entry ∧ entry.kind = kind ∧ handle.kind = kind ∧
      table.removeOfKind handle kind =
        ({ slots := table.slots.set handle.index slot.vacated
           free := UInt32.ofNat handle.index :: table.free }, .ok entry)) := by
  cases valid : table.validate handle kind with
  | error error => exact Or.inl ⟨error, rfl, by simp only [removeOfKind, valid]⟩
  | ok index =>
      obtain ⟨_, tagged, rfl, slot, entry, found, current, occupant, same⟩ :=
        (validate_ok_iff ..).mp valid
      refine Or.inr ⟨slot, entry, rfl, found, current, occupant, same, tagged, ?_⟩
      simp only [removeOfKind, valid, take, found, occupant]

/-- Removing a runtime is rejected without a change, or empties the runtime's
slot and every slot it owns. -/
theorem removeRuntime_cases (table : Table Ref) (formed : table.WellFormed) (runtime : Handle) :
    (∃ error, table.validate runtime kindRuntime = .error error ∧
      table.removeRuntime runtime = (table, .error error)) ∨
    (∃ slot object stack, table.validate runtime kindRuntime = .ok runtime.index ∧
      table.slots[runtime.index]? = some slot ∧ slot.generation = runtime.generation ∧
      slot.entry = some (.runtime object) ∧
      table.removeRuntime runtime =
        ({ slots := (table.slots.set runtime.index slot.vacated).map fun other =>
            if other.owner = runtime then other.vacated else other
           free := stack },
          .ok (object, (table.slots.set runtime.index slot.vacated).filterMap fun other =>
            if other.owner = runtime then other.entry else none))) := by
  cases valid : table.validate runtime kindRuntime with
  | error error => exact Or.inl ⟨error, rfl, by simp only [removeRuntime, valid]⟩
  | ok index =>
      obtain ⟨nonzero, _, rfl, slot, entry, found, current, occupant, same⟩ :=
        (validate_ok_iff ..).mp valid
      have emptied : table.take runtime.index = some (entry,
          { slots := table.slots.set runtime.index slot.vacated
            free := UInt32.ofNat runtime.index :: table.free }) := by
        simp only [take, found, occupant]
      obtain ⟨stack, swept⟩ := sweep_eq _ (formed.take emptied) runtime nonzero
      cases entry with
      | runtime object =>
          refine Or.inr ⟨slot, object, stack, rfl, found, current, occupant, ?_⟩
          simp only [removeRuntime, valid, emptied, swept]
      | _ => exact absurd same (by simp only [Entry.kind]; decide)

theorem requireOwner_ok_iff (table : Table Ref) (handle runtime : Handle) :
    table.requireOwner handle runtime = .ok () ↔
      ∃ slot, table.validate handle handle.kind = .ok handle.index ∧
        table.slots[handle.index]? = some slot ∧ slot.owner = runtime := by
  unfold requireOwner
  cases valid : table.validate handle handle.kind with
  | error error => simp
  | ok index =>
      obtain ⟨_, _, rfl, slot, _, found, _⟩ := (validate_ok_iff ..).mp valid
      by_cases owned : slot.owner = runtime
      · simp [found, owned]
      · simp [found, owned]

/-- A typed getter finds an object exactly when the handle's slot is occupied by
that object under the getter's variant. -/
theorem typedGetter_ok_iff (variant : Entry Ref → Option Ref) (table : Table Ref)
    (handle : Handle) (object : Ref) :
    typedGetter variant table handle = .ok object ↔
      ∃ slot entry, table.validate handle handle.kind = .ok handle.index ∧
        table.slots[handle.index]? = some slot ∧ slot.entry = some entry ∧
        variant entry = some object := by
  unfold typedGetter withEntry
  cases valid : table.validate handle handle.kind with
  | error error => simp
  | ok index =>
      obtain ⟨_, _, rfl, slot, entry, found, _, occupant, _⟩ := (validate_ok_iff ..).mp valid
      cases read : variant entry with
      | none => simp [found, occupant, read]
      | some other => simp [found, occupant, read]

theorem typedGetter_ne_panic (variant : Entry Ref → Option Ref) (table : Table Ref)
    (handle : Handle) : typedGetter variant table handle ≠ .panic := by
  unfold typedGetter withEntry
  cases valid : table.validate handle handle.kind with
  | error error => simp
  | ok index =>
      obtain ⟨_, _, rfl, slot, entry, found, _, occupant, _⟩ := (validate_ok_iff ..).mp valid
      cases read : variant entry with
      | none => simp [found, occupant, read]
      | some other => simp [found, occupant, read]

/-- Neither an index out of bounds, nor a failed `expect`, nor `unreachable!` is
ever met. -/
theorem WellFormed.not_panicked {table : Table Ref} (formed : table.WellFormed)
    (call : TableCall Ref) : (table.perform call).2 ≠ .panicked := by
  have getter : ∀ variant handle,
      answer .found (typedGetter variant table handle) ≠ .panicked := by
    intro variant handle
    cases outcome : typedGetter variant table handle with
    | ok object => simp [answer]
    | error error => simp [answer]
    | panic => exact absurd outcome (typedGetter_ne_panic variant table handle)
  cases call with
  | insert entry =>
      rcases insertInto_cases table formed entry 0 with
        ⟨_, _, _, _, _, result⟩ | ⟨_, _, _, result⟩ <;>
      simp [Table.perform, insert, result, answer]
  | insertOwned runtime entry =>
      cases valid : table.validate runtime kindRuntime with
      | error error => simp [Table.perform, insertOwned, valid]
      | ok index =>
          rcases insertInto_cases table formed entry runtime with
            ⟨_, _, _, _, _, result⟩ | ⟨_, _, _, result⟩ <;>
          simp [Table.perform, insertOwned, valid, result, answer]
  | removeOfKind handle kind =>
      rcases removeOfKind_cases table handle kind with
        ⟨_, _, result⟩ | ⟨_, _, _, _, _, _, _, _, result⟩ <;>
      simp [Table.perform, result, answer]
  | requireOwner handle runtime =>
      simp only [Table.perform, requireOwner]
      cases valid : table.validate handle handle.kind with
      | error error => simp [answer]
      | ok index =>
          obtain ⟨_, _, rfl, slot, _, found, _⟩ := (validate_ok_iff ..).mp valid
          by_cases owned : slot.owner = runtime <;> simp [found, owned, answer]
  | removeRuntime runtime =>
      rcases removeRuntime_cases table formed runtime with
        ⟨_, _, result⟩ | ⟨_, _, _, _, _, _, _, result⟩ <;>
      simp [Table.perform, result, answer]
  | runtime handle => exact getter _ handle
  | client handle => exact getter _ handle
  | worker handle => exact getter _ handle
  | ephemeral handle => exact getter _ handle
  | poller handle => exact getter _ handle

/-- A call that issues a handle is an insertion, under some owner. -/
theorem perform_issued {table : Table Ref} {call : TableCall Ref} {handle : Handle}
    (issued : (table.perform call).2 = .issued handle) :
    ∃ entry owner, call.inserted? = some entry ∧
      (table.insertInto entry owner).2 = .ok handle ∧
      (table.perform call).1 = (table.insertInto entry owner).1 := by
  have other : ∀ {α : Type} (done : α → TableReply Ref) (outcome : Outcome α),
      (∀ value, done value ≠ .issued handle) → answer done outcome ≠ .issued handle := by
    intro α done outcome differs
    cases outcome with
    | ok value => exact differs value
    | _ => exact nofun
  cases call with
  | insert entry =>
      refine ⟨entry, 0, rfl, ?_, rfl⟩
      simp only [perform, insert] at issued
      cases outcome : (table.insertInto entry 0).2 with
      | ok minted =>
          rw [outcome] at issued
          exact congrArg Outcome.ok (TableReply.issued.inj issued)
      | _ => rw [outcome] at issued; cases issued
  | insertOwned runtime entry =>
      cases valid : table.validate runtime kindRuntime with
      | error error =>
          simp only [perform, insertOwned, valid] at issued
          cases issued
      | ok index =>
          simp only [perform, insertOwned, valid] at issued ⊢
          cases outcome : (table.insertInto entry runtime).2 with
          | ok minted =>
              simp only [outcome] at issued ⊢
              exact ⟨entry, runtime, rfl,
                outcome.trans (congrArg Outcome.ok (TableReply.issued.inj issued)), rfl⟩
          | _ => simp only [outcome] at issued; cases issued
  | _ => exact absurd issued (other _ _ (by nofun))

/-- A rejected call leaves the table as it was. -/
theorem perform_rejected (table : Table Ref) (formed : table.WellFormed) (call : TableCall Ref)
    (error : KtError) (closed : Option (Entry Ref))
    (rejected : (table.perform call).2 = .rejected error closed) :
    (table.perform call).1 = table := by
  cases call with
  | insert entry =>
      rcases insertInto_cases table formed entry 0 with
        ⟨_, _, _, _, _, result⟩ | ⟨_, _, _, result⟩ <;>
      simp [perform, insert, result, answer] at rejected
  | insertOwned runtime entry =>
      cases valid : table.validate runtime kindRuntime with
      | error error => simp only [perform, insertOwned, valid]
      | ok index =>
          rcases insertInto_cases table formed entry runtime with
            ⟨_, _, _, _, _, result⟩ | ⟨_, _, _, result⟩ <;>
          simp [perform, insertOwned, valid, result, answer] at rejected
  | removeOfKind handle kind =>
      rcases removeOfKind_cases table handle kind with
        ⟨_, _, result⟩ | ⟨_, _, _, _, _, _, _, _, result⟩
      · simp only [perform, result]
      · simp [perform, result, answer] at rejected
  | removeRuntime runtime =>
      rcases removeRuntime_cases table formed runtime with
        ⟨_, _, result⟩ | ⟨_, _, _, _, _, _, _, result⟩
      · simp only [perform, result]
      · simp [perform, result, answer] at rejected
  | _ => rfl

end Table

end KtBridge
