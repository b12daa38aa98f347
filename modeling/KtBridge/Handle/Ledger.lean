import KtBridge.Handle.WellFormed

/-! # The handle table as a ledger of leases

What the table is for: a finite map from the handles it issued to the entries
they stand for and the runtimes that own them. A `Lease` is one association of
that map. The ledger of a session is computed from the calls and the answers
alone (`Ledger.record`), without looking at slots, generations or the stack of
vacated indices. The table refines it: while at most `2 ^ 32` slots exist, a
handle resolves exactly when it is leased (`Session.validate_iff`).
-/

namespace KtBridge

variable {Ref : Type}

/-- A handle in use, with the entry it was minted for and the owning runtime. -/
structure Lease (Ref : Type) where
  handle : Handle
  owner : Handle
  entry : Entry Ref
  deriving DecidableEq, Repr

namespace Ledger

/-- The leases after one answered call. -/
def record (ledger : List (Lease Ref)) : TableCall Ref → TableReply Ref → List (Lease Ref)
  | .insert entry, .issued handle => ledger ++ [⟨handle, 0, entry⟩]
  | .insertOwned runtime entry, .issued handle => ledger ++ [⟨handle, runtime, entry⟩]
  | .removeOfKind handle _, .removed _ =>
      ledger.filter fun lease => lease.handle ≠ handle
  | .removeRuntime runtime, .removedRuntime _ _ =>
      ledger.filter fun lease => lease.handle ≠ runtime ∧ lease.owner ≠ runtime
  | _, _ => ledger

end Ledger

/-- A table together with the ledger of the calls made on it. -/
structure Session (Ref : Type) where
  table : Table Ref
  ledger : List (Lease Ref)

namespace Session

def start : Session Ref where
  table := Table.empty
  ledger := []

def step (session : Session Ref) (call : TableCall Ref) : Session Ref where
  table := (session.table.perform call).1
  ledger := Ledger.record session.ledger call (session.table.perform call).2

/-- Make a sequence of calls. -/
def run (session : Session Ref) (calls : List (TableCall Ref)) : Session Ref :=
  calls.foldl step session

@[simp] theorem run_nil (session : Session Ref) : session.run [] = session := rfl

@[simp] theorem run_cons (session : Session Ref) (call : TableCall Ref)
    (calls : List (TableCall Ref)) : session.run (call :: calls) = (session.step call).run calls :=
  rfl

theorem run_append (session : Session Ref) (first second : List (TableCall Ref)) :
    session.run (first ++ second) = (session.run first).run second :=
  List.foldl_append

end Session

namespace Table

/-- An index fits in the 32 bits a handle has for it. -/
def Fits (table : Table Ref) : Prop := table.slots.length ≤ 2 ^ 32

theorem Fits.of_le {table next : Table Ref} (fits : next.Fits)
    (shorter : table.slots.length ≤ next.slots.length) : table.Fits :=
  le_trans shorter fits

theorem take_length {table next : Table Ref} {index : Nat} {entry : Entry Ref}
    (taken : table.take index = some (entry, next)) :
    next.slots.length = table.slots.length := by
  obtain ⟨_, _, _, rfl⟩ := (take_eq_some_iff ..).mp taken
  exact List.length_set

theorem le_length_insertInto (table : Table Ref) (entry : Entry Ref) (owner : Handle) :
    table.slots.length ≤ (table.insertInto entry owner).1.slots.length := by
  unfold insertInto
  split
  · split
    · exact le_rfl
    · rw [List.length_set]
  · rw [List.length_append]
    exact Nat.le_add_right _ _

/-- Slots are never given back. -/
theorem le_length_perform (table : Table Ref) (call : TableCall Ref) :
    table.slots.length ≤ (table.perform call).1.slots.length :=
  perform_induction (fun next => table.slots.length ≤ next.slots.length)
    (fun next entry owner grown => grown.trans (next.le_length_insertInto entry owner))
    (fun _ _ _ _ grown taken => grown.trans_eq (take_length taken).symm) table call le_rfl

/-- The stack of vacated indices names vacant slots, each at most once. -/
structure Compact (table : Table Ref) : Prop where
  free_vacant : ∀ index ∈ table.free, ∀ slot, table.slots[index.toNat]? = some slot →
    slot.entry = none
  free_nodup : table.free.Nodup

theorem Compact.insertInto {table : Table Ref} (formed : table.WellFormed)
    (compact : table.Compact) (entry : Entry Ref) (owner : Handle) :
    (table.insertInto entry owner).1.Compact := by
  rcases insertInto_cases table formed entry owner with
    ⟨index, rest, slot, stack, found, result⟩ | ⟨slot, _, _, result⟩
  · have distinct := compact.free_nodup
    rw [stack, List.nodup_cons] at distinct
    rw [result]
    refine ⟨?_, distinct.2⟩
    intro other present written read
    have different : index.toNat ≠ other.toNat := by
      intro same
      exact distinct.1 (UInt32.toNat_inj.mp same ▸ present)
    rw [List.getElem?_set_ne different] at read
    exact compact.free_vacant other (by rw [stack]; exact List.mem_cons_of_mem _ present) _ read
  · rw [result]
    exact ⟨fun _ present => absurd present List.not_mem_nil, List.nodup_nil⟩

theorem Compact.take {table next : Table Ref} (compact : table.Compact) (fits : table.Fits)
    {index : Nat} {entry : Entry Ref} (taken : table.take index = some (entry, next)) :
    next.Compact := by
  obtain ⟨slot, found, occupant, rfl⟩ := (take_eq_some_iff ..).mp taken
  have inside : index < table.slots.length := (List.getElem?_eq_some_iff.mp found).1
  have exactIndex : (UInt32.ofNat index).toNat = index :=
    UInt32.toNat_ofNat_of_lt' (inside.trans_le fits)
  refine ⟨?_, List.nodup_cons.mpr ⟨?_, compact.free_nodup⟩⟩
  · intro other present written read
    by_cases same : index = other.toNat
    · subst same
      rw [List.getElem?_set_self inside] at read
      rw [← Option.some.inj read]
      rfl
    · rw [List.getElem?_set_ne same] at read
      rcases List.mem_cons.mp present with rfl | old
      · exact absurd exactIndex.symm same
      · exact compact.free_vacant other old _ read
  · intro present
    have vacant := compact.free_vacant _ present slot (by rw [exactIndex]; exact found)
    rw [occupant] at vacant
    exact absurd vacant (Option.some_ne_none entry)

/-- A table stays compact as long as it fits. -/
theorem Compact.perform {table : Table Ref} (formed : table.WellFormed) (compact : table.Compact)
    (call : TableCall Ref) (fits : (table.perform call).1.Fits) :
    (table.perform call).1.Compact := by
  refine (perform_induction (fun next => next.WellFormed ∧ (next.Fits → next.Compact))
    ?_ ?_ table call ⟨formed, fun _ => compact⟩).2 fits
  · rintro next entry owner ⟨formed, compact⟩
    exact ⟨formed.insertInto entry owner, fun fits =>
      Compact.insertInto formed (compact (fits.of_le (next.le_length_insertInto entry owner)))
        entry owner⟩
  · rintro current index entry next ⟨formed, compact⟩ taken
    have bound : current.Fits → next.Fits := fun fits => (take_length taken).trans_le fits
    exact ⟨formed.take taken, fun fits =>
      (compact (fits.of_le (take_length taken).ge)).take (fits.of_le (take_length taken).ge) taken⟩

/-- An insertion that fits occupies one slot that was vacant or new, and issues
the handle of that slot at its generation. -/
theorem insertInto_spec (table : Table Ref) (formed : table.WellFormed) (compact : table.Compact)
    (entry : Entry Ref) (owner : Handle) (fits : (table.insertInto entry owner).1.Fits) :
    ∃ handle : Handle, (table.insertInto entry owner).2 = .ok handle ∧
      handle.kind = entry.kind ∧
      (∀ slot, table.slots[handle.index]? = some slot → slot.entry = none) ∧
      ∀ index, (table.insertInto entry owner).1.slots[index]? =
        if index = handle.index then
          some { generation := handle.generation, owner := owner, entry := some entry }
        else table.slots[index]? := by
  rcases insertInto_cases table formed entry owner with
    ⟨index, rest, slot, stack, found, result⟩ | ⟨slot, _, found, result⟩
  · have masked := formed.generation_lt slot (List.mem_of_getElem? found)
    rw [result]
    refine ⟨_, rfl, Handle.kind_encode _ _ _, ?_, ?_⟩
    · rw [Handle.index_encode]
      exact compact.free_vacant index (by rw [stack]; exact List.mem_cons_self)
    · intro position
      rw [Handle.index_encode, Handle.generation_encode _ _ _ masked]
      by_cases same : position = index.toNat
      · rw [same, if_pos rfl, List.getElem?_set_self (List.getElem?_eq_some_iff.mp found).1]
      · rw [if_neg same, List.getElem?_set_ne (Ne.symm same)]
  · rw [result] at fits ⊢
    have small : table.slots.length < 2 ^ 32 := by
      have := fits
      rw [Fits, List.length_append, List.length_singleton] at this
      omega
    have exactIndex : (UInt32.ofNat table.slots.length).toNat = table.slots.length :=
      UInt32.toNat_ofNat_of_lt' small
    rw [exactIndex, List.getElem?_concat_length] at found
    obtain rfl := Option.some.inj found
    refine ⟨_, rfl, Handle.kind_encode _ _ _, ?_, ?_⟩
    · rw [Handle.index_encode, exactIndex, List.getElem?_eq_none le_rfl]
      exact fun slot absurdity => nomatch absurdity
    · intro position
      rw [Handle.index_encode, exactIndex,
        Handle.generation_encode _ 1 _ (by decide : (1 : UInt32).toNat < 2 ^ 24)]
      by_cases same : position = table.slots.length
      · rw [same, if_pos rfl, List.getElem?_concat_length]
      · rw [if_neg same]
        rcases Nat.lt_or_gt_of_ne same with below | above
        · exact List.getElem?_append_left below
        · rw [List.getElem?_eq_none above.le, List.getElem?_eq_none]
          rw [List.length_append, List.length_singleton]
          exact above

/-- The table has the lease: the handle's slot is occupied by the leased entry,
at the handle's generation and under the leased owner. -/
def Holds (table : Table Ref) (lease : Lease Ref) : Prop :=
  lease.handle.kind = lease.entry.kind ∧
    table.slots[lease.handle.index]? =
      some { generation := lease.handle.generation, owner := lease.owner
             entry := some lease.entry }

/-- Two leases a table has on one slot are the same lease. -/
theorem Holds.eq_of_index {table : Table Ref} {first second : Lease Ref}
    (holdsFirst : table.Holds first) (holdsSecond : table.Holds second)
    (same : first.handle.index = second.handle.index) : first = second := by
  have slots := holdsFirst.2.symm.trans ((congrArg (table.slots[·]?) same).trans holdsSecond.2)
  simp only [Option.some.injEq, Slot.mk.injEq] at slots
  obtain ⟨generations, owners, entries⟩ := slots
  have handles : first.handle = second.handle := by
    refine Handle.ext_readings ?_ generations same
    rw [holdsFirst.1, holdsSecond.1, entries]
  cases first
  cases second
  simp only at handles owners entries
  rw [handles, owners, entries]

/-- Every occupied slot of a well-formed table is the subject of a lease. -/
theorem WellFormed.holds_of_slot {table : Table Ref} (formed : table.WellFormed) (fits : table.Fits)
    {index : Nat} {slot : Slot Ref} {entry : Entry Ref} (found : table.slots[index]? = some slot)
    (occupant : slot.entry = some entry) :
    table.Holds ⟨Handle.encode entry.kind slot.generation (UInt32.ofNat index), slot.owner,
      entry⟩ := by
  have inside : index < table.slots.length := (List.getElem?_eq_some_iff.mp found).1
  refine ⟨Handle.kind_encode _ _ _, ?_⟩
  rw [Handle.index_encode, UInt32.toNat_ofNat_of_lt' (inside.trans_le fits),
    Handle.generation_encode _ _ _ (formed.generation_lt slot (List.mem_of_getElem? found)), found]
  cases slot
  simp only at occupant
  rw [occupant]

/-- A handle resolves for a kind exactly when the table has a lease of it for an
entry of that kind. -/
theorem validate_iff_holds (table : Table Ref) (handle : Handle) (kind : UInt8) :
    (∃ index, table.validate handle kind = .ok index) ↔
      ∃ lease, table.Holds lease ∧ lease.handle = handle ∧ lease.entry.kind = kind := by
  constructor
  · rintro ⟨index, valid⟩
    obtain ⟨_, tagged, _, ⟨generation, owner, _⟩, entry, found, current, occupant, same⟩ :=
      (validate_ok_iff ..).mp valid
    simp only at current occupant
    subst current occupant
    exact ⟨⟨handle, owner, entry⟩, ⟨tagged.trans same.symm, found⟩, rfl, same⟩
  · rintro ⟨lease, ⟨tagged, found⟩, rfl, rfl⟩
    refine ⟨lease.handle.index, (validate_ok_iff ..).mpr
      ⟨Handle.ne_zero_of_kind ?_, tagged, rfl, _, lease.entry, found, rfl, rfl, rfl⟩⟩
    rw [tagged]
    exact lease.entry.kind_ne_zero

/-- The leases after an insertion: one more. -/
theorem holds_insertInto (table : Table Ref) (formed : table.WellFormed) (compact : table.Compact)
    (entry : Entry Ref) (owner : Handle) (fits : (table.insertInto entry owner).1.Fits) :
    ∃ handle, (table.insertInto entry owner).2 = .ok handle ∧
      (∀ lease, table.Holds lease → lease.handle ≠ handle) ∧
      ∀ lease, (table.insertInto entry owner).1.Holds lease ↔
        table.Holds lease ∨ lease = ⟨handle, owner, entry⟩ := by
  obtain ⟨handle, issued, tagged, vacant, slots⟩ := insertInto_spec table formed compact entry
    owner fits
  have apart : ∀ lease, table.Holds lease → lease.handle.index ≠ handle.index := by
    rintro lease ⟨_, found⟩ same
    rw [same] at found
    exact absurd (vacant _ found) (Option.some_ne_none _)
  refine ⟨handle, issued, fun lease holds same => apart lease holds (congrArg _ same), ?_⟩
  have new : (table.insertInto entry owner).1.Holds ⟨handle, owner, entry⟩ := by
    refine ⟨tagged, ?_⟩
    rw [slots, if_pos rfl]
  intro lease
  constructor
  · intro holds
    by_cases same : lease.handle.index = handle.index
    · exact Or.inr (holds.eq_of_index new same)
    · refine Or.inl ⟨holds.1, ?_⟩
      have found := holds.2
      rwa [slots, if_neg same] at found
  · rintro (holds | rfl)
    · refine ⟨holds.1, ?_⟩
      rw [slots, if_neg (apart lease holds)]
      exact holds.2
    · exact new

/-- The leases after a removal: all but the removed one. -/
theorem holds_removeOfKind (table : Table Ref) {handle : Handle} {kind : UInt8} {entry : Entry Ref}
    (removed : (table.removeOfKind handle kind).2 = .ok entry) :
    (∃ lease, table.Holds lease ∧ lease.handle = handle ∧ lease.entry = entry ∧
      entry.kind = kind) ∧
      ∀ lease, (table.removeOfKind handle kind).1.Holds lease ↔
        table.Holds lease ∧ lease.handle ≠ handle := by
  rcases removeOfKind_cases table handle kind with
    ⟨_, _, result⟩ |
      ⟨⟨generation, owner, _⟩, occupied, _, found, current, occupant, same, tagged, result⟩
  · rw [result] at removed
    cases removed
  · rw [result] at removed
    obtain rfl := Outcome.ok.inj removed
    simp only at current occupant
    subst current occupant
    have held : table.Holds ⟨handle, owner, occupied⟩ := ⟨tagged.trans same.symm, found⟩
    have inside := (List.getElem?_eq_some_iff.mp found).1
    refine ⟨⟨_, held, rfl, rfl, same⟩, fun lease => ?_⟩
    rw [result]
    constructor
    · rintro ⟨kinds, occupant⟩
      by_cases here : lease.handle.index = handle.index
      · simp only [here] at occupant
        rw [List.getElem?_set_self inside] at occupant
        exact absurd (congrArg Slot.entry (Option.some.inj occupant)) (Option.some_ne_none _).symm
      · simp only at occupant
        rw [List.getElem?_set_ne (Ne.symm here)] at occupant
        exact ⟨⟨kinds, occupant⟩, fun equal => here (congrArg _ equal)⟩
    · rintro ⟨holds, different⟩
      refine ⟨holds.1, ?_⟩
      have apart : handle.index ≠ lease.handle.index := fun equal =>
        different (congrArg Lease.handle (holds.eq_of_index held equal.symm))
      simp only
      rw [List.getElem?_set_ne apart]
      exact holds.2

/-- A lease the table has can be removed, and gives its entry. -/
theorem Holds.removeOfKind {table : Table Ref} {lease : Lease Ref} (holds : table.Holds lease) :
    (table.removeOfKind lease.handle lease.entry.kind).2 = .ok lease.entry := by
  obtain ⟨index, valid⟩ := (table.validate_iff_holds lease.handle lease.entry.kind).mpr
    ⟨lease, holds, rfl, rfl⟩
  rcases removeOfKind_cases table lease.handle lease.entry.kind with
    ⟨error, invalid, _⟩ | ⟨slot, entry, _, found, _, occupant, _, _, result⟩
  · rw [valid] at invalid
    cases invalid
  · have slots := Option.some.inj (found.symm.trans holds.2)
    rw [slots] at occupant
    rw [result, ← Option.some.inj occupant]

/-- The leases after a runtime's removal: neither the runtime's nor its children's. -/
theorem holds_removeRuntime (table : Table Ref) (formed : table.WellFormed) {runtime : Handle}
    {result : Ref × List (Entry Ref)} (removed : (table.removeRuntime runtime).2 = .ok result) :
    ∀ lease, (table.removeRuntime runtime).1.Holds lease ↔
      table.Holds lease ∧ lease.handle ≠ runtime ∧ lease.owner ≠ runtime := by
  rcases removeRuntime_cases table formed runtime with
    ⟨_, _, outcome⟩ |
      ⟨⟨generation, owner, _⟩, object, stack, valid, found, current, occupant, outcome⟩
  · rw [outcome] at removed
    cases removed
  · simp only at current occupant
    subst current occupant
    have tagged : runtime.kind = kindRuntime := ((validate_ok_iff ..).mp valid).2.1
    have held : table.Holds ⟨runtime, owner, .runtime object⟩ := ⟨tagged, found⟩
    have inside := (List.getElem?_eq_some_iff.mp found).1
    intro lease
    rw [outcome]
    constructor
    · rintro ⟨kinds, occupant⟩
      simp only [List.getElem?_map, Option.map_eq_some_iff] at occupant
      obtain ⟨slot, read, kept⟩ := occupant
      by_cases owned : slot.owner = runtime
      · rw [if_pos owned] at kept
        exact absurd (congrArg Slot.entry kept) (Option.some_ne_none _).symm
      · rw [if_neg owned] at kept
        subst kept
        by_cases here : lease.handle.index = runtime.index
        · rw [here, List.getElem?_set_self inside] at read
          exact absurd (congrArg Slot.entry (Option.some.inj read)) (Option.some_ne_none _).symm
        · rw [List.getElem?_set_ne (Ne.symm here)] at read
          exact ⟨⟨kinds, read⟩, fun equal => here (congrArg _ equal), owned⟩
    · rintro ⟨holds, different, foreign⟩
      have apart : runtime.index ≠ lease.handle.index := fun equal =>
        different (congrArg Lease.handle (holds.eq_of_index held equal.symm))
      refine ⟨holds.1, ?_⟩
      simp only [List.getElem?_map, Option.map_eq_some_iff]
      refine ⟨_, (List.getElem?_set_ne apart).trans holds.2, ?_⟩
      rw [if_neg foreign]

end Table

namespace Session

/-- The table has exactly the leases of the ledger, each under its own handle. -/
structure Refines (session : Session Ref) : Prop where
  formed : session.table.WellFormed
  compact : session.table.Compact
  leased : ∀ lease, lease ∈ session.ledger ↔ session.table.Holds lease
  distinct : (session.ledger.map Lease.handle).Nodup

theorem Refines.start : (start : Session Ref).Refines where
  formed := Table.WellFormed.empty
  compact := ⟨fun _ present => absurd present List.not_mem_nil, List.nodup_nil⟩
  leased := by
    intro lease
    simp [Session.start, Table.Holds, Table.empty]
  distinct := List.nodup_nil

/-- An insertion adds its lease to the ledger. -/
private theorem Refines.issue {session : Session Ref} (refines : session.Refines)
    (entry : Entry Ref) (owner : Handle)
    (fits : (session.table.insertInto entry owner).1.Fits) :
    ∃ handle, (session.table.insertInto entry owner).2 = .ok handle ∧
      Refines ⟨(session.table.insertInto entry owner).1,
        session.ledger ++ [⟨handle, owner, entry⟩]⟩ := by
  obtain ⟨handle, issued, fresh, holds⟩ := session.table.holds_insertInto refines.formed
    refines.compact entry owner fits
  refine ⟨handle, issued, refines.formed.insertInto entry owner,
    Table.Compact.insertInto refines.formed refines.compact entry owner, ?_, ?_⟩
  · intro lease
    rw [holds lease, List.mem_append, List.mem_singleton, refines.leased lease]
  · rw [List.map_append, List.map_singleton]
    refine List.nodup_append.mpr ⟨refines.distinct, List.nodup_singleton _, ?_⟩
    intro first member second single equal
    obtain ⟨lease, present, rfl⟩ := List.mem_map.mp member
    exact fresh lease ((refines.leased lease).mp present)
      (equal.trans (List.mem_singleton.mp single))

/-- Removing leases from the ledger and the table together keeps the refinement. -/
private theorem Refines.retain {session : Session Ref} (refines : session.Refines)
    {table : Table Ref} (formed : table.WellFormed) (compact : table.Compact)
    (keep : Lease Ref → Bool)
    (holds : ∀ lease, table.Holds lease ↔ session.table.Holds lease ∧ keep lease) :
    Refines ⟨table, session.ledger.filter keep⟩ where
  formed := formed
  compact := compact
  leased := by
    intro lease
    rw [List.mem_filter, refines.leased lease, holds lease]
  distinct := refines.distinct.sublist (List.filter_sublist.map _)

/-- One call keeps the refinement as long as the table fits. -/
theorem Refines.step {session : Session Ref} (refines : session.Refines) (call : TableCall Ref)
    (fits : (session.step call).table.Fits) : (session.step call).Refines := by
  have formed := refines.formed.perform call
  have compact := Table.Compact.perform refines.formed refines.compact call fits
  cases call with
  | insert entry =>
      obtain ⟨handle, issued, kept⟩ := refines.issue entry 0 fits
      simpa only [Session.step, Table.perform, Table.insert, issued, Table.answer, Ledger.record]
        using kept
  | insertOwned runtime entry =>
      cases valid : session.table.validate runtime kindRuntime with
      | error error =>
          simpa only [Session.step, Table.perform, Table.insertOwned, valid, Ledger.record]
            using refines
      | ok index =>
          have bound : (session.table.insertInto entry runtime).1.Fits := by
            simp only [Session.step, Table.perform, Table.insertOwned, valid] at fits
            cases outcome : (session.table.insertInto entry runtime).2 <;>
              simpa only [outcome] using fits
          obtain ⟨handle, issued, kept⟩ := refines.issue entry runtime bound
          simpa only [Session.step, Table.perform, Table.insertOwned, valid, issued, Table.answer,
            Ledger.record] using kept
  | removeOfKind handle kind =>
      simp only [Session.step, Table.perform] at formed compact ⊢
      cases outcome : (session.table.removeOfKind handle kind).2 with
      | ok entry =>
          refine refines.retain formed compact (fun lease => decide (lease.handle ≠ handle))
            fun lease => ?_
          rw [(session.table.holds_removeOfKind outcome).2 lease, decide_eq_true_eq]
      | error error =>
          have same := session.table.perform_rejected refines.formed (.removeOfKind handle kind)
            error none (by simp only [Table.perform, outcome, Table.answer])
          simp only [Table.perform] at same
          rw [same]
          exact refines
      | panic =>
          exact absurd (by simp only [Table.perform, outcome, Table.answer])
            (refines.formed.not_panicked (.removeOfKind handle kind))
  | removeRuntime runtime =>
      simp only [Session.step, Table.perform] at formed compact ⊢
      cases outcome : (session.table.removeRuntime runtime).2 with
      | ok result =>
          refine refines.retain formed compact
            (fun lease => decide (lease.handle ≠ runtime ∧ lease.owner ≠ runtime)) fun lease => ?_
          rw [session.table.holds_removeRuntime refines.formed outcome lease, decide_eq_true_eq]
      | error error =>
          have same := session.table.perform_rejected refines.formed (.removeRuntime runtime)
            error none (by simp only [Table.perform, outcome, Table.answer])
          simp only [Table.perform] at same
          rw [same]
          exact refines
      | panic =>
          exact absurd (by simp only [Table.perform, outcome, Table.answer])
            (refines.formed.not_panicked (.removeRuntime runtime))
  | _ => exact refines

theorem le_length_run (session : Session Ref) (calls : List (TableCall Ref)) :
    session.table.slots.length ≤ (session.run calls).table.slots.length := by
  induction calls generalizing session with
  | nil => exact le_rfl
  | cons call rest ih =>
      exact (session.table.le_length_perform call).trans (ih (session.step call))

/-- A run of calls keeps the refinement as long as the table fits. -/
theorem Refines.run {session : Session Ref} (refines : session.Refines)
    (calls : List (TableCall Ref)) (fits : (session.run calls).table.Fits) :
    (session.run calls).Refines := by
  induction calls generalizing session with
  | nil => exact refines
  | cons call rest ih =>
      exact ih (refines.step call (fits.of_le (le_length_run _ rest))) fits

/-- A handle resolves for a kind exactly when it is leased for an entry of that kind. -/
theorem Refines.validate_iff {session : Session Ref} (refines : session.Refines) (handle : Handle)
    (kind : UInt8) :
    (∃ index, session.table.validate handle kind = .ok index) ↔
      ∃ lease ∈ session.ledger, lease.handle = handle ∧ lease.entry.kind = kind := by
  rw [Table.validate_iff_holds]
  simp only [refines.leased]

end Session

end KtBridge
