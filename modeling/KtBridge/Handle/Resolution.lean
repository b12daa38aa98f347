import KtBridge.Handle.Ledger

/-! # What resolves, and to what

The guarantee of one reachable table with fewer than `2 ^ 32` slots. The ledger
says which handles are in use; the table agrees with it on every 64-bit value,
forged or not.
-/

namespace KtBridge

variable {Ref : Type}

namespace Table

/-- An insertion adds at most one slot. -/
theorem length_insertInto_le (table : Table Ref) (entry : Entry Ref) (owner : Handle) :
    (table.insertInto entry owner).1.slots.length ≤ table.slots.length + 1 := by
  unfold insertInto
  split
  · split
    · exact Nat.le_succ _
    · rw [List.length_set]
      exact Nat.le_succ _
  · rw [List.length_append, List.length_singleton]

/-- Reading through a handle the table has a lease of finds the leased entry. -/
theorem Holds.withEntry {α : Type} {table : Table Ref} {lease : Lease Ref}
    (holds : table.Holds lease) (read : Entry Ref → Except KtError α) :
    table.withEntry lease.handle read =
      match read lease.entry with
      | .ok value => .ok value
      | .error error => .error error := by
  have valid : table.validate lease.handle lease.handle.kind = .ok lease.handle.index := by
    refine (validate_ok_iff ..).mpr ⟨Handle.ne_zero_of_kind ?_, rfl, rfl, _, lease.entry,
      holds.2, rfl, rfl, holds.1.symm⟩
    rw [holds.1]
    exact lease.entry.kind_ne_zero
  cases outcome : read lease.entry <;>
    simp only [Table.withEntry, valid, holds.2, Option.bind_some, outcome]

/-- Every issued handle resolves to the entry just inserted. -/
theorem Compact.issued_resolves {table : Table Ref} (compact : table.Compact)
    (formed : table.WellFormed) (room : table.slots.length < 2 ^ 32) {call : TableCall Ref}
    {entry : Entry Ref} {handle : Handle} (inserts : call.inserted? = some entry)
    (issued : (table.perform call).2 = .issued handle) :
    (table.perform call).1.withEntry handle .ok = .ok entry := by
  obtain ⟨placed, owner, same, outcome, next⟩ := perform_issued issued
  obtain rfl := Option.some.inj (same.symm.trans inserts)
  have fits : (table.insertInto placed owner).1.Fits :=
    (table.length_insertInto_le placed owner).trans room
  obtain ⟨other, minted, _, holds⟩ := table.holds_insertInto formed compact placed owner fits
  obtain rfl : handle = other := Outcome.ok.inj (outcome.symm.trans minted)
  rw [next]
  exact Holds.withEntry ((holds ⟨handle, owner, placed⟩).mpr (Or.inr rfl)) .ok

end Table

namespace Session

/-- With room left, inserting under an owner issues a handle that is not in use. -/
private theorem Refines.issues {session : Session Ref} (refines : session.Refines)
    (room : session.table.slots.length < 2 ^ 32) (entry : Entry Ref) (owner : Handle) :
    ∃ handle, (session.table.insertInto entry owner).2 = .ok handle ∧
      handle ∉ session.ledger.map Lease.handle := by
  have fits : (session.table.insertInto entry owner).1.Fits :=
    (session.table.length_insertInto_le entry owner).trans room
  obtain ⟨handle, issued, fresh, _⟩ := session.table.holds_insertInto refines.formed
    refines.compact entry owner fits
  refine ⟨handle, issued, fun used => ?_⟩
  obtain ⟨lease, present, same⟩ := List.mem_map.mp used
  exact fresh lease ((refines.leased lease).mp present) same

/-- A plain insertion issues a new handle and is recorded without an owner. -/
theorem Refines.insert_issues {session : Session Ref} (refines : session.Refines)
    (room : session.table.slots.length < 2 ^ 32) (entry : Entry Ref) :
    ∃ handle, (session.table.perform (.insert entry)).2 = .issued handle ∧
      handle ∉ session.ledger.map Lease.handle ∧
      (session.step (.insert entry)).ledger = session.ledger ++ [⟨handle, 0, entry⟩] := by
  obtain ⟨handle, issued, fresh⟩ := refines.issues room entry 0
  have answered : (session.table.perform (.insert entry)).2 = .issued handle := by
    simp only [Table.perform, Table.insert, issued, Table.answer]
  refine ⟨handle, answered, fresh, ?_⟩
  simp only [Session.step, answered, Ledger.record]

/-- Under a live runtime an insertion issues a new handle and is recorded under
the runtime; under anything else it is rejected and its entry closed. -/
theorem Refines.insertOwned_issues {session : Session Ref} (refines : session.Refines)
    (room : session.table.slots.length < 2 ^ 32) (runtime : Handle) (entry : Entry Ref) :
    ((∃ index, session.table.validate runtime kindRuntime = .ok index) →
      ∃ handle, (session.table.perform (.insertOwned runtime entry)).2 = .issued handle ∧
        handle ∉ session.ledger.map Lease.handle ∧
        (session.step (.insertOwned runtime entry)).ledger =
          session.ledger ++ [⟨handle, runtime, entry⟩]) ∧
    ((¬ ∃ index, session.table.validate runtime kindRuntime = .ok index) →
      (session.table.perform (.insertOwned runtime entry)).2 =
        .rejected .shutdown (some entry)) := by
  cases valid : session.table.validate runtime kindRuntime with
  | error error =>
      refine ⟨fun live => ?_, fun _ => ?_⟩
      · obtain ⟨index, resolved⟩ := live
        cases resolved
      · simp only [Table.perform, Table.insertOwned, valid]
  | ok index =>
      refine ⟨fun _ => ?_, fun dead => absurd ⟨index, rfl⟩ dead⟩
      obtain ⟨handle, issued, fresh⟩ := refines.issues room entry runtime
      have answered : (session.table.perform (.insertOwned runtime entry)).2 = .issued handle := by
        simp only [Table.perform, Table.insertOwned, valid, issued, Table.answer]
      refine ⟨handle, answered, fresh, ?_⟩
      simp only [Session.step, answered, Ledger.record]

/-- A lease in use is removed on request, and its entry handed over. -/
theorem Refines.remove_removes {session : Session Ref} (refines : session.Refines)
    {lease : Lease Ref} (present : lease ∈ session.ledger) :
    (session.table.perform (.removeOfKind lease.handle lease.entry.kind)).2 =
      .removed lease.entry := by
  simp only [Table.perform, ((refines.leased lease).mp present).removeOfKind, Table.answer]

/-- In every reachable table with fewer than `2 ^ 32` slots: a value validates
for a kind exactly when it was minted for an entry of that kind that is still in
use, the entries in use are exactly those in the slots and have distinct nonzero
handles, every insertion (an owned one under a live runtime) issues a handle not
in use and puts its entry in use under it, a new handle resolves to the entry
just inserted, an entry in use is removed on request, and a rejected call changes
nothing. -/
theorem handles_resolve_exactly (calls : List (TableCall Ref))
    (room : (start.run calls : Session Ref).table.slots.length < 2 ^ 32) :
    (∀ handle kind, (∃ index, (start.run calls).table.validate handle kind = .ok index) ↔
      ∃ lease ∈ (start.run calls).ledger, lease.handle = handle ∧ lease.entry.kind = kind) ∧
    (∀ (index : Nat) (slot : Slot Ref) (entry : Entry Ref),
      (start.run calls).table.slots[index]? = some slot ∧ slot.entry = some entry ↔
      ∃ lease ∈ (start.run calls).ledger, lease.handle.index = index ∧
        slot = ⟨lease.handle.generation, lease.owner, some lease.entry⟩ ∧ lease.entry = entry) ∧
    ((start.run calls).ledger.map Lease.handle).Nodup ∧
    (∀ lease ∈ (start.run calls).ledger, lease.handle ≠ 0) ∧
    (∀ entry : Entry Ref, ∃ handle,
      ((start.run calls).table.perform (.insert entry)).2 = .issued handle ∧
      handle ∉ (start.run calls).ledger.map Lease.handle ∧
      (start.run (calls ++ [.insert entry])).ledger =
        (start.run calls).ledger ++ [⟨handle, 0, entry⟩]) ∧
    (∀ (runtime : Handle) (entry : Entry Ref),
      ((∃ index, (start.run calls).table.validate runtime kindRuntime = .ok index) →
        ∃ handle, ((start.run calls).table.perform (.insertOwned runtime entry)).2 =
            .issued handle ∧
          handle ∉ (start.run calls).ledger.map Lease.handle ∧
          (start.run (calls ++ [.insertOwned runtime entry])).ledger =
            (start.run calls).ledger ++ [⟨handle, runtime, entry⟩]) ∧
      ((¬ ∃ index, (start.run calls).table.validate runtime kindRuntime = .ok index) →
        ((start.run calls).table.perform (.insertOwned runtime entry)).2 =
          .rejected .shutdown (some entry))) ∧
    (∀ (call : TableCall Ref) (entry : Entry Ref) (handle : Handle),
      call.inserted? = some entry →
      ((start.run calls).table.perform call).2 = .issued handle →
      ((start.run calls).table.perform call).1.withEntry handle .ok = .ok entry) ∧
    (∀ lease ∈ (start.run calls).ledger,
      ((start.run calls).table.perform (.removeOfKind lease.handle lease.entry.kind)).2 =
        .removed lease.entry) ∧
    ∀ (call : TableCall Ref) (error : KtError) (closed : Option (Entry Ref)),
      ((start.run calls).table.perform call).2 = .rejected error closed →
      ((start.run calls).table.perform call).1 = (start.run calls).table := by
  have refines := Refines.start.run calls room.le
  refine ⟨refines.validate_iff, ?_, refines.distinct, ?_, ?_, ?_, ?_,
    fun lease present => refines.remove_removes present, ?_⟩
  · intro index slot entry
    constructor
    · rintro ⟨found, occupant⟩
      have holds := refines.formed.holds_of_slot room.le found occupant
      have inside : index < 2 ^ 32 := (List.getElem?_eq_some_iff.mp found).1.trans room
      refine ⟨_, (refines.leased _).mpr holds, ?_, ?_, rfl⟩
      · rw [Handle.index_encode, UInt32.toNat_ofNat_of_lt' inside]
      · rw [Handle.generation_encode _ _ _
          (refines.formed.generation_lt slot (List.mem_of_getElem? found)), ← occupant]
    · rintro ⟨lease, present, rfl, rfl, rfl⟩
      exact ⟨((refines.leased lease).mp present).2, rfl⟩
  · intro lease present
    refine Handle.ne_zero_of_kind ?_
    rw [((refines.leased lease).mp present).1]
    exact lease.entry.kind_ne_zero
  · intro entry
    rw [run_append]
    exact refines.insert_issues room entry
  · intro runtime entry
    rw [run_append]
    exact refines.insertOwned_issues room runtime entry
  · intro call entry handle inserts issued
    exact refines.compact.issued_resolves refines.formed room inserts issued
  · intro call error closed rejected
    exact Table.perform_rejected _ refines.formed call error closed rejected

/-- A runtime, a client of it, and the client's slot used again for a poller. -/
def reusedCalls : List (TableCall Nat) :=
  [.insert (.runtime 0), .insertOwned (Handle.encode kindRuntime 1 0) (.client 1),
    .removeOfKind (Handle.encode kindClient 1 1) kindClient, .insert (.poller 2)]

/-- After the reuse the runtime's and the poller's handles resolve, the old
client's does not, and the next client of the runtime gets one that does. -/
theorem handles_resolve_exactly_reused :
    (start.run reusedCalls).table.slots.length < 2 ^ 32 ∧
      (∃ index, (start.run reusedCalls).table.validate (Handle.encode kindRuntime 1 0)
        kindRuntime = .ok index) ∧
      (∃ index, (start.run reusedCalls).table.validate (Handle.encode kindPoller 2 1)
        kindPoller = .ok index) ∧
      (¬ ∃ index, (start.run reusedCalls).table.validate (Handle.encode kindClient 1 1)
        kindClient = .ok index) ∧
      ∃ handle,
        ((start.run reusedCalls).table.perform
          (.insertOwned (Handle.encode kindRuntime 1 0) (.client 3))).2 = .issued handle ∧
        ((start.run reusedCalls).table.perform
          (.insertOwned (Handle.encode kindRuntime 1 0) (.client 3))).1.withEntry handle .ok =
            .ok (.client 3) := by
  have room : (start.run reusedCalls).table.slots.length < 2 ^ 32 := by decide
  obtain ⟨resolve, _, _, _, _, owned, fresh, _⟩ := handles_resolve_exactly reusedCalls room
  have live := (resolve (Handle.encode kindRuntime 1 0) kindRuntime).mpr (by decide)
  obtain ⟨handle, issued, _⟩ := (owned _ (.client 3)).1 live
  exact ⟨room, live, (resolve (Handle.encode kindPoller 2 1) kindPoller).mpr (by decide),
    fun valid => absurd ((resolve _ _).mp valid) (by decide),
    handle, issued, fresh _ _ handle rfl issued⟩

end Session

end KtBridge
