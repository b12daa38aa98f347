import KtBridge.Handle.Generations
import KtBridge.Handle.Ledger
import Mathlib.Data.List.Sigma
import Mathlib.Data.List.Perm.Lattice

/-! # Runtimes own their children

The exports place runtimes and pollers without an owner, place clients, workers
and servers under a live runtime, and remove a runtime only together with what it
owns. While the slots fit, an owner is therefore always a live runtime
(`Ledger.Owned`), and removing a runtime hands over exactly its children
(`Session.runtime_removal_is_exact`). Past `2 ^ 32` slots an index no longer fits
in a handle, and a swept child frees the slot of another entry
(`Session.owner_outlives_runtime`).
-/

namespace KtBridge

variable {Ref : Type}

/-- The calls the exports make on the table. -/
def TableCall.Exported : TableCall Ref → Prop
  | .insert entry => entry.kind = kindRuntime ∨ entry.kind = kindPoller
  | .insertOwned _ entry =>
      entry.kind = kindClient ∨ entry.kind = kindWorker ∨ entry.kind = kindEphemeral
  | .removeOfKind _ kind =>
      kind = kindClient ∨ kind = kindWorker ∨ kind = kindEphemeral ∨ kind = kindPoller
  | _ => True

namespace Table

/-- Every owned slot is occupied, and its owner is a live runtime. -/
def OwnersLive (table : Table Ref) : Prop :=
  ∀ slot ∈ table.slots, slot.owner ≠ 0 →
    slot.entry.isSome ∧ ∃ index, table.validate slot.owner kindRuntime = .ok index

/-- The leases of the occupied slots, in slot order. -/
def leases (table : Table Ref) : List (Lease Ref) :=
  table.slots.zipIdx.filterMap fun (slot, index) =>
    slot.entry.map fun entry =>
      ⟨Handle.encode entry.kind slot.generation (UInt32.ofNat index), slot.owner, entry⟩

theorem mem_leases {table : Table Ref} {lease : Lease Ref} :
    lease ∈ table.leases ↔ ∃ (index : Nat) (slot : Slot Ref) (entry : Entry Ref),
      table.slots[index]? = some slot ∧ slot.entry = some entry ∧
        lease = ⟨Handle.encode entry.kind slot.generation (UInt32.ofNat index), slot.owner,
          entry⟩ := by
  simp only [leases, List.mem_filterMap, Prod.exists, List.mk_mem_zipIdx_iff_getElem?,
    Option.map_eq_some_iff]
  constructor
  · rintro ⟨slot, index, found, entry, occupant, rfl⟩
    exact ⟨index, slot, entry, found, occupant, rfl⟩
  · rintro ⟨index, slot, entry, found, occupant, rfl⟩
    exact ⟨slot, index, found, entry, occupant, rfl⟩

/-- While the slots fit, the leases read off the slots are those the table holds. -/
theorem WellFormed.mem_leases_iff {table : Table Ref} (formed : table.WellFormed)
    (fits : table.Fits) (lease : Lease Ref) : lease ∈ table.leases ↔ table.Holds lease := by
  rw [mem_leases]
  constructor
  · rintro ⟨index, slot, entry, found, occupant, rfl⟩
    exact formed.holds_of_slot fits found occupant
  · intro holds
    refine ⟨lease.handle.index, _, lease.entry, holds.2, rfl, ?_⟩
    obtain ⟨handle, owner, entry⟩ := lease
    have tagged := holds.1
    simp only at tagged ⊢
    rw [← tagged, Handle.encode_readings]

theorem Fits.nodup_leases {table : Table Ref} (fits : table.Fits) : table.leases.Nodup := by
  have bound : ∀ slot index, (slot, index) ∈ table.slots.zipIdx → index < 2 ^ 32 := by
    intro slot index member
    exact (List.getElem?_eq_some_iff.mp (List.mk_mem_zipIdx_iff_getElem?.mp member)).1.trans_le fits
  have positions : table.slots.zipIdx.Pairwise fun first second => first.2 ≠ second.2 :=
    List.pairwise_map.mp (List.nodup_zipIdx_map_snd table.slots)
  refine List.pairwise_filterMap.mpr (positions.imp_of_mem ?_)
  rintro ⟨first, i⟩ ⟨second, j⟩ memberFirst memberSecond apart lease left other right same
  obtain ⟨_, _, rfl⟩ := Option.map_eq_some_iff.mp left
  obtain ⟨_, _, rfl⟩ := Option.map_eq_some_iff.mp right
  refine apart ?_
  have indices := congrArg (fun lease : Lease Ref => lease.handle.index) same
  simp only [Handle.index_encode, UInt32.toNat_ofNat_of_lt' (bound _ _ memberFirst),
    UInt32.toNat_ofNat_of_lt' (bound _ _ memberSecond)] at indices
  exact indices

/-- The entries owned by a runtime, read off the leases or off the slots. -/
theorem map_entry_leases (table : Table Ref) (runtime : Handle) :
    (table.leases.filter fun lease => lease.owner = runtime).map Lease.entry =
      table.slots.filterMap fun slot => if slot.owner = runtime then slot.entry else none := by
  have slots := List.zipIdx_map_fst 0 table.slots
  conv_rhs => rw [← slots, List.filterMap_map]
  rw [leases, List.filter_filterMap, List.map_filterMap]
  refine List.filterMap_congr fun pair _ => ?_
  obtain ⟨⟨generation, owner, entry⟩, index⟩ := pair
  by_cases owned : owner = runtime
  · cases entry <;> simp [owned]
  · cases entry <;> simp [owned]

/-- Slots the runtime does not own are passed over by the scan. -/
theorem sweep_append (runtime : Handle) (foreign rest : List Nat) (table : Table Ref)
    (passed : ∀ index ∈ foreign, ∃ slot, table.slots[index]? = some slot ∧ slot.owner ≠ runtime) :
    sweep runtime (foreign ++ rest) table = sweep runtime rest table := by
  induction foreign with
  | nil => rfl
  | cons index others ih =>
      obtain ⟨slot, found, unowned⟩ := passed index List.mem_cons_self
      rw [List.cons_append]
      simp only [sweep, found, unowned, ↓reduceIte]
      exact ih fun other member => passed other (List.mem_cons_of_mem _ member)

/-- Inserting over and over without vacated slots appends as many slots. -/
theorem run_replicate_insert (count : Nat) (table : Table Ref) (entry : Entry Ref)
    (full : table.free = []) :
    table.run (List.replicate count (.insert entry)) =
      { slots := table.slots ++ List.replicate count ⟨1, 0, some entry⟩, free := [] } := by
  induction count generalizing table with
  | zero =>
      obtain ⟨slots, free⟩ := table
      simp only at full
      rw [full, List.replicate_zero, List.replicate_zero, List.append_nil, run_nil]
  | succ count ih =>
      have next : (table.perform (.insert entry)).1 =
          { slots := table.slots ++ [⟨1, 0, some entry⟩], free := [] } := by
        simp only [perform, insert, insertInto, full]
      rw [List.replicate_succ, run_cons, next, ih _ rfl, List.replicate_succ, List.append_assoc,
        List.singleton_append]

end Table

namespace Ledger

/-- Each owner in a ledger is a leased runtime, and runtimes have no owner. -/
structure Owned (ledger : List (Lease Ref)) : Prop where
  rooted : ∀ lease ∈ ledger, lease.entry.kind = kindRuntime → lease.owner = 0
  parented : ∀ lease ∈ ledger, lease.owner ≠ 0 →
    ∃ parent ∈ ledger, parent.handle = lease.owner ∧ parent.entry.kind = kindRuntime

theorem Owned.nil : Owned ([] : List (Lease Ref)) where
  rooted := fun _ absent => absurd absent List.not_mem_nil
  parented := fun _ absent => absurd absent List.not_mem_nil

/-- One lease more: a runtime or poller without an owner, or a child of a live runtime. -/
theorem Owned.append {ledger : List (Lease Ref)} (owned : Owned ledger) (lease : Lease Ref)
    (root : lease.entry.kind = kindRuntime → lease.owner = 0)
    (parent : lease.owner ≠ 0 →
      ∃ parent ∈ ledger, parent.handle = lease.owner ∧ parent.entry.kind = kindRuntime) :
    Owned (ledger ++ [lease]) where
  rooted := by
    intro other member
    rcases List.mem_append.mp member with old | new
    · exact owned.rooted other old
    · rw [List.mem_singleton.mp new]
      exact root
  parented := by
    intro other member foreign
    rcases List.mem_append.mp member with old | new
    · obtain ⟨found, present, same⟩ := owned.parented other old foreign
      exact ⟨found, List.mem_append_left _ present, same⟩
    · rw [List.mem_singleton.mp new] at foreign ⊢
      obtain ⟨found, present, same⟩ := parent foreign
      exact ⟨found, List.mem_append_left _ present, same⟩

/-- Fewer leases: no runtime may go before its children. -/
theorem Owned.filter {ledger : List (Lease Ref)} (owned : Owned ledger) (keep : Lease Ref → Bool)
    (parents : ∀ lease, keep lease → ∀ parent ∈ ledger,
      parent.handle = lease.owner → parent.entry.kind = kindRuntime → keep parent) :
    Owned (ledger.filter keep) where
  rooted := fun lease member => owned.rooted lease (List.mem_filter.mp member).1
  parented := by
    intro lease member foreign
    obtain ⟨present, kept⟩ := List.mem_filter.mp member
    obtain ⟨parent, there, same, tagged⟩ := owned.parented lease present foreign
    exact ⟨parent, List.mem_filter.mpr ⟨there, parents lease kept parent there same tagged⟩,
      same, tagged⟩

end Ledger

namespace Session

/-- One exported call keeps the ownership of the ledger. -/
theorem Refines.owned_step {session : Session Ref} (refines : session.Refines)
    (owned : Ledger.Owned session.ledger) (call : TableCall Ref) (exported : call.Exported) :
    Ledger.Owned (session.step call).ledger := by
  cases call with
  | insert entry =>
      simp only [Session.step, Table.perform]
      cases (session.table.insert entry).2 with
      | ok handle => exact owned.append ⟨handle, 0, entry⟩ (fun _ => rfl) (absurd rfl)
      | _ => exact owned
  | insertOwned runtime entry =>
      cases valid : session.table.validate runtime kindRuntime with
      | error error =>
          simpa only [Session.step, Table.perform, Table.insertOwned, valid, Ledger.record] using
            owned
      | ok index =>
          have parent := (refines.validate_iff runtime kindRuntime).mp ⟨index, valid⟩
          have child : entry.kind ≠ kindRuntime := by
            rcases exported with kind | kind | kind <;> rw [kind] <;> decide
          simp only [Session.step, Table.perform, Table.insertOwned, valid]
          cases (session.table.insertInto entry runtime).2 with
          | ok handle =>
              exact owned.append ⟨handle, runtime, entry⟩ (fun kind => absurd kind child)
                fun _ => parent
          | _ => exact owned
  | removeOfKind handle kind =>
      simp only [Session.step, Table.perform]
      cases outcome : (session.table.removeOfKind handle kind).2 with
      | ok entry =>
          refine owned.filter _ fun lease _ parent present same tagged => ?_
          obtain ⟨removed, held, whose, what, which⟩ := (session.table.holds_removeOfKind outcome).1
          refine decide_eq_true fun gone => ?_
          -- The removed entry is not a runtime, so it is nobody's parent.
          have equal : parent = removed := ((refines.leased parent).mp present).eq_of_index held
            (by rw [gone, whose])
          rw [equal, what, which] at tagged
          subst tagged
          rcases exported with wrong | wrong | wrong | wrong <;> exact absurd wrong (by decide)
      | _ => exact owned
  | removeRuntime runtime =>
      simp only [Session.step, Table.perform]
      cases outcome : (session.table.removeRuntime runtime).2 with
      | ok result =>
          refine owned.filter _ fun lease kept parent present same tagged => ?_
          have foreign := (of_decide_eq_true kept).2
          have nonzero : runtime ≠ 0 := by
            rintro rfl
            simp [Table.removeRuntime, Table.validate] at outcome
          refine decide_eq_true ⟨fun gone => foreign (same.symm.trans gone), ?_⟩
          rw [owned.rooted parent present tagged]
          exact nonzero.symm
      | _ => exact owned
  | _ => exact owned

/-- A run of exported calls keeps the ownership as long as the table fits. -/
theorem Refines.owned_run {session : Session Ref} (refines : session.Refines)
    (owned : Ledger.Owned session.ledger) (calls : List (TableCall Ref))
    (exported : ∀ call ∈ calls, call.Exported) (fits : (session.run calls).table.Fits) :
    Ledger.Owned (session.run calls).ledger := by
  induction calls generalizing session with
  | nil => exact owned
  | cons call rest ih =>
      exact ih (refines.step call (fits.of_le (le_length_run _ rest)))
        (refines.owned_step owned call (exported call List.mem_cons_self))
        (fun other member => exported other (List.mem_cons_of_mem _ member)) fits

/-- The ledger's ownership is the table's: every owner is a live runtime. -/
theorem Refines.ownersLive {session : Session Ref} (refines : session.Refines)
    (owned : Ledger.Owned session.ledger) (fits : session.table.Fits) :
    session.table.OwnersLive := by
  intro slot member foreign
  have live := refines.formed.owner_live slot member foreign
  refine ⟨live, ?_⟩
  obtain ⟨entry, occupant⟩ := Option.isSome_iff_exists.mp live
  obtain ⟨index, found⟩ := List.mem_iff_getElem?.mp member
  have holds := refines.formed.holds_of_slot fits found occupant
  exact (refines.validate_iff slot.owner kindRuntime).mpr
    (owned.parented _ ((refines.leased _).mpr holds) foreign)

/-- The ledger lists exactly the leases of the occupied slots. -/
theorem Refines.perm_leases {session : Session Ref} (refines : session.Refines)
    (fits : session.table.Fits) : session.ledger.Perm session.table.leases := by
  refine (List.perm_ext_iff_of_nodup refines.distinct.of_map fits.nodup_leases).mpr fun lease => ?_
  rw [refines.leased, refines.formed.mem_leases_iff fits]

/-- The children a removal hands over are those the ledger has under the runtime. -/
theorem Refines.children_perm {session : Session Ref} (refines : session.Refines)
    (owned : Ledger.Owned session.ledger) (fits : session.table.Fits) {runtime : Handle}
    {object : Ref} {children : List (Entry Ref)}
    (removed : (session.table.removeRuntime runtime).2 = .ok (object, children)) :
    children.Perm
      ((session.ledger.filter fun lease => lease.owner = runtime).map Lease.entry) := by
  rcases session.table.removeRuntime_cases refines.formed runtime with
    ⟨_, _, outcome⟩ | ⟨slot, found, stack, valid, read, current, occupant, outcome⟩
  · rw [outcome] at removed
    cases removed
  · rw [outcome] at removed
    obtain ⟨rfl, rfl⟩ := Prod.mk.inj (Outcome.ok.inj removed)
    have nonzero : runtime ≠ 0 := ((Table.validate_ok_iff ..).mp valid).1
    have holds := refines.formed.holds_of_slot fits read occupant
    have unowned : slot.owner = 0 := owned.rooted _ ((refines.leased _).mpr holds) rfl
    refine List.Perm.trans ?_ ((refines.perm_leases fits).symm.filter _ |>.map _)
    rw [Table.map_entry_leases]
    -- Neither the runtime's slot nor the vacated slot in its place is owned by the runtime.
    have inside := (List.getElem?_eq_some_iff.mp read).1
    have same : ((session.table.slots.set runtime.index slot.vacated).map fun other =>
        if other.owner = runtime then other.entry else none) =
        session.table.slots.map fun other => if other.owner = runtime then other.entry else none := by
      rw [List.map_set]
      refine List.ext_getElem? fun index => ?_
      by_cases here : runtime.index = index
      · subst here
        rw [List.getElem?_set_self (by rw [List.length_map]; exact inside), List.getElem?_map, read]
        simp [unowned, nonzero.symm]
      · rw [List.getElem?_set_ne here]
    have collect : ∀ slots : List (Slot Ref),
        (slots.filterMap fun other => if other.owner = runtime then other.entry else none) =
          (slots.map fun other => if other.owner = runtime then other.entry else none).filterMap
            id := fun slots => by rw [List.filterMap_map]; rfl
    rw [collect, collect, same]

/-- A handle removed with a runtime stays dead until its slot has gone once around. -/
private theorem dead_after_removal {table : Table Ref} (formed : table.WellFormed)
    {handle runtime : Handle} (current : table.Current handle)
    (removes : table.Removes handle (.removeRuntime runtime)) (later : List (TableCall Ref))
    (few : 1 + Table.removals handle.index (table.removeRuntime runtime).1 later < 2 ^ 24 - 1) :
    ((table.removeRuntime runtime).1.run later).Dead handle := by
  have vacated := formed.vacates_of_removes removes
  have count : Table.removals handle.index table (.removeRuntime runtime :: later) =
      1 + Table.removals handle.index (table.removeRuntime runtime).1 later := by
    rw [Table.removals, vacated]
    rfl
  exact formed.dead_of_removals current (.removeRuntime runtime :: later) (by omega) (by omega)

/-- In every table the exports reach while its slots fit: each owned slot is
occupied and its owner is a live runtime; removing a runtime meets no panic,
succeeds exactly when it is live, hands over exactly the entries placed under it
and still there, and changes no other slot; from then on, until a slot has gone once around, no child resolves and
every insertion under the runtime is rejected and its entry closed. -/
theorem runtime_removal_is_exact (calls : List (TableCall Ref))
    (exported : ∀ call ∈ calls, call.Exported)
    (fits : (start.run calls : Session Ref).table.slots.length ≤ 2 ^ 32) :
    (start.run calls).table.OwnersLive ∧
    ∀ runtime,
      ((start.run calls).table.removeRuntime runtime).2 ≠ .panic ∧
      ((∃ index, (start.run calls).table.validate runtime kindRuntime = .ok index) ↔
        ∃ result, ((start.run calls).table.removeRuntime runtime).2 = .ok result) ∧
      ∀ object children,
        ((start.run calls).table.removeRuntime runtime).2 = .ok (object, children) →
        children.Perm (((start.run calls).ledger.filter fun lease =>
          lease.owner = runtime).map Lease.entry) ∧
        (∀ (index : Nat) (slot : Slot Ref), (start.run calls).table.slots[index]? = some slot →
          index ≠ runtime.index → slot.owner ≠ runtime →
          ((start.run calls).table.removeRuntime runtime).1.slots[index]? = some slot) ∧
        (∀ lease ∈ (start.run calls).ledger, lease.owner = runtime → ∀ later,
          1 + Table.removals lease.handle.index
            ((start.run calls).table.removeRuntime runtime).1 later < 2 ^ 24 - 1 →
          (((start.run calls).table.removeRuntime runtime).1.run later).Dead lease.handle) ∧
        ∀ (later : List (TableCall Ref)) (entry : Entry Ref),
          1 + Table.removals runtime.index
            ((start.run calls).table.removeRuntime runtime).1 later < 2 ^ 24 - 1 →
          (((start.run calls).table.removeRuntime runtime).1.run later).insertOwned runtime entry =
            (((start.run calls).table.removeRuntime runtime).1.run later, .error .shutdown,
              some entry) := by
  have refines := Refines.start.run calls fits
  have owned := Refines.start.owned_run Ledger.Owned.nil calls exported fits
  refine ⟨refines.ownersLive owned fits,
    fun runtime => ⟨?_, ?_, fun object children removed => ?_⟩⟩
  · rcases (start.run calls).table.removeRuntime_cases refines.formed runtime with
      ⟨_, _, outcome⟩ | ⟨_, _, _, _, _, _, _, outcome⟩ <;> simp [outcome]
  · rcases (start.run calls).table.removeRuntime_cases refines.formed runtime with
      ⟨_, invalid, outcome⟩ | ⟨_, _, _, valid, _, _, _, outcome⟩
    · simp [invalid, outcome]
    · simp [valid, outcome]
  have whole : ∃ result, ((start.run calls).table.removeRuntime runtime).2 = .ok result :=
    ⟨_, removed⟩
  refine ⟨refines.children_perm owned fits removed, ?_, ?_, ?_⟩
  · intro index slot found apart foreign
    rcases (start.run calls).table.removeRuntime_cases refines.formed runtime with
      ⟨_, _, outcome⟩ | ⟨_, _, _, _, _, _, _, outcome⟩
    · rw [outcome]
      exact found
    · rw [outcome]
      simp only [List.getElem?_map, List.getElem?_set_ne (Ne.symm apart), found, Option.map_some,
        foreign, ↓reduceIte]
  · intro lease present child later few
    have holds := (refines.leased lease).mp present
    have valid : (start.run calls).table.validate lease.handle lease.handle.kind =
        .ok lease.handle.index := by
      obtain ⟨index, valid⟩ := (refines.validate_iff lease.handle lease.handle.kind).mpr
        ⟨lease, present, rfl, holds.1.symm⟩
      rwa [Table.validate_index valid] at valid
    exact dead_after_removal refines.formed ⟨_, holds.2, rfl⟩
      ⟨Or.inr ((Table.requireOwner_ok_iff ..).mpr ⟨_, valid, holds.2, child⟩), whole⟩ later few
  · intro later entry few
    rcases (start.run calls).table.removeRuntime_cases refines.formed runtime with
      ⟨_, _, outcome⟩ | ⟨slot, _, _, _, found, current, _, _⟩
    · rw [outcome] at removed
      cases removed
    · have dead := dead_after_removal refines.formed ⟨slot, found, current⟩
        ⟨Or.inl rfl, whole⟩ later few
      obtain ⟨error, invalid⟩ := dead.unresolved kindRuntime
      simp only [Table.insertOwned, invalid]

/-- A runtime, a poller, and a client of the runtime. -/
def ownedCalls : List (TableCall Nat) :=
  [.insert (.runtime 0), .insert (.poller 1),
    .insertOwned (Handle.encode kindRuntime 1 0) (.client 2)]

private theorem ownedCalls_exported : ∀ call ∈ ownedCalls, call.Exported := by
  intro call member
  simp only [ownedCalls, List.mem_cons, List.not_mem_nil, or_false] at member
  rcases member with rfl | rfl | rfl
  · exact Or.inl rfl
  · exact Or.inr rfl
  · exact Or.inl rfl

/-- The runtime is removed with its client, the poller stays, the client's handle
is dead afterwards, and a late client of the runtime is rejected. -/
theorem runtime_removal_is_exact_of_one :
    ∃ object children,
      ((start.run ownedCalls).table.removeRuntime (Handle.encode kindRuntime 1 0)).2 =
        .ok (object, children) ∧
      children.Perm [.client 2] ∧
      ((start.run ownedCalls).table.removeRuntime (Handle.encode kindRuntime 1 0)).1.slots[1]? =
        some ⟨1, 0, some (.poller 1)⟩ ∧
      ((start.run ownedCalls).table.removeRuntime (Handle.encode kindRuntime 1 0)).1.Dead
        (Handle.encode kindClient 1 2) ∧
      (((start.run ownedCalls).table.removeRuntime (Handle.encode kindRuntime 1 0)).1.insertOwned
        (Handle.encode kindRuntime 1 0) (.client 3)).2 = (.error .shutdown, some (.client 3)) := by
  obtain ⟨_, live, exact⟩ := (runtime_removal_is_exact ownedCalls ownedCalls_exported
    (by decide)).2 (Handle.encode kindRuntime 1 0)
  obtain ⟨⟨object, children⟩, removed⟩ := live.mp ⟨0, by decide⟩
  obtain ⟨handed, kept, dead, late⟩ := exact object children removed
  refine ⟨object, children, removed, ?_, ?_, ?_, ?_⟩
  · have owned : ((start.run ownedCalls).ledger.filter fun lease =>
        lease.owner = Handle.encode kindRuntime 1 0).map Lease.entry = [.client 2] := by decide
    rwa [owned] at handed
  · exact kept 1 ⟨1, 0, some (.poller 1)⟩ (by decide) (by decide) (by decide)
  · exact dead ⟨Handle.encode kindClient 1 2, Handle.encode kindRuntime 1 0, .client 2⟩
      (by decide) rfl [] (by decide)
  · exact congrArg Prod.snd (late [] (.client 3) (by decide))

/-- Two runtimes, a child of the first, any number of pollers, and a child of the
second; then the second runtime goes and a poller comes. -/
def crowdedCalls (count : Nat) : List (TableCall Nat) :=
  [.insert (.runtime 0), .insert (.runtime 1),
    .insertOwned (Handle.encode kindRuntime 1 0) (.client 2)] ++
  (List.replicate count (.insert (.poller 3)) ++
  [.insertOwned (Handle.encode kindRuntime 1 1) (.client 4),
    .removeRuntime (Handle.encode kindRuntime 1 1), .insert (.poller 5)])

/-- The slots of a crowded run, by the first two slots and the last. -/
private def crowded (first second : Slot Nat) (count : Nat) (last : List (Slot Nat)) :
    List (Slot Nat) :=
  first :: second :: ⟨1, Handle.encode kindRuntime 1 0, some (.client 2)⟩ ::
    (List.replicate count ⟨1, 0, some (.poller 3)⟩ ++ last)

private theorem length_crowded (first second : Slot Nat) (count : Nat) (last : Slot Nat) :
    (crowded first second count [last]).length = count + 4 := by
  simp [crowded]

private theorem crowded_last (first second : Slot Nat) (count : Nat) (last : Slot Nat) :
    (crowded first second count [last])[count + 3]? = some last := by
  simp [crowded]

/-- The second runtime of a crowded run resolves. -/
private theorem crowded_validate (count : Nat) (last : List (Slot Nat)) (free : List UInt32) :
    (⟨crowded ⟨1, 0, some (.runtime 0)⟩ ⟨1, 0, some (.runtime 1)⟩ count last, free⟩ :
      Table Nat).validate (Handle.encode kindRuntime 1 1) kindRuntime = .ok 1 := by
  have position : (Handle.encode kindRuntime 1 1).index = 1 := by decide
  refine (Table.validate_ok_iff ..).mpr ⟨by decide, by decide, position.symm,
    ⟨1, 0, some (.runtime 1)⟩, .runtime 1, ?_, by decide, rfl, rfl⟩
  rw [position]
  rfl

/-- The removal sweeps the last slot and frees its index cut to 32 bits. -/
private theorem crowded_removal (count : Nat) :
    ((⟨crowded ⟨1, 0, some (.runtime 0)⟩ ⟨1, 0, some (.runtime 1)⟩ count
          [⟨1, Handle.encode kindRuntime 1 1, some (.client 4)⟩], []⟩ : Table Nat).removeRuntime
            (Handle.encode kindRuntime 1 1)).1 =
      ⟨crowded ⟨1, 0, some (.runtime 0)⟩ ⟨2, 0, none⟩ count [⟨2, 0, none⟩],
        [UInt32.ofNat (count + 3), 1]⟩ := by
  have taken : (⟨crowded ⟨1, 0, some (.runtime 0)⟩ ⟨1, 0, some (.runtime 1)⟩ count
        [⟨1, Handle.encode kindRuntime 1 1, some (.client 4)⟩], []⟩ : Table Nat).take 1 =
      some (.runtime 1, ⟨crowded ⟨1, 0, some (.runtime 0)⟩ ⟨2, 0, none⟩ count
        [⟨1, Handle.encode kindRuntime 1 1, some (.client 4)⟩], [1]⟩) := rfl
  have passed : ∀ index ∈ List.range (count + 3), ∃ slot,
      (crowded ⟨1, 0, some (.runtime 0)⟩ ⟨2, 0, none⟩ count
        [⟨1, Handle.encode kindRuntime 1 1, some (.client 4)⟩])[index]? = some slot ∧
      slot.owner ≠ Handle.encode kindRuntime 1 1 := by
    intro index member
    match index, List.mem_range.mp member with
    | 0, _ => exact ⟨_, rfl, by decide⟩
    | 1, _ => exact ⟨_, rfl, by decide⟩
    | 2, _ => exact ⟨_, rfl, by decide⟩
    | index + 3, bound =>
        refine ⟨⟨1, 0, some (.poller 3)⟩, ?_, by decide⟩
        have inside : index < count := by omega
        simp [crowded, List.getElem?_append, inside]
  have swept : (Table.sweep (Handle.encode kindRuntime 1 1) (List.range (count + 4))
      ⟨crowded ⟨1, 0, some (.runtime 0)⟩ ⟨2, 0, none⟩ count
        [⟨1, Handle.encode kindRuntime 1 1, some (.client 4)⟩], [1]⟩) =
      (⟨crowded ⟨1, 0, some (.runtime 0)⟩ ⟨2, 0, none⟩ count [⟨2, 0, none⟩],
        [UInt32.ofNat (count + 3), 1]⟩, .ok [.client 4]) := by
    rw [List.range_succ, Table.sweep_append _ _ _ _ passed]
    simp only [Table.sweep, crowded_last, ↓reduceIte, Table.take]
    simp [crowded, Slot.vacated]
    decide
  simp only [Table.removeRuntime, crowded_validate, taken, length_crowded, swept]

/-- With `2 ^ 32` slots before it, the swept child frees slot 0, and the next
poller is placed over the first runtime. -/
private theorem crowded_slots (count : Nat) (aligned : UInt32.ofNat (count + 3) = 0) :
    (Table.empty.run (crowdedCalls count)).slots =
      crowded ⟨1, 0, some (.poller 5)⟩ ⟨2, 0, none⟩ count [⟨2, 0, none⟩] := by
  have opening : (Table.empty : Table Nat).run [.insert (.runtime 0), .insert (.runtime 1),
      .insertOwned (Handle.encode kindRuntime 1 0) (.client 2)] =
      ⟨[⟨1, 0, some (.runtime 0)⟩, ⟨1, 0, some (.runtime 1)⟩,
        ⟨1, Handle.encode kindRuntime 1 0, some (.client 2)⟩], []⟩ := by decide
  have filled : (Table.empty : Table Nat).run ([.insert (.runtime 0), .insert (.runtime 1),
      .insertOwned (Handle.encode kindRuntime 1 0) (.client 2)] ++
        List.replicate count (.insert (.poller 3))) =
      ⟨crowded ⟨1, 0, some (.runtime 0)⟩ ⟨1, 0, some (.runtime 1)⟩ count [], []⟩ := by
    rw [Table.run_append, opening, Table.run_replicate_insert count _ _ rfl, crowded,
      List.append_nil]
    rfl
  have child : ((⟨crowded ⟨1, 0, some (.runtime 0)⟩ ⟨1, 0, some (.runtime 1)⟩ count [], []⟩ :
        Table Nat).perform (.insertOwned (Handle.encode kindRuntime 1 1) (.client 4))).1 =
      ⟨crowded ⟨1, 0, some (.runtime 0)⟩ ⟨1, 0, some (.runtime 1)⟩ count
        [⟨1, Handle.encode kindRuntime 1 1, some (.client 4)⟩], []⟩ := by
    simp only [Table.perform, Table.insertOwned, crowded_validate, Table.insertInto]
    cases Table.mint _ _ _ <;> simp [crowded]
  rw [crowdedCalls, ← List.append_assoc, Table.run_append, filled, Table.run_cons, child]
  simp only [Table.run_cons, Table.run_nil, Table.perform, crowded_removal, Table.insert,
    Table.insertInto, aligned]
  rfl

/-- Past `2 ^ 32` slots the exports reach a table whose owned client outlives its
runtime's slot. -/
theorem owner_outlives_runtime :
    ¬ ∀ calls : List (TableCall Nat), (∀ call ∈ calls, call.Exported) →
      (Table.empty.run calls).OwnersLive := by
  intro always
  have exported : ∀ count, ∀ call ∈ crowdedCalls count, call.Exported := by
    intro count call member
    simp only [crowdedCalls, List.mem_append, List.mem_cons, List.not_mem_nil, or_false,
      List.mem_replicate] at member
    rcases member with (rfl | rfl | rfl) | ⟨_, rfl⟩ | rfl | rfl | rfl
    · exact Or.inl rfl
    · exact Or.inl rfl
    · exact Or.inl rfl
    · exact Or.inr rfl
    · exact Or.inl rfl
    · exact trivial
    · exact Or.inr rfl
  have broken : ∀ count, UInt32.ofNat (count + 3) = 0 →
      ¬ (Table.empty.run (crowdedCalls count)).OwnersLive := by
    intro count aligned live
    have slots := crowded_slots count aligned
    have member : (⟨1, Handle.encode kindRuntime 1 0, some (.client 2)⟩ : Slot Nat) ∈
        (Table.empty.run (crowdedCalls count)).slots := by
      rw [slots, crowded]
      exact List.mem_cons_of_mem _ (List.mem_cons_of_mem _ List.mem_cons_self)
    obtain ⟨_, index, valid⟩ := live _ member (by decide)
    obtain ⟨_, _, _, slot, entry, found, _, occupant, kind⟩ := (Table.validate_ok_iff ..).mp valid
    have first : (Handle.encode kindRuntime 1 0).index = 0 := by decide
    rw [slots, first, crowded] at found
    obtain rfl := Option.some.inj found
    obtain rfl := Option.some.inj occupant
    exact absurd kind (by decide)
  exact broken (2 ^ 32 - 3) (by decide) (always _ (exported _))

end Session

end KtBridge
