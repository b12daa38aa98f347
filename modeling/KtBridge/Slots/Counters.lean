import KtBridge.Slots.Machine

/-! # The counters follow the reservations

The supplier and the gate count permits in two places, and release them one after the
other. In every state each counter is the number of reservations in the phases it is
responsible for (`State.Counted`), so no decrement underflows.
-/

namespace KtBridge.Slots

open Foundation

/-- The reservations a counter is about: by kind, context and call. -/
abbrev Who := SlotKind → Bool → Bool → Bool

/-- The permits of a kind for a queue. -/
def forQueue (slots : SlotKind → JvmSlots) (kind : SlotKind) (queue : Bool) : Who :=
  fun other isSticky _ => other = kind && (slots other).queue isSticky = queue

/-- The reservations of a kind. -/
def forKind (kind : SlotKind) : Who := fun other _ _ => other = kind

/-- The calls of `reserve_slot` of a kind. -/
def blockingFor (kind : SlotKind) : Who := fun other _ blocking => other = kind && blocking

def Who.has (who : Who) (call : Reservation) : Bool := who call.kind call.isSticky call.blocking

/-- How many reservations are in the phases. -/
def State.tally (state : State) (who : Who) (phases : Phase → Bool) : Nat :=
  state.calls.countP fun call => who.has call && phases call.phase

variable {state : State} {place : Nat} {call : Reservation} {old new : Phase}

namespace State

section

variable (who : Who) (phases : Phase → Bool)

/-- A tally follows the one reservation that moves. -/
theorem tally_move (here : state.At place call old) (new : Phase) :
    (state.move place call new).tally who phases + (if who.has call && phases old then 1 else 0) =
      state.tally who phases + if who.has call && phases new then 1 else 0 := by
  obtain ⟨taken, rfl⟩ := here
  exact countP_change (fun call => who.has call && phases call.phase) taken _

/-- A tally does not see a move between phases it does not tell apart. -/
theorem tally_move_same (here : state.At place call old)
    (same : who.has call → phases new = phases old) :
    (state.move place call new).tally who phases = state.tally who phases := by
  have change := tally_move who phases here new
  cases has : who.has call
  · simpa [has] using change
  · rw [same has] at change
    exact Nat.add_right_cancel change

/-- A count of the calls of `reserve_slot` does not see what other calls do. -/
theorem tally_blocking_same (kind : SlotKind) (here : state.At place call old)
    (same : call.blocking → phases new = phases old) :
    (state.move place call new).tally (blockingFor kind) phases =
      state.tally (blockingFor kind) phases := by
  apply tally_move_same _ _ here
  intro has
  simp only [Who.has, blockingFor, Bool.and_eq_true] at has
  exact same has.2

/-- A reservation enters the phases. -/
theorem tally_move_gain (here : state.At place call old) (has : who.has call)
    (before : phases old = false) (after : phases new) :
    (state.move place call new).tally who phases = state.tally who phases + 1 := by
  have change := tally_move who phases here new
  simpa [has, before, after] using change

/-- A reservation leaves the phases. -/
theorem tally_move_lose (here : state.At place call old) (has : who.has call)
    (before : phases old) (after : phases new = false) :
    (state.move place call new).tally who phases + 1 = state.tally who phases := by
  have change := tally_move who phases here new
  simpa [has, before, after] using change

/-- A tally is positive while a reservation is in the phases. -/
theorem tally_pos (here : state.At place call old) (has : who.has call) (inside : phases old) :
    0 < state.tally who phases := by
  obtain ⟨taken, rfl⟩ := here
  apply countP_pos_of_member _ taken
  rw [has, inside]
  rfl

/-- A tally does not look at notifications. -/
theorem tally_unnotified (here : state.At place call old) (new : Phase) (notified : Bool) :
    (state.move place { call with notified := notified } new).tally who phases =
      (state.move place call new).tally who phases := by
  have first := countP_change (fun call => who.has call && phases call.phase) here.1
    { call with notified := notified, phase := new }
  have second := countP_change (fun call => who.has call && phases call.phase) here.1
    { call with phase := new }
  exact Nat.add_right_cancel (first.trans second.symm)

/-- A fresh call joins. -/
theorem tally_new {next : State} {kind : SlotKind} {isSticky blocking : Bool}
    (joined : next.calls = state.calls ++ [Reservation.new kind isSticky blocking]) :
    next.tally who phases = state.tally who phases +
      if who kind isSticky blocking && phases (Reservation.new kind isSticky blocking).phase
      then 1 else 0 := by
  rw [tally, joined, List.countP_append, List.countP_singleton]
  rfl

@[simp] theorem tally_notifyWaiters (state : State) :
    state.notifyWaiters.tally who phases = state.tally who phases := by
  rw [tally, notifyWaiters, List.countP_map]
  rfl

end

end State

variable (slots : SlotKind → JvmSlots)

/-- Every counter is the number of reservations it stands for. -/
structure State.Counted (state : State) : Prop where
  issued : ∀ kind queue,
    (state.supplier kind).issued queue = state.tally (forQueue slots kind queue) Phase.issued
  reserved : ∀ kind, state.reserved kind = state.tally (forKind kind) Phase.reserved
  pending : ∀ kind, state.pending kind = state.tally (blockingFor kind) Phase.pending

theorem counted_start : start.Counted slots where
  issued := fun _ _ => rfl
  reserved := fun _ => rfl
  pending := fun _ => rfl

variable {slots}

namespace State.Counted

/-- A reservation moves on between phases that no counter tells apart. -/
theorem move (counted : state.Counted slots) (new : Phase) (here : state.At place call old)
    (issued : new.issued = old.issued) (reserved : new.reserved = old.reserved)
    (pending : call.blocking → new.pending = old.pending) :
    (state.move place call new).Counted slots where
  issued := fun kind queue =>
    (counted.issued kind queue).trans (tally_move_same _ _ here fun _ => issued).symm
  reserved := fun kind => (counted.reserved kind).trans (tally_move_same _ _ here fun _ => reserved).symm
  pending := fun kind => (counted.pending kind).trans (tally_blocking_same _ kind here pending).symm

/-- A refused reservation keeps counting as pending if its call goes on. -/
theorem refuse (counted : state.Counted slots) (here : state.At place call old)
    (issued : old.issued = false) (reserved : old.reserved = false) (pending : old.pending)
    (refusal : Refusal) : (state.refuse place call refusal).Counted slots := by
  have moved := counted.move (call.refuse refusal) here
    (by
      rw [issued, Reservation.refuse]
      split <;> rfl)
    (by
      rw [reserved, Reservation.refuse]
      split <;> rfl)
    (by
      intro blocking
      rw [pending, Reservation.refuse, if_pos blocking]
      rfl)
  exact ⟨moved.issued, moved.reserved, moved.pending⟩

/-- The supplier changes its count for one queue with the phase of one reservation. -/
theorem setSupplier (counted : state.Counted slots) {supplier : Supplier}
    (here : state.At place call old)
    (issued : ∀ queue, supplier.issued queue =
      (state.move place call new).tally (forQueue slots call.kind queue) Phase.issued)
    (reserved : new.reserved = old.reserved) (pending : call.blocking → new.pending = old.pending) :
    ((state.move place call new).setSupplier call.kind supplier).Counted slots where
  issued := by
    intro kind queue
    simp only [State.setSupplier, Function.update_apply]
    split
    · next same =>
        rw [same]
        exact issued queue
    · next different =>
        refine (counted.issued kind queue).trans (tally_move_same _ _ here ?_).symm
        intro has
        simp only [Who.has, forQueue, Bool.and_eq_true, decide_eq_true_eq] at has
        exact absurd has.1.symm different
  reserved := fun kind => (counted.reserved kind).trans (tally_move_same _ _ here fun _ => reserved).symm
  pending := fun kind => (counted.pending kind).trans (tally_blocking_same _ kind here pending).symm

/-- The reservation is among those for its own queue. -/
theorem has_forQueue (slots : SlotKind → JvmSlots) (call : Reservation) :
    (forQueue slots call.kind (queueOf slots call)).has call := by
  simp [Who.has, forQueue, queueOf]

theorem issue (counted : state.Counted slots) (here : state.At place call old)
    (before : old.issued = false) (after : new.issued) (reserved : new.reserved = old.reserved)
    (pending : call.blocking → new.pending = old.pending) :
    ((state.move place call new).setSupplier call.kind
      ((state.supplier call.kind).issue (queueOf slots call))).Counted slots := by
  apply counted.setSupplier here _ reserved pending
  intro queue
  simp only [Supplier.issue, Function.update_apply]
  split
  · next same =>
      rw [same, counted.issued]
      exact (tally_move_gain _ _ here (has_forQueue slots call) before after).symm
  · next different =>
      refine (counted.issued call.kind queue).trans (tally_move_same _ _ here ?_).symm
      intro has
      simp only [Who.has, forQueue, Bool.and_eq_true, decide_eq_true_eq] at has
      exact absurd has.2.symm different

theorem release (counted : state.Counted slots) (new : Phase) (here : state.At place call old)
    (before : old.issued) (after : new.issued = false) (reserved : new.reserved = old.reserved)
    (pending : call.blocking → new.pending = old.pending) :
    ((state.move place call new).setSupplier call.kind
      ((state.supplier call.kind).release (queueOf slots call))).Counted slots := by
  apply counted.setSupplier here _ reserved pending
  intro queue
  simp only [Supplier.release, Function.update_apply]
  split
  · next same =>
      rw [same, counted.issued]
      exact Nat.sub_eq_of_eq_add
        (tally_move_lose _ _ here (has_forQueue slots call) before after).symm
  · next different =>
      refine (counted.issued call.kind queue).trans (tally_move_same _ _ here ?_).symm
      intro has
      simp only [Who.has, forQueue, Bool.and_eq_true, decide_eq_true_eq] at has
      exact absurd has.2.symm different

/-- The gate changes a reserved count with the phase of one reservation. -/
theorem setReserved (counted : state.Counted slots) (new : Phase) (reserved : Nat)
    (here : state.At place call old) (issued : new.issued = old.issued)
    (counts : reserved = (state.move place call new).tally (forKind call.kind) Phase.reserved)
    (pending : call.blocking → new.pending = old.pending) :
    ((state.move place call new).setReserved call.kind reserved).Counted slots where
  issued := fun kind queue =>
    (counted.issued kind queue).trans (tally_move_same _ _ here fun _ => issued).symm
  reserved := by
    intro kind
    simp only [State.setReserved, Function.update_apply]
    split
    · next same =>
        rw [same]
        exact counts
    · next different =>
        refine (counted.reserved kind).trans (tally_move_same _ _ here ?_).symm
        intro has
        simp only [Who.has, forKind, decide_eq_true_eq] at has
        exact absurd has.symm different
  pending := fun kind => (counted.pending kind).trans (tally_blocking_same _ kind here pending).symm

/-- The gate changes a pending count with the phase of one call of `reserve_slot`. -/
theorem setPending (counted : state.Counted slots) (new : Phase) (pending : Nat)
    (here : state.At place call old) (issued : new.issued = old.issued)
    (reserved : new.reserved = old.reserved)
    (counts : pending = (state.move place call new).tally (blockingFor call.kind) Phase.pending) :
    ((state.move place call new).setPending call.kind pending).Counted slots where
  issued := fun kind queue =>
    (counted.issued kind queue).trans (tally_move_same _ _ here fun _ => issued).symm
  reserved := fun kind => (counted.reserved kind).trans (tally_move_same _ _ here fun _ => reserved).symm
  pending := by
    intro kind
    simp only [State.setPending, Function.update_apply]
    split
    · next same =>
        rw [same]
        exact counts
    · next different =>
        refine (counted.pending kind).trans (tally_move_same _ _ here ?_).symm
        intro has
        simp only [Who.has, blockingFor, Bool.and_eq_true, decide_eq_true_eq] at has
        exact absurd has.1.symm different

/-- A fresh call holds no permit, and `reserve_slot` counts it as pending. -/
theorem join (counted : state.Counted slots) (next : State) (kind : SlotKind)
    (isSticky blocking : Bool)
    (joined : next.calls = state.calls ++ [Reservation.new kind isSticky blocking])
    (supplier : next.supplier = state.supplier) (reserved : next.reserved = state.reserved)
    (pending : ∀ other,
      next.pending other = state.pending other + if kind = other ∧ blocking then 1 else 0) :
    next.Counted slots where
  issued := by
    intro other queue
    rw [supplier, counted.issued, tally_new _ _ joined]
    cases blocking <;> simp [Reservation.new, Phase.issued]
  reserved := by
    intro other
    rw [reserved, counted.reserved, tally_new _ _ joined]
    cases blocking <;> simp [Reservation.new, Phase.reserved]
  pending := by
    intro other
    rw [pending, counted.pending, tally_new _ _ joined]
    cases blocking <;> simp [blockingFor, Reservation.new, Phase.pending]

end State.Counted

/-! ## The supplier's mutex -/

/-- The phases only a call of `reserve_slot` is in. -/
def Phase.blocking : Phase → Bool
  | .registering | .returning | .refused _ | .parked _ => true
  | _ => false

/-- A reservation between its first test and its grant has its supplier's mutex. -/
structure State.Held (state : State) : Prop where
  holding : ∀ (place : Nat) (call : Reservation), state.calls[place]? = some call →
    call.phase.locked → state.holder call.kind = some place
  blocking : ∀ (place : Nat) (call : Reservation), state.calls[place]? = some call →
    call.phase.blocking → call.blocking

theorem held_start : start.Held where
  holding := fun _ _ impossible => by cases impossible
  blocking := fun _ _ impossible => by cases impossible

namespace State.Held

/-- A reservation moves on, and no other loses the mutex. -/
theorem change (held : state.Held) (next : State) (moved : Reservation)
    (here : state.At place call old) (calls : next.calls = state.calls.set place moved)
    (kind : moved.kind = call.kind) (own : moved.phase.locked → next.holder call.kind = some place)
    (others : ∀ other kind, other ≠ place → state.holder kind = some other →
      next.holder kind = some other)
    (blocking : moved.phase.blocking → moved.blocking) : next.Held where
  holding := by
    intro other current
    rw [calls, getElem?_change here.1]
    split
    · next same =>
        intro taken
        obtain rfl := Option.some.inj taken
        rw [same, kind]
        exact own
    · next different =>
        intro taken locked
        exact others other current.kind different (held.holding other current taken locked)
  blocking := by
    intro other current
    rw [calls, getElem?_change here.1]
    split
    · intro taken
      obtain rfl := Option.some.inj taken
      exact blocking
    · exact held.blocking other current

/-- Whoever has the mutex is the reservation itself. -/
theorem own (held : state.Held) (here : state.At place call old) (locked : old.locked) :
    state.holder call.kind = some place := by
  obtain ⟨taken, rfl⟩ := here
  exact held.holding place call taken locked

/-- A call of `reserve_slot`, by its phase. -/
theorem of_blocking (held : state.Held) (here : state.At place call old) (blocking : old.blocking) :
    call.blocking := by
  obtain ⟨taken, rfl⟩ := here
  exact held.blocking place call taken blocking

theorem join (held : state.Held) (next : State) (kind : SlotKind) (isSticky blocking : Bool)
    (joined : next.calls = state.calls ++ [Reservation.new kind isSticky blocking])
    (holder : next.holder = state.holder) : next.Held where
  holding := by
    intro other current
    rw [joined, holder, List.getElem?_append]
    split
    · exact held.holding other current
    · intro taken locked
      have fresh := List.mem_singleton.mp (List.mem_of_getElem? taken)
      rw [fresh] at locked
      cases blocking <;> cases locked
  blocking := by
    intro other current
    rw [joined, List.getElem?_append]
    split
    · exact held.blocking other current
    · intro taken only
      have fresh := List.mem_singleton.mp (List.mem_of_getElem? taken)
      rw [fresh] at only ⊢
      cases blocking
      · cases only
      · rfl

theorem notifyWaiters (held : state.Held) : state.notifyWaiters.Held where
  holding := by
    intro other current taken locked
    simp only [State.notifyWaiters, List.getElem?_map, Option.map_eq_some_iff] at taken
    obtain ⟨before, taken, rfl⟩ := taken
    exact held.holding other before taken locked
  blocking := by
    intro other current taken only
    simp only [State.notifyWaiters, List.getElem?_map, Option.map_eq_some_iff] at taken
    obtain ⟨before, taken, rfl⟩ := taken
    exact held.blocking other before taken only

/-- A reservation moves on without taking or giving back the mutex. -/
theorem keep (held : state.Held) (new : Phase) (here : state.At place call old)
    (locked : new.locked → old.locked) (blocking : new.blocking → call.blocking) :
    (state.move place call new).Held :=
  held.change _ { call with phase := new } here rfl rfl (fun holds => held.own here (locked holds))
    (fun _ _ _ same => same) blocking

/-- A reservation gives the mutex back. -/
theorem release (held : state.Held) (new : Phase) (here : state.At place call old) (was : old.locked)
    (released : new.locked = false) (blocking : new.blocking → call.blocking) :
    ((state.move place call new).setHolder call.kind none).Held := by
  apply held.change _ { call with phase := new } here rfl rfl _ _ blocking
  · intro holds
    rw [released] at holds
    cases holds
  · intro other kind different same
    have apart : kind ≠ call.kind := by
      rintro rfl
      exact different (Option.some.inj (same.symm.trans (held.own here was)))
    exact (Function.update_of_ne apart ..).trans same

/-- A refused reservation gives the mutex back. -/
theorem refuse (held : state.Held) (here : state.At place call old) (was : old.locked)
    (refusal : Refusal) : (state.refuse place call refusal).Held := by
  have released := held.release (call.refuse refusal) here was
    (by
      unfold Reservation.refuse
      split <;> rfl)
    (by
      unfold Reservation.refuse
      split
      · next blocking => exact fun _ => blocking
      · intro impossible
        cases impossible)
  exact ⟨released.holding, released.blocking⟩

theorem step (held : state.Held) (action : Action) (ready : (machine slots).guard state action) :
    ((machine slots).effect state action).Held := by
  cases action with
  | advance by_ => exact ⟨held.holding, held.blocking⟩
  | update allowed => exact ⟨held.holding, held.blocking⟩
  | announce => exact ⟨held.notifyWaiters.holding, held.notifyWaiters.blocking⟩
  | reserveSlot kind isSticky => exact held.join _ kind isSticky true rfl rfl
  | tryReserveSlot kind isSticky => exact held.join _ kind isSticky false rfl rfl
  | register place call =>
      exact held.change _ { call with notified := false, phase := .locking } ready rfl rfl
        (fun impossible => by cases impossible) (fun _ _ _ same => same)
        (fun impossible => by cases impossible)
  | lock place call =>
      apply held.change _ { call with phase := .testing } ready.1 rfl rfl
      · exact fun _ => Function.update_self ..
      · intro other kind different same
        have apart : kind ≠ call.kind := by
          rintro rfl
          rw [ready.2] at same
          cases same
        exact (Function.update_of_ne apart ..).trans same
      · intro impossible
        cases impossible
  | test place call =>
      simp only [machine, effect]
      split
      · exact held.refuse ready rfl _
      · split
        · exact held.keep _ ready (fun _ => rfl) (fun impossible => by cases impossible)
        · exact held.keep _ ready (fun _ => rfl) (fun impossible => by cases impossible)
  | readGate place call =>
      simp only [machine, effect]
      split
      · exact held.keep _ ready (fun _ => rfl) (fun impossible => by cases impossible)
      · exact held.refuse ready rfl _
  | readClock place call allowed =>
      simp only [machine, effect]
      split
      · exact held.refuse ready rfl _
      · exact held.keep _ ready (fun _ => rfl) (fun impossible => by cases impossible)
  | issue place call decision =>
      have moved := held.keep (.counting decision) ready (fun _ => rfl)
        (fun impossible => by cases impossible)
      exact ⟨moved.holding, moved.blocking⟩
  | reserve place call decision =>
      have moved := held.keep (.stamping decision) ready (fun _ => rfl)
        (fun impossible => by cases impossible)
      exact ⟨moved.holding, moved.blocking⟩
  | stamp place call decision =>
      have moved := held.release (if call.blocking then .returning else .live) ready rfl
        (by split <;> rfl) (by
          split
          · next blocking => exact fun _ => blocking
          · intro impossible
            cases impossible)
      exact ⟨moved.holding, moved.blocking⟩
  | finish place call =>
      have moved := held.keep .live ready (fun impossible => by cases impossible)
        (fun impossible => by cases impossible)
      exact ⟨moved.holding, moved.blocking⟩
  | wait place call refusal =>
      exact held.keep _ ready.1 (fun impossible => by cases impossible)
        (fun _ => held.of_blocking ready.1 rfl)
  | wake place call timer =>
      exact held.keep _ ready.1 (fun impossible => by cases impossible)
        (fun _ => held.of_blocking ready.1 rfl)
  | cancel place call timer =>
      have moved := held.keep .finished ready (fun impossible => by cases impossible)
        (fun impossible => by cases impossible)
      exact ⟨moved.holding, moved.blocking⟩
  | drop place call =>
      have moved := held.keep .unreserving ready.1 (fun impossible => by cases impossible)
        (fun impossible => by cases impossible)
      exact ⟨moved.holding, moved.blocking⟩
  | unreserve place call =>
      have moved := held.keep .notifying ready (fun impossible => by cases impossible)
        (fun impossible => by cases impossible)
      exact ⟨moved.holding, moved.blocking⟩
  | notify place call =>
      exact (held.keep .finished ready (fun impossible => by cases impossible)
        (fun impossible => by cases impossible)).notifyWaiters

end State.Held

theorem held_invariant : (machine slots).Invariant State.Held where
  start := held_start
  step := fun _ action _ held ready => held.step action ready

namespace State.Counted

theorem step (counted : state.Counted slots) (held : state.Held) (action : Action)
    (ready : (machine slots).guard state action) :
    ((machine slots).effect state action).Counted slots := by
  cases action with
  | advance by_ => exact ⟨counted.issued, counted.reserved, counted.pending⟩
  | update allowed => exact ⟨counted.issued, counted.reserved, counted.pending⟩
  | announce =>
      exact ⟨fun kind queue => (counted.issued kind queue).trans (tally_notifyWaiters ..).symm,
        fun kind => (counted.reserved kind).trans (tally_notifyWaiters ..).symm,
        fun kind => (counted.pending kind).trans (tally_notifyWaiters ..).symm⟩
  | reserveSlot kind isSticky =>
      apply counted.join (effect slots state (.reserveSlot kind isSticky)) kind isSticky true rfl rfl rfl
      intro other
      simp only [effect, State.setPending, Function.update_apply]
      by_cases same : other = kind
      · simp [same]
      · simp [same, Ne.symm same]
  | tryReserveSlot kind isSticky =>
      apply counted.join (effect slots state (.tryReserveSlot kind isSticky)) kind isSticky false
        rfl rfl rfl
      intro other
      simp [effect]
  | register place call =>
      have moved := counted.move .locking ready rfl rfl (fun _ => rfl)
      exact ⟨fun kind queue => (moved.issued kind queue).trans (tally_unnotified _ _ ready ..).symm,
        fun kind => (moved.reserved kind).trans (tally_unnotified _ _ ready ..).symm,
        fun kind => (moved.pending kind).trans (tally_unnotified _ _ ready ..).symm⟩
  | lock place call =>
      have moved := counted.move .testing ready.1 rfl rfl (fun _ => rfl)
      exact ⟨moved.issued, moved.reserved, moved.pending⟩
  | test place call =>
      simp only [machine, effect]
      split
      · exact counted.refuse ready rfl rfl rfl _
      · split
        · exact counted.move _ ready rfl rfl (fun _ => rfl)
        · exact counted.move _ ready rfl rfl (fun _ => rfl)
  | readGate place call =>
      simp only [machine, effect]
      split
      · exact counted.move _ ready rfl rfl (fun _ => rfl)
      · exact counted.refuse ready rfl rfl rfl _
  | readClock place call allowed =>
      simp only [machine, effect]
      split
      · exact counted.refuse ready rfl rfl rfl _
      · exact counted.move _ ready rfl rfl (fun _ => rfl)
  | issue place call decision => exact counted.issue ready rfl rfl rfl (fun _ => rfl)
  | reserve place call decision =>
      apply counted.setReserved (.stamping decision) (state.reserved call.kind + 1) ready rfl _ (fun _ => rfl)
      rw [counted.reserved]
      exact (tally_move_gain _ _ ready (by simp [Who.has, forKind]) rfl rfl).symm
  | stamp place call decision =>
      have moved := counted.move (if call.blocking then .returning else .live) ready
        (by split <;> rfl) (by split <;> rfl) (fun blocking => by rw [if_pos blocking]; rfl)
      refine ⟨?_, moved.reserved, moved.pending⟩
      intro kind queue
      refine Eq.trans ?_ (moved.issued kind queue)
      simp only [machine, effect, State.setSupplier, State.setHolder, State.move,
        Function.update_apply]
      split
      · next same => rw [same]
      · rfl
  | finish place call =>
      have blocking := held.of_blocking ready rfl
      apply counted.setPending .live (state.pending call.kind - 1) ready rfl rfl
      rw [counted.pending]
      exact Nat.sub_eq_of_eq_add
        (tally_move_lose _ _ ready (by simp [Who.has, blockingFor, blocking]) rfl rfl).symm
  | wait place call refusal => exact counted.move _ ready.1 rfl rfl (fun _ => rfl)
  | wake place call timer => exact counted.move _ ready.1 rfl rfl (fun _ => rfl)
  | cancel place call timer =>
      have blocking := held.of_blocking ready rfl
      apply counted.setPending .finished (state.pending call.kind - 1) ready rfl rfl
      rw [counted.pending]
      exact Nat.sub_eq_of_eq_add
        (tally_move_lose _ _ ready (by simp [Who.has, blockingFor, blocking]) rfl rfl).symm
  | drop place call =>
      have moved := counted.release .unreserving ready.1 rfl rfl rfl (fun _ => rfl)
      exact ⟨moved.issued, moved.reserved, moved.pending⟩
  | unreserve place call =>
      apply counted.setReserved .notifying (state.reserved call.kind - 1) ready rfl _ (fun _ => rfl)
      rw [counted.reserved]
      exact Nat.sub_eq_of_eq_add
        (tally_move_lose _ _ ready (by simp [Who.has, forKind]) rfl rfl).symm
  | notify place call =>
      have moved := counted.move .finished ready rfl rfl (fun _ => rfl)
      exact ⟨fun kind queue => (moved.issued kind queue).trans (tally_notifyWaiters ..).symm,
        fun kind => (moved.reserved kind).trans (tally_notifyWaiters ..).symm,
        fun kind => (moved.pending kind).trans (tally_notifyWaiters ..).symm⟩

end State.Counted

theorem counted_invariant : (machine slots).Invariant (State.Counted slots) where
  start := counted_start slots
  step := fun _ action reached counted ready =>
    counted.step (held_invariant.reachable reached) action ready

end KtBridge.Slots
