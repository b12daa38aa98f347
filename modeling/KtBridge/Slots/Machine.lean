import KtBridge.Foundation.Roster
import KtBridge.Foundation.System
import KtBridge.Slots.Supplier

/-! # The slot suppliers of a worker as a guarded system

Four suppliers share one gate. A reservation holds its supplier's mutex from its first
test to the grant, but reads the gate and the clock, and counts in the gate, as steps
of their own. A blocking reservation registers for notifications, tries, computes its
wait from a second look at the clock, and parks. A permit that is dropped is taken
back from the supplier, then from the gate, and then everybody waiting is notified.
Clock readings count in nanoseconds from when the suppliers were made.
-/

namespace KtBridge.Slots

open Foundation

/-- What a reservation saw when it was decided: the permits out, those its queue held,
and the gate and the clock if it looked at them. -/
structure Decision where
  total : Nat
  held : Nat
  reading : Option (UInt32 × Nat)
  deriving DecidableEq

/-- A grant, with the clock reading it was stamped with. -/
structure Grant where
  queue : Bool
  decision : Decision
  stamp : Nat
  deriving DecidableEq

/-- How far a reservation has come, and then its permit. -/
inductive Phase where
  /-- At the head of the loop of `reserve_slot`. -/
  | registering
  | locking
  /-- With the mutex, before the first test. -/
  | testing
  /-- The slot is not required; the gate is about to be read. -/
  | gating
  | timing (allowed : UInt32)
  | issuing (decision : Decision)
  /-- The supplier has counted the permit, the gate has not. -/
  | counting (decision : Decision)
  | stamping (decision : Decision)
  /-- `reserve_slot` has its permit, and still counts as pending. -/
  | returning
  /-- `reserve_slot` was refused, and is about to compute its wait. -/
  | refused (refusal : Refusal)
  /-- Waiting for a notification, or for the ramp timer if it is armed. -/
  | parked (timer : Option Nat)
  | live
  /-- The supplier has taken the permit back, the gate has not. -/
  | unreserving
  | notifying
  | finished
  deriving DecidableEq

namespace Phase

/-- The phases that hold the supplier's mutex. -/
def locked : Phase → Bool
  | testing | gating | timing _ | issuing _ | counting _ | stamping _ => true
  | _ => false

/-- The supplier counts the permit. -/
def issued : Phase → Bool
  | counting _ | stamping _ | returning | live => true
  | _ => false

/-- The gate counts the permit. -/
def reserved : Phase → Bool
  | stamping _ | returning | live | unreserving => true
  | _ => false

/-- A call of `reserve_slot` in this phase is in progress. -/
def pending : Phase → Bool
  | live | unreserving | notifying | finished => false
  | _ => true

end Phase

/-- A reservation of either kind of call. -/
structure Reservation where
  kind : SlotKind
  isSticky : Bool
  /-- It is a call of `reserve_slot`. -/
  blocking : Bool
  /-- A notification came since it registered. -/
  notified : Bool
  phase : Phase
  deriving DecidableEq

/-- The suppliers' shared state. `reserved` and `pending` are an `AtomicU32` each: they stand
for ones that count fewer than `2 ^ 32` calls at a time and do not wrap. -/
structure State where
  now : Nat
  allowed : UInt32
  /-- The updates that have not notified yet. -/
  announcing : Nat
  reserved : SlotKind → Nat
  pending : SlotKind → Nat
  supplier : SlotKind → Supplier
  holder : SlotKind → Option Nat
  calls : List Reservation
  /-- History: the grants of each supplier, the latest first. -/
  grants : SlotKind → List Grant
  /-- History: the calls refused since the last drop of the kind and the last update. -/
  fresh : SlotKind → List Nat

def start : State where
  now := 0
  allowed := 0
  announcing := 0
  reserved := fun _ => 0
  pending := fun _ => 0
  supplier := fun _ => ⟨fun _ => 0, 0⟩
  holder := fun _ => none
  calls := []
  grants := fun _ => []
  fresh := fun _ => []

/-- Where a refused reservation goes on. -/
def Reservation.refuse (call : Reservation) (refusal : Refusal) : Phase :=
  if call.blocking then .refused refusal else .finished

namespace State

def move (state : State) (place : Nat) (call : Reservation) (phase : Phase) : State :=
  { state with calls := state.calls.set place { call with phase := phase } }

def setHolder (state : State) (kind : SlotKind) (holder : Option Nat) : State :=
  { state with holder := Function.update state.holder kind holder }

def setSupplier (state : State) (kind : SlotKind) (supplier : Supplier) : State :=
  { state with supplier := Function.update state.supplier kind supplier }

def setReserved (state : State) (kind : SlotKind) (reserved : Nat) : State :=
  { state with reserved := Function.update state.reserved kind reserved }

def setPending (state : State) (kind : SlotKind) (pending : Nat) : State :=
  { state with pending := Function.update state.pending kind pending }

/-- A try ends with a refusal, and gives the mutex back. -/
def refuse (state : State) (place : Nat) (call : Reservation) (refusal : Refusal) : State :=
  { (state.move place call (call.refuse refusal)).setHolder call.kind none with
    fresh := Function.update state.fresh call.kind (place :: state.fresh call.kind) }

/-- `changed.notify_waiters()`. -/
def notifyWaiters (state : State) : State :=
  { state with calls := state.calls.map fun call => { call with notified := true } }

end State

/-- The steps: of the clock, of the JVM's updates, and of a reservation and its permit. -/
inductive Action where
  | advance (by_ : Nat)
  | update (allowed : UInt32)
  | announce
  | reserveSlot (kind : SlotKind) (isSticky : Bool)
  | tryReserveSlot (kind : SlotKind) (isSticky : Bool)
  | register (place : Nat) (call : Reservation)
  | lock (place : Nat) (call : Reservation)
  | test (place : Nat) (call : Reservation)
  | readGate (place : Nat) (call : Reservation)
  | readClock (place : Nat) (call : Reservation) (allowed : UInt32)
  | issue (place : Nat) (call : Reservation) (decision : Decision)
  | reserve (place : Nat) (call : Reservation) (decision : Decision)
  | stamp (place : Nat) (call : Reservation) (decision : Decision)
  | finish (place : Nat) (call : Reservation)
  | wait (place : Nat) (call : Reservation) (refusal : Refusal)
  | wake (place : Nat) (call : Reservation) (timer : Option Nat)
  | cancel (place : Nat) (call : Reservation) (timer : Option Nat)
  | drop (place : Nat) (call : Reservation)
  | unreserve (place : Nat) (call : Reservation)
  | notify (place : Nat) (call : Reservation)
  deriving DecidableEq

/-- The place holds the reservation, which is in the phase. -/
def State.At (state : State) (place : Nat) (call : Reservation) (phase : Phase) : Prop :=
  state.calls[place]? = some call ∧ call.phase = phase

instance (state : State) (place : Nat) (call : Reservation) (phase : Phase) :
    Decidable (state.At place call phase) :=
  inferInstanceAs (Decidable (_ ∧ _))

/-- When a step may happen. -/
def guard (state : State) : Action → Prop
  | .advance _ | .update _ | .reserveSlot _ _ | .tryReserveSlot _ _ => True
  | .announce => 0 < state.announcing
  | .register place call => state.At place call .registering
  | .lock place call => state.At place call .locking ∧ state.holder call.kind = none
  | .test place call => state.At place call .testing
  | .readGate place call => state.At place call .gating
  | .readClock place call allowed => state.At place call (.timing allowed)
  | .issue place call decision => state.At place call (.issuing decision)
  | .reserve place call decision => state.At place call (.counting decision)
  | .stamp place call decision => state.At place call (.stamping decision)
  | .finish place call => state.At place call .returning
  | .wait place call refusal =>
      state.At place call (.refused refusal) ∧ state.holder call.kind = none
  | .wake place call timer =>
      state.At place call (.parked timer) ∧ (call.notified ∨ ∃ due ∈ timer, due ≤ state.now)
  | .cancel place call timer => state.At place call (.parked timer)
  | .drop place call => state.At place call .live ∧ state.holder call.kind = none
  | .unreserve place call => state.At place call .unreserving
  | .notify place call => state.At place call .notifying

instance (state : State) (action : Action) : Decidable (guard state action) := by
  cases action <;> unfold guard <;> infer_instance

/-- A fresh call. -/
def Reservation.new (kind : SlotKind) (isSticky blocking : Bool) : Reservation where
  kind := kind
  isSticky := isSticky
  blocking := blocking
  notified := false
  phase := if blocking then .registering else .locking

variable (slots : SlotKind → JvmSlots)

/-- The queue a reservation is for. -/
def queueOf (call : Reservation) : Bool := (slots call.kind).queue call.isSticky

/-- What a step does. -/
def effect (state : State) : Action → State
  | .advance by_ => { state with now := state.now + by_ }
  | .update allowed =>
      { state with allowed := allowed, announcing := state.announcing + 1, fresh := fun _ => [] }
  | .announce => { state.notifyWaiters with announcing := state.announcing - 1 }
  | .reserveSlot kind isSticky =>
      { state.setPending kind (state.pending kind + 1) with
        calls := state.calls ++ [Reservation.new kind isSticky true] }
  | .tryReserveSlot kind isSticky =>
      { state with calls := state.calls ++ [Reservation.new kind isSticky false] }
  | .register place call => state.move place { call with notified := false } .locking
  | .lock place call => (state.move place call .testing).setHolder call.kind (some place)
  | .test place call =>
      match (slots call.kind).noRoom (state.supplier call.kind) (queueOf slots call) with
      | some refusal => state.refuse place call refusal
      | none =>
          if (slots call.kind).required (state.supplier call.kind) (queueOf slots call) then
            state.move place call (.issuing
              { total := (state.supplier call.kind).total
                held := (state.supplier call.kind).issued (queueOf slots call)
                reading := none })
          else state.move place call .gating
  | .readGate place call =>
      if allows state.allowed call.kind then state.move place call (.timing state.allowed)
      else state.refuse place call .pressure
  | .readClock place call allowed =>
      if (state.supplier call.kind).elapsed state.now < (slots call.kind).ramp then
        state.refuse place call .ramp
      else
        state.move place call (.issuing
          { total := (state.supplier call.kind).total
            held := (state.supplier call.kind).issued (queueOf slots call)
            reading := some (allowed, state.now) })
  | .issue place call decision =>
      (state.move place call (.counting decision)).setSupplier call.kind
        ((state.supplier call.kind).issue (queueOf slots call))
  | .reserve place call decision =>
      (state.move place call (.stamping decision)).setReserved call.kind
        (state.reserved call.kind + 1)
  | .stamp place call decision =>
      { ((state.move place call (if call.blocking then .returning else .live)).setHolder
          call.kind none).setSupplier call.kind
          { state.supplier call.kind with lastIssued := state.now } with
        grants := Function.update state.grants call.kind
          (⟨queueOf slots call, decision, state.now⟩ :: state.grants call.kind) }
  | .finish place call =>
      (state.move place call .live).setPending call.kind (state.pending call.kind - 1)
  | .wait place call _ =>
      -- The timer is armed unless the ramp has run out by now.
      let wait := (slots call.kind).ramp - (state.supplier call.kind).elapsed state.now
      state.move place call (.parked (if wait = 0 then none else some (state.now + wait)))
  | .wake place call _ => state.move place call .registering
  | .cancel place call _ =>
      (state.move place call .finished).setPending call.kind (state.pending call.kind - 1)
  | .drop place call =>
      { (state.move place call .unreserving).setSupplier call.kind
          ((state.supplier call.kind).release (queueOf slots call)) with
        fresh := Function.update state.fresh call.kind [] }
  | .unreserve place call =>
      (state.move place call .notifying).setReserved call.kind (state.reserved call.kind - 1)
  | .notify place call => (state.move place call .finished).notifyWaiters

def machine : GuardedSystem State Action where
  start := start
  guard := guard
  effect := effect slots

instance (state : State) (action : Action) : Decidable ((machine slots).guard state action) :=
  inferInstanceAs (Decidable (guard state action))

end KtBridge.Slots
