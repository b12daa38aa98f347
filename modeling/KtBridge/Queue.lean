import KtBridge.Handle.Table

/-! # The completion queue

A `Pending` is a completion with its bytes; a `Record` is what a poll writes for
it. The queue is one mutex-protected state, and each function below is what one
holder of that mutex does. A push into a closed queue keeps the queue and gives
the completion back to be dropped. One pass of a poll's wait loop either parks or
takes a batch (`Queue.pass`); no pass takes anything out of order
(`Queue.pass_takes_prefix`).
-/

namespace KtBridge

/-- Payloads are compared byte by byte. -/
instance decidableEqPayload : DecidableEq ByteArray := fun first second =>
  decidable_of_iff (first.data = second.data) ByteArray.ext_iff.symm

/-- A completion before it is written into a poll's batch. -/
structure Pending where
  reqId : UInt64
  kind : KtKind
  status : Int
  payload : ByteArray
  aux0 : UInt64
  aux1 : UInt64
  deriving DecidableEq

namespace Pending

def ack (reqId : UInt64) : Pending where
  reqId := reqId
  kind := .ack
  status := ktOk
  payload := ByteArray.empty
  aux0 := 0
  aux1 := 0

def error (reqId : UInt64) (status : Int) (message : String) : Pending where
  reqId := reqId
  kind := .ack
  status := status
  payload := message.toByteArray
  aux0 := 0
  aux1 := 0

def withKind (pending : Pending) (kind : KtKind) : Pending := { pending with kind := kind }

def withPayload (pending : Pending) (payload : ByteArray) : Pending :=
  { pending with payload := payload }

def withAux0 (pending : Pending) (aux0 : UInt64) : Pending := { pending with aux0 := aux0 }

def withAux1 (pending : Pending) (aux1 : UInt64) : Pending := { pending with aux1 := aux1 }

/-- The handle a completion owns until a poll hands it over, with its kind: the
one that dropping the completion removes. -/
def owned (pending : Pending) : Option (Handle × UInt8) :=
  if pending.status ≠ ktOk ∨ pending.aux0 = 0 then none
  else
    match pending.kind with
    | .clientConnected => some (pending.aux0, kindClient)
    | .ephemeralStarted => some (pending.aux0, kindEphemeral)
    | _ => none

/-- The table after a completion is dropped. -/
def drop {Ref : Type} (pending : Pending) (table : Table Ref) : Table Ref :=
  match pending.owned with
  | some (handle, kind) => (table.removeOfKind handle kind).1
  | none => table

@[simp] theorem owned_ack (reqId : UInt64) : (ack reqId).owned = none := rfl

@[simp] theorem owned_error (reqId : UInt64) (status : Int) (message : String) :
    (error reqId status message).owned = none :=
  if_pos (Or.inr rfl)

/-- A completion whose handle was cleared owns nothing. -/
@[simp] theorem owned_withAux0_zero (pending : Pending) : (pending.withAux0 0).owned = none :=
  if_pos (Or.inr rfl)

end Pending

/-- A record as a poll writes it; the payload stands for the bytes its pointer and
length delimit. -/
structure Record where
  reqId : UInt64
  kind : UInt32
  status : Int
  payload : ByteArray
  aux0 : UInt64
  aux1 : UInt64
  deriving DecidableEq

/-- The record written for a completion. -/
def Pending.record (pending : Pending) : Record where
  reqId := pending.reqId
  kind := pending.kind.discriminant
  status := pending.status
  payload := pending.payload
  aux0 := pending.aux0
  aux1 := pending.aux1

/-- The handle a record hands over to the poll's caller, with its kind. -/
def Record.owned (record : Record) : Option (Handle × UInt8) :=
  if record.status ≠ ktOk ∨ record.aux0 = 0 then none
  else if record.kind = KtKind.clientConnected.discriminant then some (record.aux0, kindClient)
  else if record.kind = KtKind.ephemeralStarted.discriminant then some (record.aux0, kindEphemeral)
  else none

/-- A record hands over what its completion owned. -/
@[simp] theorem Pending.owned_record (pending : Pending) : pending.record.owned = pending.owned := by
  obtain ⟨_, kind, status, _, aux0, _⟩ := pending
  by_cases success : status = ktOk
  · by_cases zero : aux0 = 0
    · simp [Record.owned, Pending.owned, Pending.record, zero]
    · cases kind <;>
        simp [Record.owned, Pending.owned, Pending.record, success, zero, KtKind.discriminant]
  · simp [Record.owned, Pending.owned, Pending.record, success]

/-- The queue's state, all of it behind one mutex. `wakes` is a `u64` there: it stands for
one that has seen fewer than `2 ^ 64` wakes and does not overflow. -/
structure Queue where
  queue : List Pending
  wakes : Nat
  closed : Bool
  deriving DecidableEq

namespace Queue

def new : Queue where
  queue := []
  wakes := 0
  closed := false

/-- Append a completion; a closed queue gives it back to be dropped. -/
def push (state : Queue) (pending : Pending) : Queue × List Pending :=
  if state.closed then (state, [pending])
  else ({ state with queue := state.queue ++ [pending] }, [])

/-- Close for good. What is queued stays. -/
def close (state : Queue) : Queue := { state with closed := true }

def wake (state : Queue) : Queue := { state with wakes := state.wakes + 1 }

/-- Take at most `cap` completions from the front, and read the closed flag. -/
def drain (state : Queue) (cap : Nat) : Queue × List Pending × Bool :=
  ({ state with queue := state.queue.drop (min cap state.queue.length) },
    state.queue.take (min cap state.queue.length), state.closed)

/-- The test at the head of a poll's wait loop: `some` leaves the loop, and a pending
wake that lets it out is consumed; `none` goes on to wait. -/
def check (state : Queue) (timeoutMillis : Int) : Option Queue :=
  if state.queue ≠ [] ∨ state.closed then some state
  else if 0 < state.wakes then some { state with wakes := state.wakes - 1 }
  else if timeoutMillis = 0 then some state
  else none

/-- One pass of the wait loop of a poll, with what follows it under the lock. A
negative timeout waits without a deadline; `timedOut` says that a wait with a
deadline just ended by it, which leaves the loop without another test. `none` goes
back to waiting. -/
def pass (state : Queue) (cap : Nat) (timeoutMillis : Int) (timedOut : Bool) :
    Option (Queue × List Pending × Bool) :=
  if 0 < timeoutMillis ∧ timedOut then some (state.drain cap)
  else (state.check timeoutMillis).map (drain · cap)

/-- The test leaves the completions and the closed flag, and takes at most a wake. -/
theorem check_keeps {state next : Queue} {timeoutMillis : Int}
    (left : state.check timeoutMillis = some next) :
    next.queue = state.queue ∧ next.closed = state.closed ∧ next.wakes ≤ state.wakes := by
  unfold check at left
  split at left
  · obtain rfl := Option.some.inj left
    exact ⟨rfl, rfl, le_rfl⟩
  · split at left
    · obtain rfl := Option.some.inj left
      exact ⟨rfl, rfl, Nat.sub_le ..⟩
    · split at left
      · obtain rfl := Option.some.inj left
        exact ⟨rfl, rfl, le_rfl⟩
      · cases left

/-- A pass takes its batch from a queue with the same completions and closed flag. -/
theorem pass_drains {state next : Queue} {cap : Nat} {timeoutMillis : Int}
    {timedOut closed : Bool} {batch : List Pending}
    (passed : state.pass cap timeoutMillis timedOut = some (next, batch, closed)) :
    ∃ left : Queue, left.queue = state.queue ∧ left.closed = state.closed ∧
      left.drain cap = (next, batch, closed) := by
  unfold pass at passed
  split at passed
  · exact ⟨state, rfl, rfl, Option.some.inj passed⟩
  · obtain ⟨left, checked, drained⟩ := Option.map_eq_some_iff.mp passed
    have keeps := check_keeps checked
    exact ⟨left, keeps.1, keeps.2.1, drained⟩

/-- A pass takes a prefix of the queue and leaves the rest, and the closed flag. -/
theorem pass_takes_prefix {state next : Queue} {cap : Nat} {timeoutMillis : Int}
    {timedOut closed : Bool} {batch : List Pending}
    (passed : state.pass cap timeoutMillis timedOut = some (next, batch, closed)) :
    state.queue = batch ++ next.queue ∧ closed = state.closed ∧ next.closed = state.closed := by
  obtain ⟨left, queue, closed, drained⟩ := pass_drains passed
  simp only [drain, Prod.mk.injEq] at drained
  obtain ⟨rfl, rfl, rfl⟩ := drained
  refine ⟨?_, closed, closed⟩
  rw [← queue]
  exact (List.take_append_drop _ _).symm

/-- With room for a record, a pass takes nothing only from an empty queue. -/
theorem pass_empty {state next : Queue} {cap : Nat} {timeoutMillis : Int} {timedOut closed : Bool}
    (room : 0 < cap) (passed : state.pass cap timeoutMillis timedOut = some (next, [], closed)) :
    state.queue = [] := by
  obtain ⟨left, queue, -, drained⟩ := pass_drains passed
  simp only [drain, Prod.mk.injEq] at drained
  rw [← queue]
  rcases List.take_eq_nil_iff.mp drained.2.1 with none | empty
  · apply List.eq_nil_of_length_eq_zero
    omega
  · exact empty

end Queue

/-- The checks a poll makes before it takes the queue's lock: `some` is an early
return, `none` goes on. -/
def pollEntry (cap : Nat) (outIsNull inPoll : Bool) : Option (Outcome Nat) :=
  if cap = 0 then some (.ok 0)
  else if outIsNull then some (.error (.invalidArgument "out is null"))
  else if inPoll then
    some (.error (.invalidArgument
      "this poller is already being polled by another thread; each poller belongs to one pump thread"))
  else none

/-- A poll goes on only with room for a record. -/
theorem cap_of_pollEntry {cap : Nat} {outIsNull inPoll : Bool}
    (entered : pollEntry cap outIsNull inPoll = none) : 0 < cap ∧ inPoll = false := by
  unfold pollEntry at entered
  split at entered
  · cases entered
  · next room =>
    split at entered
    · cases entered
    · split at entered
      · cases entered
      · next free => exact ⟨Nat.pos_of_ne_zero room, Bool.eq_false_iff.mpr free⟩

/-- How a poll that took nothing ends: a closed queue is an error, since it can
never fill again. -/
def emptyPoll (closed : Bool) : Outcome Nat :=
  if closed then .error .shutdown else .ok 0

end KtBridge
