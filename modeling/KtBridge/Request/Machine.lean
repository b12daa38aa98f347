import KtBridge.Foundation.System
import KtBridge.Queue
import Mathlib.Data.Finset.Basic
import Mathlib.Data.List.AList

/-! # Requests, the pending table and shutdown as a guarded system

One runtime entry with any number of `spawn_request` calls, the tasks they spawn,
cancellations, shutdown drains and pollers. A step is what one thread does between
two points where another can interfere: a critical section is one step unless it
pushes, when the push under the queue's lock is a step of its own while the pending
lock stays held. What a step depends on from outside (the result of an operation,
the order of a `HashMap`, a timeout) is part of its action.
-/

namespace KtBridge.Request

open Foundation

/-- One call of `spawn_request`, and the task it spawns. -/
abbrev Call := Nat

/-- How far a `spawn_request` call and its task have come. -/
inductive Phase where
  | idle
  /-- The tracker token is reserved. -/
  | reserved
  /-- `register` failed; the operation is not dropped yet. -/
  | refused (error : KtError)
  /-- The operation is dropped; the reservation is still held. -/
  | released (error : KtError)
  /-- The call returned the error. -/
  | rejected (error : KtError)
  /-- The request is in the pending table. -/
  | admitted
  /-- The tracked future exists; the reservation is still held. -/
  | tracked
  /-- The reservation is dropped; the task is about to be spawned. -/
  | ready
  /-- The call returned `Ok`, and the task waits in its `select!`. -/
  | running
  /-- The `select!` is over and the operation is dropped. -/
  | settled (result : Pending)
  /-- The task removed its id and holds the pending lock. -/
  | retired (result : Pending)
  /-- The result was pushed or given up. -/
  | leaving
  /-- The task's token is dropped. -/
  | finished
  /-- The executor dropped the operation. -/
  | abandoned
  /-- The executor dropped the task, and its token with it. -/
  | lost
  deriving DecidableEq

/-- A holder of the pending lock across more than one step. -/
inductive Party where
  | task (call : Call)
  | drain
  deriving DecidableEq

/-- A token of the task tracker: a reservation, a tracked request, a server's
reservation, or a spawned cleanup. -/
inductive Token where
  | reservation (call : Call)
  | request (call : Call)
  | server (server : Nat)
  | cleanup (job : Nat)
  deriving DecidableEq

/-- Whether a token is not one of a request's own. -/
def Token.foreign : Token → Bool
  | server _ => true
  | cleanup _ => true
  | _ => false

/-- The task tracker: closed or not, and the tokens not yet dropped. -/
structure Tracker where
  closed : Bool
  outstanding : Finset Token
  deriving DecidableEq

namespace Tracker

def token (tracker : Tracker) (token : Token) : Tracker :=
  { tracker with outstanding := insert token tracker.outstanding }

def dropToken (tracker : Tracker) (token : Token) : Tracker :=
  { tracker with outstanding := tracker.outstanding.erase token }

def close (tracker : Tracker) : Tracker := { tracker with closed := true }

/-- When a wait on the tracker may return. -/
def Drained (tracker : Tracker) : Prop := tracker.closed ∧ tracker.outstanding = ∅

instance (tracker : Tracker) : Decidable tracker.Drained :=
  inferInstanceAs (Decidable (_ ∧ _))

end Tracker

/-- What the pump thread of a poller is doing. -/
inductive PollerPhase where
  | idle
  /-- In the wait loop of a poll. -/
  | polling (cap : Nat) (timeoutMillis : Int)
  /-- Writing the records of a batch. -/
  | delivering (batch : List Pending)
  deriving DecidableEq

/-- The runtime entry with everything around it. The last four fields are history:
what operations returned, what was pushed into the open queue and for whom, what
each poll took, and what each poller's caller received. -/
structure State where
  phase : Call → Phase
  pending : AList fun _ : UInt64 => Call
  cancelled : Call → Bool
  closed : Bool
  lock : Option Party
  queue : Queue
  poller : Nat → PollerPhase
  tracker : Tracker
  dropping : List Pending
  returned : Call → Option Pending
  pushed : List (Option Call × Pending)
  taken : List (Nat × Pending)
  received : Nat → List Record

/-- A fresh runtime entry. -/
def start : State where
  phase := fun _ => .idle
  pending := ∅
  cancelled := fun _ => false
  closed := false
  lock := none
  queue := Queue.new
  poller := fun _ => .idle
  tracker := ⟨false, ∅⟩
  dropping := []
  returned := fun _ => none
  pushed := []
  taken := []
  received := fun _ => []

namespace State

/-- `RuntimeEntry::register`, under the pending lock: the error of a rejected call. -/
def register (state : State) (reqId : UInt64) : Option KtError :=
  if state.closed then some .shutdown
  else if reqId ∈ state.pending then
    some (.invalidArgument ("duplicate req_id " ++ toString reqId.toNat))
  else none

/-- `Sender::push`, recording for whom. What a closed queue gives back is dropped. -/
def push (state : State) (origin : Option Call) (pending : Pending) : State :=
  { state with
    queue := (state.queue.push pending).1
    dropping := state.dropping ++ (state.queue.push pending).2
    pushed := if state.queue.closed then state.pushed else state.pushed ++ [(origin, pending)] }

def setPhase (state : State) (call : Call) (phase : Phase) : State :=
  { state with phase := Function.update state.phase call phase }

end State

/-- Marks a completion as a pushed event. -/
def pushedEvent : UInt64 := 0

/-- The completions the bridge makes itself. -/
def cancelledCompletion (reqId : UInt64) : Pending := Pending.error reqId ktErrCancelled "cancelled"

def panicCompletion (reqId : UInt64) (message : String) : Pending :=
  Pending.error reqId ktErrPanic ("panic: " ++ message)

def shutdownCompletion (reqId : UInt64) : Pending :=
  Pending.error reqId ktErrShutdown "runtime is shutting down"

/-- The steps, in the order of a request's life, then shutdown, then polling. -/
inductive Action where
  | reserve (call : Call)
  | register (call : Call)
  | dropOperation (call : Call) (error : KtError)
  | reject (call : Call) (error : KtError)
  | track (call : Call)
  | unreserve (call : Call)
  | spawn (call : Call)
  | observeCancel (call : Call)
  | complete (call : Call) (result : Pending)
  | panic (call : Call) (message : String)
  | abandon (call : Call)
  | lose (call : Call)
  | retire (call : Call) (result : Pending)
  | answer (call : Call) (result : Pending)
  | leave (call : Call)
  | cancel (reqId : UInt64)
  | drainStart
  | drainAnswer (reqId : UInt64) (call : Call)
  | drainFinish
  | event (pending : Pending)
  | poll (poller : Nat) (cap : Nat) (timeoutMillis : Int)
  | pass (poller : Nat) (cap : Nat) (timeoutMillis : Int) (timedOut : Bool) (next : Queue)
      (batch : List Pending) (closed : Bool)
  | write (poller : Nat) (pending : Pending) (rest : List Pending)
  | finishPoll (poller : Nat)
  | wake
  | drop (pending : Pending)
  | closeTracker
  | issue (token : Token)
  | release (token : Token)

/-- When a step may happen. Operations are assumed to answer under their own id. -/
def guard (reqId : Call → UInt64) (state : State) : Action → Prop
  | .reserve call => state.phase call = .idle
  | .register call => state.phase call = .reserved ∧ state.lock = none
  | .dropOperation call error => state.phase call = .refused error
  | .reject call error => state.phase call = .released error
  | .track call => state.phase call = .admitted
  | .unreserve call => state.phase call = .tracked
  | .spawn call => state.phase call = .ready
  | .observeCancel call => state.phase call = .running ∧ state.cancelled call
  | .complete call result => state.phase call = .running ∧ result.reqId = reqId call
  | .panic call _ => state.phase call = .running
  | .abandon call => state.phase call = .running
  | .lose call => state.phase call = .abandoned
  | .retire call result => state.phase call = .settled result ∧ state.lock = none
  | .answer call result => state.phase call = .retired result ∧ state.lock = some (.task call)
  | .leave call => state.phase call = .leaving
  | .cancel _ => state.lock = none
  | .drainStart => state.lock = none
  | .drainAnswer id call => state.lock = some .drain ∧ state.pending.lookup id = some call
  | .drainFinish => state.lock = some .drain ∧ state.pending.keys = []
  | .event pending => pending.reqId = pushedEvent
  | .poll poller cap _ =>
      pollEntry cap false (state.poller poller ≠ .idle) = none
  | .pass poller cap timeoutMillis timedOut next batch closed =>
      state.poller poller = .polling cap timeoutMillis ∧
        state.queue.pass cap timeoutMillis timedOut = some (next, batch, closed)
  | .write poller pending rest => state.poller poller = .delivering (pending :: rest)
  | .finishPoll poller => state.poller poller = .delivering []
  | .wake => True
  | .drop pending => pending ∈ state.dropping
  | .closeTracker => True
  | .issue token => token.foreign ∧ token ∉ state.tracker.outstanding
  | .release token => token.foreign ∧ token ∈ state.tracker.outstanding

instance (reqId : Call → UInt64) (state : State) (action : Action) :
    Decidable (guard reqId state action) := by
  cases action <;> unfold guard <;> infer_instance

/-- What a step does. -/
def effect (reqId : Call → UInt64) (state : State) : Action → State
  | .reserve call =>
      { state.setPhase call .reserved with tracker := state.tracker.token (.reservation call) }
  | .register call =>
      match state.register (reqId call) with
      | some error => state.setPhase call (.refused error)
      | none =>
          { state.setPhase call .admitted with pending := state.pending.insert (reqId call) call }
  | .dropOperation call error => state.setPhase call (.released error)
  | .reject call error =>
      { state.setPhase call (.rejected error) with
        tracker := state.tracker.dropToken (.reservation call) }
  | .track call =>
      { state.setPhase call .tracked with tracker := state.tracker.token (.request call) }
  | .unreserve call =>
      { state.setPhase call .ready with tracker := state.tracker.dropToken (.reservation call) }
  | .spawn call => state.setPhase call .running
  | .observeCancel call => state.setPhase call (.settled (cancelledCompletion (reqId call)))
  | .complete call result =>
      { state.setPhase call (.settled result) with
        returned := Function.update state.returned call (some result) }
  | .panic call message => state.setPhase call (.settled (panicCompletion (reqId call) message))
  | .abandon call => state.setPhase call .abandoned
  | .lose call =>
      { state.setPhase call .lost with tracker := state.tracker.dropToken (.request call) }
  | .retire call result =>
      -- The id is removed whoever registered it; only its presence is looked at.
      if reqId call ∈ state.pending then
        { state.setPhase call (.retired result) with
          pending := state.pending.erase (reqId call)
          lock := some (.task call) }
      else { state.setPhase call .leaving with dropping := state.dropping ++ [result] }
  | .answer call result =>
      { (state.push (some call) result).setPhase call .leaving with lock := none }
  | .leave call =>
      { state.setPhase call .finished with tracker := state.tracker.dropToken (.request call) }
  | .cancel id =>
      match state.pending.lookup id with
      | some call => { state with cancelled := Function.update state.cancelled call true }
      | none => state
  | .drainStart => { state with lock := some .drain, closed := true }
  | .drainAnswer id call =>
      { state.push (some call) (shutdownCompletion id) with
        pending := state.pending.erase id
        cancelled := Function.update state.cancelled call true }
  | .drainFinish => { state with queue := state.queue.close, lock := none }
  | .event pending => state.push none pending
  | .poll poller cap timeoutMillis =>
      { state with poller := Function.update state.poller poller (.polling cap timeoutMillis) }
  | .pass poller _ _ _ next batch _ =>
      { state with
        queue := next
        taken := state.taken ++ batch.map fun pending => (poller, pending)
        poller := Function.update state.poller poller
          (if batch = [] then .idle else .delivering batch) }
  | .write poller pending rest =>
      -- The handle is cleared once it is written, so the batch drops without it.
      { state with
        received := Function.update state.received poller
          (state.received poller ++ [pending.record])
        poller := Function.update state.poller poller (.delivering rest)
        dropping := state.dropping ++ [pending.withAux0 0] }
  | .finishPoll poller => { state with poller := Function.update state.poller poller .idle }
  | .wake => { state with queue := state.queue.wake }
  | .drop pending => { state with dropping := state.dropping.erase pending }
  | .closeTracker => { state with tracker := state.tracker.close }
  | .issue token => { state with tracker := state.tracker.token token }
  | .release token => { state with tracker := state.tracker.dropToken token }

/-- The request machine, for any assignment of ids to calls. -/
def machine (reqId : Call → UInt64) : GuardedSystem State Action where
  start := start
  guard := guard reqId
  effect := effect reqId

instance (reqId : Call → UInt64) (state : State) (action : Action) :
    Decidable ((machine reqId).guard state action) :=
  inferInstanceAs (Decidable (guard reqId state action))

end KtBridge.Request
