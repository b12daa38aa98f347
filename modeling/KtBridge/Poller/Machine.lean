import KtBridge.Foundation.System
import KtBridge.Poller.Batch
import Mathlib.Data.Finset.Card

/-! # The pollers of one queue as a guarded system

Any number of polls on any number of pollers of one queue, with pushes, wakes and the
close. The queue's mutex is held from a poll's lock to where the poll parks or has
drained; a push, a wake or a close takes it for its whole step. Waiting releases the
mutex and parks at once, `notify_all` marks whoever is parked, and a wait may also
end spuriously or by its deadline.
-/

namespace KtBridge.Poller

open Foundation

/-- A poller of the queue. -/
abbrev PollerEntry := Nat

/-- One call of `poll`. -/
abbrev Poll := Nat

/-- What a call that passed the entry checks works with. -/
structure Call where
  poller : PollerEntry
  cap : Nat
  timeoutMillis : Int
  deriving DecidableEq

/-- How far a call has come. -/
inductive Phase where
  | idle
  /-- Returned by an entry check. -/
  | rejected (outcome : Outcome Nat)
  /-- Waiting for the mutex, before the loop. -/
  | locking (call : Call)
  /-- At the head of the loop, with the mutex. -/
  | checking (call : Call)
  /-- Nothing was found; the mutex is still held. -/
  | waiting (call : Call)
  | parked (call : Call) (notified : Bool)
  /-- The wait ended; waiting for the mutex again. -/
  | relocking (call : Call) (timedOut : Bool)
  /-- Out of the loop, with the mutex. -/
  | draining (call : Call)
  /-- The mutex is released; the batch is not written yet. -/
  | writing (call : Call) (batch : List Pending) (closed : Bool)
  /-- The poller still counts as being polled. -/
  | leaving (call : Call) (outcome : Outcome Nat) (records : List KtCompletion)
  | returned (call : Call) (outcome : Outcome Nat) (records : List KtCompletion)
  deriving DecidableEq

namespace Phase

/-- `notify_all`, for one thread. -/
def notify : Phase → Phase
  | parked call _ => parked call true
  | phase => phase

/-- Whether the call holds the queue's mutex. -/
def holds : Phase → Bool
  | checking _ | waiting _ | draining _ => true
  | _ => false

/-- The call between its entry and its return. -/
def ongoing : Phase → Option Call
  | locking call | checking call | waiting call | parked call _ | relocking call _
  | draining call | writing call _ _ | leaving call _ _ => some call
  | _ => none

@[simp] theorem holds_notify (phase : Phase) : phase.notify.holds = phase.holds := by
  cases phase <;> rfl

@[simp] theorem ongoing_notify (phase : Phase) : phase.notify.ongoing = phase.ongoing := by
  cases phase <;> rfl

end Phase

/-- A drain step: the poll with its call, the queue it found, and what it took. -/
structure Drain where
  poll : Poll
  call : Call
  found : Queue
  batch : List Pending
  deriving DecidableEq

/-- The queue with its pollers and calls. The last six fields are history: the drain
steps in order, the pushes given back, the polls that consumed a wake, what each poll
wrote, who wrote each slab last, and the pollers that were woken since a poll on
them left the wait loop. -/
structure State where
  queue : Queue
  holder : Option Poll
  inPoll : PollerEntry → Bool
  buf : PollerEntry → BatchBuf
  phase : Poll → Phase
  drains : List Drain
  dropped : List Pending
  consumed : List Poll
  written : Poll → List Record
  writer : PollerEntry → Option Poll
  woken : Finset PollerEntry

def start : State where
  queue := Queue.new
  holder := none
  inPoll := fun _ => false
  buf := fun _ => BatchBuf.new
  phase := fun _ => .idle
  drains := []
  dropped := []
  consumed := []
  written := fun _ => []
  writer := fun _ => none
  woken := ∅

namespace State

def setPhase (state : State) (poll : Poll) (phase : Phase) : State :=
  { state with phase := Function.update state.phase poll phase }

def notifyAll (state : State) : State := { state with phase := fun poll => (state.phase poll).notify }

/-- A poll on the poller left the wait loop. -/
def leaveLoop (state : State) (poller : PollerEntry) : State :=
  { state with woken := state.woken.erase poller }

end State

/-- The steps: of senders, closers and wakers, and of a poll in the order of its life. -/
inductive Action where
  | push (pending : Pending)
  | close
  | wake (poller : PollerEntry)
  | enter (poll : Poll) (call : Call) (outIsNull : Bool)
  | lock (poll : Poll) (call : Call)
  | check (poll : Poll) (call : Call)
  | park (poll : Poll) (call : Call)
  | unpark (poll : Poll) (call : Call) (notified timedOut : Bool)
  | relock (poll : Poll) (call : Call) (timedOut : Bool)
  | drain (poll : Poll) (call : Call)
  | write (poll : Poll) (call : Call) (batch : List Pending) (closed : Bool)
  | leave (poll : Poll) (call : Call) (outcome : Outcome Nat) (records : List KtCompletion)
  deriving DecidableEq

/-- The poll whose step an action is. -/
def Action.poll : Action → Option Poll
  | .push _ | .close | .wake _ => none
  | .enter poll _ _ | .lock poll _ | .check poll _ | .park poll _ | .unpark poll _ _ _
  | .relock poll _ _ | .drain poll _ | .write poll _ _ _ | .leave poll _ _ _ => some poll

/-- When a step may happen. -/
def guard (state : State) : Action → Prop
  | .push _ | .close | .wake _ => state.holder = none
  | .enter poll _ _ => state.phase poll = .idle
  | .lock poll call => state.phase poll = .locking call ∧ state.holder = none
  | .check poll call => state.phase poll = .checking call
  | .park poll call => state.phase poll = .waiting call
  -- Notified or not: a wait may end on its own. Only one with a deadline times out.
  | .unpark poll call notified timedOut =>
      state.phase poll = .parked call notified ∧ (timedOut → 0 < call.timeoutMillis)
  | .relock poll call timedOut => state.phase poll = .relocking call timedOut ∧ state.holder = none
  | .drain poll call => state.phase poll = .draining call
  | .write poll call batch closed => state.phase poll = .writing call batch closed
  | .leave poll call outcome records => state.phase poll = .leaving call outcome records

instance (state : State) (action : Action) : Decidable (guard state action) := by
  cases action <;> unfold guard <;> infer_instance

/-- What a step does. -/
def effect (state : State) : Action → State
  | .push pending =>
      -- A push into a closed queue returns before it notifies.
      if state.queue.closed then { state with dropped := state.dropped ++ (state.queue.push pending).2 }
      else { state.notifyAll with queue := (state.queue.push pending).1 }
  | .close => { state.notifyAll with queue := state.queue.close }
  | .wake poller =>
      { state.notifyAll with
        queue := state.queue.wake
        woken := insert poller state.woken }
  | .enter poll call outIsNull =>
      match pollEntry call.cap outIsNull (state.inPoll call.poller) with
      | some outcome => state.setPhase poll (.rejected outcome)
      | none =>
          { state.setPhase poll (.locking call) with
            inPoll := Function.update state.inPoll call.poller true }
  | .lock poll call => { state.setPhase poll (.checking call) with holder := some poll }
  | .check poll call =>
      match state.queue.check call.timeoutMillis with
      | some next =>
          { (state.setPhase poll (.draining call)).leaveLoop call.poller with
            queue := next
            consumed :=
              if next.wakes < state.queue.wakes then state.consumed ++ [poll] else state.consumed }
      | none => state.setPhase poll (.waiting call)
  | .park poll call => { state.setPhase poll (.parked call false) with holder := none }
  | .unpark poll call _ timedOut => state.setPhase poll (.relocking call timedOut)
  | .relock poll call timedOut =>
      -- A wait that timed out leaves the loop without another test.
      if timedOut then
        { (state.setPhase poll (.draining call)).leaveLoop call.poller with holder := some poll }
      else { state.setPhase poll (.checking call) with holder := some poll }
  | .drain poll call =>
      { state.setPhase poll
          (.writing call (state.queue.drain call.cap).2.1 (state.queue.drain call.cap).2.2) with
        queue := (state.queue.drain call.cap).1
        holder := none
        drains := state.drains ++ [⟨poll, call, state.queue, (state.queue.drain call.cap).2.1⟩] }
  | .write poll call batch closed =>
      if batch = [] then state.setPhase poll (.leaving call (emptyPoll closed) [])
      else
        match (state.buf call.poller).fill batch with
        | some (next, records) =>
            { state.setPhase poll (.leaving call (.ok batch.length) records) with
              buf := Function.update state.buf call.poller next
              written := Function.update state.written poll (records.map (KtCompletion.read next))
              writer := Function.update state.writer call.poller (some poll) }
        | none => state.setPhase poll (.leaving call .panic [])
  | .leave poll call outcome records =>
      { state.setPhase poll (.returned call outcome records) with
        inPoll := Function.update state.inPoll call.poller false }

def machine : GuardedSystem State Action where
  start := start
  guard := guard
  effect := effect

instance (state : State) (action : Action) : Decidable (machine.guard state action) :=
  inferInstanceAs (Decidable (guard state action))

/-- A step of others leaves a poll where it was, or notifies it. -/
theorem phase_of_other (state : State) {action : Action} {poll : Poll}
    (other : action.poll ≠ some poll) :
    (effect state action).phase poll = state.phase poll ∨
      (effect state action).phase poll = (state.phase poll).notify := by
  have different : ∀ mover, some mover ≠ some poll → poll ≠ mover :=
    fun mover apart same => apart (congrArg some same.symm)
  cases action with
  | push pending =>
      simp only [effect]
      split
      · exact Or.inl rfl
      · exact Or.inr rfl
  | close => exact Or.inr rfl
  | wake poller => exact Or.inr rfl
  | enter mover call outIsNull =>
      left
      simp only [effect]
      split <;> exact Function.update_of_ne (different mover other) ..
  | check mover call =>
      left
      simp only [effect]
      split <;> exact Function.update_of_ne (different mover other) ..
  | relock mover call timedOut =>
      left
      simp only [effect]
      split <;> exact Function.update_of_ne (different mover other) ..
  | write mover call batch closed =>
      left
      simp only [effect]
      split
      · exact Function.update_of_ne (different mover other) ..
      · split <;> exact Function.update_of_ne (different mover other) ..
  | lock mover call => exact Or.inl (Function.update_of_ne (different mover other) ..)
  | park mover call => exact Or.inl (Function.update_of_ne (different mover other) ..)
  | unpark mover call notified timedOut =>
      exact Or.inl (Function.update_of_ne (different mover other) ..)
  | drain mover call => exact Or.inl (Function.update_of_ne (different mover other) ..)
  | leave mover call outcome records =>
      exact Or.inl (Function.update_of_ne (different mover other) ..)

end KtBridge.Poller
