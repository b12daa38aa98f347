import KtBridge.Foundation.System
import KtBridge.Pump.Machine

/-! # The task stream as a guarded system

One sending thread and any number of `TaskStream.receive` calls. The tasks are in a
queue of their own; the conflated channel `ready` carries wakeups only. Each access to
the queue, the channel or the cancellation of a coroutine is a step of its own. A
wakeup offered while a receiver is suspended is handed to it, and may be lost again
if the receiver is cancelled before it is dispatched.
-/

namespace KtBridge.TaskStream

open Foundation Pump

/-- One call of `TaskStream.receive`. -/
abbrev Receive := Nat

/-- How `receiveCatching` ends. -/
inductive Wakeup where
  | element
  | closed (cause : Option Throwable)
  /-- It throws `CancellationException`. -/
  | cancelled
  deriving DecidableEq

/-- How far a call of `receive` has come. -/
inductive Phase where
  | idle
  /-- At the head of the loop, before `ensureActive`. -/
  | starting
  | polling
  /-- A task was taken; the rest of the queue was not looked at yet. -/
  | polled (task : ByteArray)
  /-- More tasks were seen; a wakeup is about to be offered. -/
  | passing (task : ByteArray)
  | returned (task : ByteArray)
  /-- The queue was empty; `receiveCatching` is about to be called. -/
  | receiving
  | parked
  /-- The continuation is resumed, and waits to be dispatched. -/
  | resumed (wakeup : Wakeup)
  /-- In the `finally` block, before the queue is looked at. -/
  | woken (wakeup : Wakeup)
  /-- In the `finally` block, about to offer a wakeup. -/
  | repassing (wakeup : Wakeup)
  /-- The channel was closed; the queue is about to be polled once more. -/
  | draining (cause : Option Throwable)
  /-- The call threw: the cause, or `ClosedReceiveChannelException`. -/
  | ended (cause : Option Throwable)
  | cancelled
  deriving DecidableEq

namespace Phase

/-- The task a call has taken. -/
def task : Phase → Option ByteArray
  | polled task | passing task | returned task => some task
  | _ => none

/-- Whether the call has a step before it that looks at the queue for others, or
offers them a wakeup. -/
def pending : Phase → Bool
  | polled _ | passing _ | resumed _ | woken _ | repassing _ => true
  | _ => false

/-- The cause a call knows the channel was closed with. -/
def told : Phase → Option (Option Throwable)
  | resumed (.closed cause) | woken (.closed cause) | repassing (.closed cause) => some cause
  | draining cause | ended cause => some cause
  | _ => none

end Phase

/-- Where a call goes on from `receiveCatching`. -/
def Wakeup.next : Wakeup → Phase
  | element => .starting
  | closed cause => .draining cause
  | cancelled => .cancelled

/-- What the sending thread is doing. -/
inductive SenderPhase where
  | idle
  /-- A task was added; a wakeup is about to be offered. -/
  | offering
  /-- The flag is set; the channel is about to be closed. -/
  | closing (cause : Option Throwable)
  deriving DecidableEq

/-- The stream with its callers. The last two fields are history: the tasks added, and
those taken, with the call that took each. -/
structure State where
  tasks : List ByteArray
  token : Bool
  closedWith : Option (Option Throwable)
  waiters : List Receive
  closed : Bool
  sender : SenderPhase
  phase : Receive → Phase
  isCancelled : Receive → Bool
  sent : List ByteArray
  taken : List (Receive × ByteArray)

def start : State where
  tasks := []
  token := false
  closedWith := none
  waiters := []
  closed := false
  sender := .idle
  phase := fun _ => .idle
  isCancelled := fun _ => false
  sent := []
  taken := []

namespace State

def setPhase (state : State) (call : Receive) (phase : Phase) : State :=
  { state with phase := Function.update state.phase call phase }

/-- `ready.trySend(Unit)`: wake the first waiter, or leave the one token. -/
def trySend (state : State) : State :=
  match state.closedWith, state.waiters with
  | some _, _ => state
  | none, call :: rest => { state.setPhase call (.resumed .element) with waiters := rest }
  | none, [] => { state with token := true }

/-- `ready.close(cause)`: the first close counts, and resumes every waiter. -/
def closeChannel (state : State) (cause : Option Throwable) : State :=
  match state.closedWith with
  | some _ => state
  | none =>
      { state with
        closedWith := some cause
        waiters := []
        phase := fun call =>
          if call ∈ state.waiters then .resumed (.closed cause) else state.phase call }

/-- `tasks.poll()`, by a call that goes on to `found` or `empty`. -/
def poll (state : State) (call : Receive) (found : ByteArray → Phase) (empty : Phase) : State :=
  match state.tasks with
  | task :: rest =>
      { state.setPhase call (found task) with
        tasks := rest
        taken := state.taken ++ [(call, task)] }
  | [] => state.setPhase call empty

end State

/-- The steps: of the sender, of a coroutine, and of a receiver. -/
inductive Action where
  | send (task : ByteArray)
  | offer
  | close (cause : Option Throwable)
  | closeChannel (cause : Option Throwable)
  | call (call : Receive)
  | cancel (call : Receive)
  | ensureActive (call : Receive)
  | poll (call : Receive)
  | look (call : Receive) (task : ByteArray)
  | pass (call : Receive) (task : ByteArray)
  | receive (call : Receive)
  | unpark (call : Receive)
  | dispatch (call : Receive) (wakeup : Wakeup) (lost : Bool)
  | lookAgain (call : Receive) (wakeup : Wakeup)
  | repass (call : Receive) (wakeup : Wakeup)
  | drain (call : Receive) (cause : Option Throwable)
  deriving DecidableEq

/-- When a step may happen. -/
def guard (state : State) : Action → Prop
  | .send _ => state.sender = .idle
  | .offer => state.sender = .offering
  | .close _ => state.sender = .idle
  | .closeChannel cause => state.sender = .closing cause
  | .call call => state.phase call = .idle
  | .cancel _ => True
  | .ensureActive call => state.phase call = .starting
  | .poll call => state.phase call = .polling
  | .look call task => state.phase call = .polled task
  | .pass call task => state.phase call = .passing task
  | .receive call => state.phase call = .receiving
  | .unpark call => state.phase call = .parked ∧ state.isCancelled call
  -- What was handed over may be lost to a cancellation, and only to one.
  | .dispatch call wakeup lost => state.phase call = .resumed wakeup ∧
      (lost → state.isCancelled call)
  | .lookAgain call wakeup => state.phase call = .woken wakeup
  | .repass call wakeup => state.phase call = .repassing wakeup
  | .drain call cause => state.phase call = .draining cause

instance (state : State) (action : Action) : Decidable (guard state action) := by
  cases action <;> unfold guard <;> infer_instance

/-- What a step does. -/
def effect (state : State) : Action → State
  | .send task =>
      if state.closed then state
      else
        { state with
          tasks := state.tasks ++ [task]
          sent := state.sent ++ [task]
          sender := .offering }
  | .offer => { state.trySend with sender := .idle }
  | .close cause => { state with closed := true, sender := .closing cause }
  | .closeChannel cause => { state.closeChannel cause with sender := .idle }
  | .call call => state.setPhase call .starting
  | .cancel call =>
      { state with isCancelled := Function.update state.isCancelled call true }
  | .ensureActive call =>
      state.setPhase call (if state.isCancelled call then .cancelled else .polling)
  | .poll call => state.poll call .polled .receiving
  | .look call task =>
      state.setPhase call (if state.tasks = [] then .returned task else .passing task)
  | .pass call task => state.trySend.setPhase call (.returned task)
  | .receive call =>
      -- A buffered wakeup is received before the channel counts as closed.
      if state.token then { state.setPhase call (.woken .element) with token := false }
      else
        match state.closedWith with
        | some cause => state.setPhase call (.woken (.closed cause))
        | none => { state.setPhase call .parked with waiters := state.waiters ++ [call] }
  | .unpark call =>
      { state.setPhase call (.resumed .cancelled) with waiters := state.waiters.erase call }
  | .dispatch call wakeup lost =>
      state.setPhase call (.woken (if lost then .cancelled else wakeup))
  | .lookAgain call wakeup =>
      state.setPhase call (if state.tasks = [] then wakeup.next else .repassing wakeup)
  | .repass call wakeup => state.trySend.setPhase call wakeup.next
  | .drain call cause => state.poll call .returned (.ended cause)

def machine : GuardedSystem State Action where
  start := start
  guard := guard
  effect := effect

instance (state : State) (action : Action) : Decidable (machine.guard state action) :=
  inferInstanceAs (Decidable (guard state action))

end KtBridge.TaskStream
