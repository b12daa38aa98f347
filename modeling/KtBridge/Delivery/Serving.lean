import KtBridge.Delivery.Reception

/-! # The stream of a worker that stays open runs its own machine

While nobody closes the worker or its runtime, only the pump thread sends to a stream and ends it. So
the stream, seen with the pump thread as its sender (`State.view`), is a task stream of its own, and
it has been sent what the pump thread has told it (`State.Serving`). -/

namespace KtBridge

namespace TaskStream

open Pump

/-- The stream, with its sender elsewhere. -/
def State.withSender (state : State) (sender : SenderPhase) : State := { state with sender := sender }

section Sender

variable {state : State} {sender : SenderPhase} {action : Action}

theorem trySend_withSender : (state.withSender sender).trySend = state.trySend.withSender sender := by
  obtain ⟨tasks, token, closedWith, waiters, _⟩ := state
  cases closedWith <;> cases waiters <;> rfl

theorem closeChannel_withSender (cause : Option Throwable) :
    (state.withSender sender).closeChannel cause = (state.closeChannel cause).withSender sender := by
  obtain ⟨tasks, token, closedWith, _⟩ := state
  cases closedWith <;> rfl

theorem poll_withSender (call : Receive) (found : ByteArray → Phase) (empty : Phase) :
    (state.withSender sender).poll call found empty =
      (state.poll call found empty).withSender sender := by
  obtain ⟨tasks, _⟩ := state
  cases tasks <;> rfl

theorem receive_withSender (call : Receive) :
    effect (state.withSender sender) (.receive call) =
      (effect state (.receive call)).withSender sender := by
  obtain ⟨tasks, token, closedWith, _⟩ := state
  cases token <;> cases closedWith <;> rfl

/-- Receivers do not look at the sender. -/
theorem guard_withSender (receiving : action.receiving = true) :
    guard (state.withSender sender) action ↔ guard state action := by
  cases action with
  | send task => cases receiving
  | offer => cases receiving
  | close cause => cases receiving
  | closeChannel cause => cases receiving
  | _ => exact Iff.rfl

/-- Receivers leave the sender where it is. -/
theorem effect_withSender (receiving : action.receiving = true) :
    effect (state.withSender sender) action = (effect state action).withSender sender := by
  cases action with
  | send task => cases receiving
  | offer => cases receiving
  | close cause => cases receiving
  | closeChannel cause => cases receiving
  | poll call => exact poll_withSender ..
  | drain call cause => exact poll_withSender ..
  | pass call task =>
      change (state.withSender sender).trySend.setPhase call _ = _
      rw [trySend_withSender]
      rfl
  | repass call wakeup =>
      change (state.withSender sender).trySend.setPhase call _ = _
      rw [trySend_withSender]
      rfl
  | receive call => exact receive_withSender call
  | _ => rfl

theorem trySend_sent (state : State) : state.trySend.sent = state.sent := by
  unfold State.trySend
  split <;> rfl

theorem closeChannel_sent (state : State) (cause : Option Throwable) :
    (state.closeChannel cause).sent = state.sent := by
  unfold State.closeChannel
  split <;> rfl

/-- Receivers send nothing. -/
theorem sent_receiving (receiving : action.receiving = true) :
    (effect state action).sent = state.sent := by
  have polled : ∀ call found empty, (state.poll call found empty).sent = state.sent := by
    intro call found empty
    unfold State.poll
    split <;> rfl
  cases action with
  | send task => cases receiving
  | offer => cases receiving
  | close cause => cases receiving
  | closeChannel cause => cases receiving
  | poll call => exact polled ..
  | drain call cause => exact polled ..
  | pass call task => exact trySend_sent state
  | repass call wakeup => exact trySend_sent state
  | receive call =>
      simp only [effect]
      split
      · rfl
      · split <;> rfl
  | _ => rfl

end Sender

end TaskStream

namespace Delivery

open Foundation
open Pump (Completion Call Throwable)
open KtBridge.Runtime (KtTaskKind Worker Phase)
open KtBridge.Worker (TaskKind)

/-- What a failure that was told does to the stream's end. -/
def failureOf (decode : ByteArray → String) (events : List Event) : Option Throwable :=
  (Event.failure events).map fun failure =>
    .core ⟨"worker poll stream failed: " ++ decode failure.2, failure.1⟩

/-- What the pump thread is telling a stream, and has not told it yet. -/
def current (worker : Worker) (kind : KtTaskKind) : Phase → List Event
  | .pushed completion | .handling completion => (told worker kind completion).toList
  | .sending other this task => if other = worker ∧ this = kind then [.task task] else []
  | .handlingEnd other this _ | .handlingChannel other this _ =>
      if other = worker ∧ this = kind then [.ended] else []
  | _ => []

/-- The pump thread, as the sender of a stream. -/
def sender (worker : Worker) (kind : KtTaskKind) : Phase → TaskStream.SenderPhase
  | .offering other this => if other = worker ∧ this = kind then .offering else .idle
  | .handlingChannel other this cause =>
      if other = worker ∧ this = kind then .closing cause else .idle
  | _ => .idle

/-- The cause with which the pump thread is about to end a stream. -/
def ending (worker : Worker) (kind : KtTaskKind) : Phase → Option (Option Throwable)
  | .handlingEnd other this cause | .handlingChannel other this cause =>
      if other = worker ∧ this = kind then some cause else none
  | _ => none

/-- Whether the pump thread has set the flag of a stream, and will close its channel. -/
def flags (worker : Worker) (kind : KtTaskKind) : Phase → Bool
  | .handlingChannel other this _ => other = worker ∧ this = kind
  | _ => false

namespace State

/-- A stream of a worker, with the pump thread as its sender. -/
def view (state : State) (worker : Worker) (kind : KtTaskKind) : TaskStream.State :=
  (state.runtime.stream worker kind).withSender (sender worker kind state.here)

/-- A stream has been sent what it was told `before`, and the pump thread is telling it the rest. -/
structure Serving (decode : ByteArray → String) (state : State) (worker : Worker) (kind : KtTaskKind)
    (before : List Event) : Prop where
  told : story worker kind state.exchange.pump.pushed = before ++ current worker kind state.here
  sent : (state.runtime.stream worker kind).sent = Event.tasks before
  flagged : (state.runtime.stream worker kind).closed = true ↔
    .ended ∈ before ∨ flags worker kind state.here = true
  closedWith : (state.runtime.stream worker kind).closedWith =
    if .ended ∈ before then some (failureOf decode before) else none
  failures : state.runtime.streamFailures worker kind = failureOf decode before
  cause : ∀ cause, ending worker kind state.here = some cause → cause = failureOf decode before
  machine : TaskStream.machine.Reachable (state.view worker kind)

end State

section Frame

variable {decode : ByteArray → String} {worker : Worker} {state : State}

/-- A call outside `onPushed` leaves the streams of the worker as they are. -/
theorem streams_of_elsewhere (decode : ByteArray → String) (undisturbed : state.Undisturbed worker)
    {action : Runtime.Action} {call : Call} (ready : guard state (.runtime action))
    (turn : action.turn = some call)
    (elsewhere : delivers (state.runtime.phase call) = false) :
    (Runtime.effect decode state.runtime action).stream worker = state.runtime.stream worker ∧
      (Runtime.effect decode state.runtime action).streamFailures worker =
        state.runtime.streamFailures worker := by
  obtain ⟨ready, _⟩ := ready
  have harmless := (undisturbed.fits call).harmless
  have there : ∀ {phase}, state.runtime.phase call = phase → delivers phase = true → False := by
    intro phase here inside
    rw [here, inside] at elsewhere
    cases elsewhere
  have harming : ∀ {phase}, state.runtime.phase call = phase → harms worker phase = true → False := by
    intro phase here harm
    rw [here, harm] at harmless
    cases harmless
  have other : ∀ {phase} {other : Worker}, state.runtime.phase call = phase →
      harms worker phase = decide (other = worker) → worker ≠ other := by
    intro phase other here harm same
    exact harming here (harm.trans (decide_eq_true same.symm))
  cases action with
  | workerNew call handle => cases handle <;> exact ⟨rfl, rfl⟩
  | onWorkerEvents call worker =>
      simp only [Runtime.effect]
      split <;> exact ⟨rfl, rfl⟩
  | flag caller owner failed kinds =>
      cases turn
      cases kinds with
      | nil => exact ⟨rfl, rfl⟩
      | cons kind kinds => exact ⟨Function.update_of_ne (other ready rfl) .., rfl⟩
  | channel caller owner failed kind kinds =>
      cases turn
      exact ⟨Function.update_of_ne (other ready rfl) .., rfl⟩
  | endStream caller owner kinds remaining =>
      cases turn
      exact (harming ready rfl).elim
  | endFlag caller owner kind cause kinds remaining =>
      cases turn
      exact (harming ready rfl).elim
  | endChannel caller owner kind cause kinds remaining =>
      cases turn
      exact (harming ready rfl).elim
  | onPushed caller completion =>
      cases turn
      exact (there ready rfl).elim
  | onEvent caller completion =>
      cases turn
      exact (there ready rfl).elim
  | add caller owner kind task =>
      cases turn
      exact (there ready rfl).elim
  | offer caller owner kind =>
      cases turn
      exact (there ready rfl).elim
  | handleEnd caller owner kind cause =>
      cases turn
      exact (there ready rfl).elim
  | handleChannel caller owner kind cause =>
      cases turn
      exact (there ready rfl).elim
  | receive owner kind action => cases turn
  | _ => exact ⟨rfl, rfl⟩

end Frame

end Delivery

end KtBridge
