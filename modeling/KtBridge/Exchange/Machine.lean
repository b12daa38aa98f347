import KtBridge.Pump.Custody
import KtBridge.Request.Answers

/-! # The pump and the bridge together

A call of `Pump.request` runs an export on the caller's thread, and the export's
`spawn_request` registers the call under its id. The pump thread is the only poller of the
runtime's queue, and its polls hand the records on to `dispatch`. This machine runs the
pump's steps beside the runtime's: they meet where an export is called, where it returns or
reports its error, where a poll returns, and where a cancellation handler calls
`kt_cancel`.
-/

namespace KtBridge.Exchange

open Foundation
open Pump (Completion requestId batchSize)

/-- One call of `Pump.request`, and the call of `spawn_request` its export makes. -/
abbrev Call := Nat

/-- The handler that a call gives to `invokeOnCancellation`. -/
inductive Handler where
  | absent
  | registered
  /-- It runs, and is about to call `kt_cancel`. -/
  | invoked
  | done
  deriving DecidableEq

/-- Both sides, with what the polls handed to the pump thread, and the completions that
`releaseDiscarded` was called for. -/
structure State where
  pump : Pump.State
  native : Request.State
  handler : Call → Handler
  handed : List Completion
  discarded : List Completion

def start : State where
  pump := Pump.start
  native := Request.start
  handler := fun _ => .absent
  handed := []
  discarded := []

/-- The poller that the pump makes for itself. -/
def pumpPoller : Nat := 0

/-- The kinds that the bridge pushes on its own. -/
def pushable : KtKind → Bool
  | .taskWorkflowActivation => true
  | .taskActivity => true
  | .taskNexus => true
  | .taskStreamEnd => true
  | .workerFailed => true
  | _ => false

/-- The export reported an error: before it came to `spawn_request`, or as that rejected
the call. -/
def unissued : Request.Phase → Bool
  | .idle => true
  | .rejected _ => true
  | _ => false

/-- `spawn_request` returned `Ok`. -/
def spawned : Request.Phase → Bool
  | .running => true
  | .settled _ => true
  | .retired _ => true
  | .leaving => true
  | .finished => true
  | .abandoned => true
  | .lost => true
  | _ => false

/-- The cancellation took the continuation, before it was resumed or after. -/
def gone : Pump.Continuation → Bool
  | .cancelled => true
  | .revoked _ => true
  | _ => false

namespace State

/-- The records written for the pump's poller that no poll has returned with yet. -/
def unread (state : State) : List Completion :=
  (state.native.received pumpPoller).drop state.handed.length

/-- Registering a handler on a cancelled continuation runs it at once. -/
def onCancellation (state : State) (call : Call) : State :=
  { state with
    handler := Function.update state.handler call
      (if gone (state.pump.continuation call) then .invoked else .registered) }

/-- A cancellation runs the handler, where there is one. -/
def runRegistered (state : State) (call : Call) : State :=
  { state with
    handler := Function.update state.handler call
      (if state.handler call = .registered then .invoked else state.handler call) }

end State

/-- The steps of the pump and its callers, of the runtime, and of the handlers. -/
inductive Action where
  | pump (action : Pump.Action)
  | native (action : Request.Action)
  | runHandler (call : Call)

/-- The completions in the pump thread's hands, neither delivered nor discarded. -/
def hands : Pump.PumpPhase → List Completion
  | .polled batch => batch
  | .dispatching batch => batch
  | .taken _ completion rest => completion :: rest
  | _ => []

/-- When a step of the pump's side may happen beside the runtime's. No id is zero or drawn
twice, a poll returns what was written for it, a failing one nothing, and the pump thread
does not throw with completions in its hands. -/
def PumpAllows (state : State) : Pump.Action → Prop
  | .enter _ => state.pump.entered + 1 < 2 ^ 64
  | .startReturns call => spawned (state.native.phase call)
  | .startThrows call _ => unissued (state.native.phase call)
  | .poll _ rc batch =>
      state.native.poller pumpPoller = .idle ∧ batch = state.unread ∧ (rc ≠ ktOk → batch = [])
  | .throw => hands state.pump.pump = []
  | _ => True

/-- When a step of the runtime's side may happen beside the pump's. Exports are called by
`start`, the pump thread polls, and handlers cancel. -/
def NativeAllows (state : State) : Request.Action → Prop
  | .reserve call => state.pump.phase call = .starting
  | .cancel _ => False
  | .event pending => pushable pending.kind
  | .poll poller cap timeoutMillis =>
      poller = pumpPoller ∧ cap = batchSize ∧ state.pump.pump = .polling timeoutMillis ∧
        state.unread = []
  | _ => True

def guard (state : State) : Action → Prop
  | .pump action => Pump.guard state.pump action ∧ PumpAllows state action
  | .native action => Request.guard requestId state.native action ∧ NativeAllows state action
  | .runHandler call => state.handler call = .invoked ∧
      Request.guard requestId state.native (.cancel (requestId call))

/-- What a poll of the pump hands over. -/
def polled : Pump.Action → List Completion
  | .poll _ _ batch => batch
  | _ => []

/-- What a step of the pump calls `releaseDiscarded` for. -/
def discards (state : Pump.State) : Pump.Action → List Completion
  | .revoke _ completion => [completion]
  | .dispatch completion _ =>
      if completion.reqId ≠ 0 ∧ state.pending.lookup completion.reqId = none then [completion]
      else []
  | .resume call completion _ =>
      if state.continuation call = .cancelled then [completion] else []
  | _ => []

/-- The steps that make or run a handler. -/
def State.handle (state : State) : Pump.Action → State
  | .invokeOnCancellation call => state.onCancellation call
  | .cancel call => state.runRegistered call
  | .revoke call _ => state.runRegistered call
  | _ => state

def effect (state : State) : Action → State
  | .pump action =>
      { state.handle action with
        pump := Pump.effect state.pump action
        handed := state.handed ++ polled action
        discarded := state.discarded ++ discards state.pump action }
  | .native action => { state with native := Request.effect requestId state.native action }
  | .runHandler call =>
      { state with
        native := Request.effect requestId state.native (.cancel (requestId call))
        handler := Function.update state.handler call .done }

def machine : GuardedSystem State Action where
  start := start
  guard := guard
  effect := effect

instance decidablePumpAllows (state : State) (action : Pump.Action) :
    Decidable (PumpAllows state action) :=
  decidable_of_iff
    ((match action with
      | .enter _ => decide (state.pump.entered + 1 < 2 ^ 64)
      | .startReturns call => spawned (state.native.phase call)
      | .startThrows call _ => unissued (state.native.phase call)
      | .poll _ rc batch =>
          decide (state.native.poller pumpPoller = .idle ∧ batch = state.unread ∧
            (rc ≠ ktOk → batch = []))
      | .throw => decide (hands state.pump.pump = [])
      | _ => true) = true)
    (by
      unfold PumpAllows
      split <;> first | exact decide_eq_true_iff | simp)

instance decidableNativeAllows (state : State) (action : Request.Action) :
    Decidable (NativeAllows state action) :=
  decidable_of_iff
    ((match action with
      | .reserve call => decide (state.pump.phase call = .starting)
      | .cancel _ => false
      | .event pending => pushable pending.kind
      | .poll poller cap timeoutMillis =>
          decide (poller = pumpPoller ∧ cap = batchSize ∧
            state.pump.pump = .polling timeoutMillis ∧ state.unread = [])
      | _ => true) = true)
    (by
      unfold NativeAllows
      split <;> first | exact decide_eq_true_iff | simp)

instance decidableGuard (state : State) (action : Action) :
    Decidable (machine.guard state action) :=
  match action with
  | .pump action => inferInstanceAs (Decidable (Pump.guard state.pump action ∧ _))
  | .native action => inferInstanceAs (Decidable (Request.guard requestId state.native action ∧ _))
  | .runHandler call =>
      inferInstanceAs (Decidable (state.handler call = .invoked ∧
        Request.guard requestId state.native (.cancel (requestId call))))

/-- The runtime's side takes steps of the request machine only. -/
theorem native_projects : machine.Projects (Request.machine requestId) State.native where
  start := rfl
  step := by
    intro state action ready
    cases action with
    | pump action =>
        left
        cases action <;> rfl
    | native action => exact Or.inr ⟨action, ready.1, rfl⟩
    | runHandler call => exact Or.inr ⟨.cancel (requestId call), ready.2, rfl⟩

end KtBridge.Exchange
