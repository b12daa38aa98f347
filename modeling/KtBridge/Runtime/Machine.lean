import KtBridge.Foundation.System
import KtBridge.TaskStream.Ending
import Mathlib.Data.Finset.Basic

/-! # A runtime and the streams of its workers

Any number of threads create workers, close them, close the runtime and deliver pushed completions,
while coroutines receive from the workers' streams. The monitor of the runtime makes the check of
its flag one step with what follows under it. A read of the handlers passes over what was removed
meanwhile, or not. -/

namespace KtBridge.Runtime

open Foundation Pump

/-- Which task stream a completion belongs to. -/
inductive KtTaskKind where
  | workflowActivation
  | activity
  | nexus
  deriving DecidableEq, Repr

namespace KtTaskKind

def code : KtTaskKind → UInt64
  | workflowActivation => 0
  | activity => 1
  | nexus => 2

def entries : List KtTaskKind := [workflowActivation, activity, nexus]

theorem mem_entries (kind : KtTaskKind) : kind ∈ entries := by
  cases kind <;> decide

def fromAux (aux1 : UInt64) : Option KtTaskKind := entries.find? fun kind => kind.code = aux1

/-- The stream that a kind of completion brings a task for. -/
def ofKind (kind : UInt32) : Option KtTaskKind :=
  if kind = KtKind.taskWorkflowActivation.discriminant then some workflowActivation
  else if kind = KtKind.taskActivity.discriminant then some activity
  else if kind = KtKind.taskNexus.discriminant then some nexus
  else none

end KtTaskKind

/-- A worker's handle. -/
abbrev Worker := UInt64

/-- How far a call has come: what it does next, unless it has ended. -/
inductive Phase where
  | idle
  /-- In `KtWorker.create`: `ensureOpen`. -/
  | creating
  /-- `KtBridge.workerNew`. -/
  | opening
  /-- The request that validates the worker. -/
  | validating (worker : Worker)
  /-- `onWorkerEvents`. -/
  | registering (worker : Worker)
  | created (worker : Worker)
  /-- In `KtWorker.close`, which a failed creation calls too: `removeWorkerEvents`. -/
  | removing (worker : Worker) (failed : Bool)
  /-- `KtBridge.workerFree`. -/
  | freeing (worker : Worker) (failed : Bool)
  /-- Close the next stream: set its flag. -/
  | closing (worker : Worker) (failed : Bool) (kinds : List KtTaskKind)
  /-- Close the channel of the stream. -/
  | closingChannel (worker : Worker) (failed : Bool) (kind : KtTaskKind) (kinds : List KtTaskKind)
  | closed (worker : Worker)
  /-- In `KtRuntime.close`: ask whether it is closed. -/
  | ending
  /-- Invoke the next handler. -/
  | sweeping (remaining : Finset Worker)
  /-- In a handler: find the failure of the next stream. -/
  | endingStream (worker : Worker) (kinds : List KtTaskKind) (remaining : Finset Worker)
  /-- In a handler: set the flag of the stream. -/
  | endingFlag (worker : Worker) (kind : KtTaskKind) (cause : Option Throwable)
      (kinds : List KtTaskKind) (remaining : Finset Worker)
  /-- In a handler: close the channel of the stream. -/
  | endingChannel (worker : Worker) (kind : KtTaskKind) (cause : Option Throwable)
      (kinds : List KtTaskKind) (remaining : Finset Worker)
  /-- Free the native runtime and close the pump. -/
  | stopping
  | clearing
  /-- `KtRuntime.close` returned, perhaps at once. -/
  | ended (skipped : Bool)
  /-- In `onPushed`: find the handler. -/
  | pushed (completion : Completion)
  /-- In `onEvent`. -/
  | handling (completion : Completion)
  /-- In `send`: add the task. -/
  | sending (worker : Worker) (kind : KtTaskKind) (task : ByteArray)
  /-- In `send`: offer a wakeup. -/
  | offering (worker : Worker) (kind : KtTaskKind)
  /-- Set the flag of the stream. -/
  | handlingEnd (worker : Worker) (kind : KtTaskKind) (cause : Option Throwable)
  /-- Close the channel of the stream. -/
  | handlingChannel (worker : Worker) (kind : KtTaskKind) (cause : Option Throwable)
  | returned
  | thrown
  deriving DecidableEq

/-- A runtime with its workers. `workers` are the handles given out. -/
structure State where
  closed : Bool
  workers : Finset Worker
  handlers : Finset Worker
  stream : Worker → KtTaskKind → TaskStream.State
  streamFailures : Worker → KtTaskKind → Option Throwable
  phase : Call → Phase

def start : State where
  closed := false
  workers := ∅
  handlers := ∅
  stream := fun _ _ => TaskStream.start
  streamFailures := fun _ _ => none
  phase := fun _ => .idle

namespace State

def setPhase (state : State) (call : Call) (phase : Phase) : State :=
  { state with phase := Function.update state.phase call phase }

def setStream (state : State) (worker : Worker) (kind : KtTaskKind) (stream : TaskStream.State) :
    State :=
  { state with
    stream := Function.update state.stream worker
      (Function.update (state.stream worker) kind stream) }

/-- Set the flag of a stream. -/
def flag (state : State) (worker : Worker) (kind : KtTaskKind) : State :=
  state.setStream worker kind { state.stream worker kind with closed := true }

/-- Close the channel of a stream. -/
def closeChannel (state : State) (worker : Worker) (kind : KtTaskKind) (cause : Option Throwable) :
    State :=
  state.setStream worker kind ((state.stream worker kind).closeChannel cause)

end State

/-- The failure that a `WORKER_FAILED` completion reports. -/
def workerFailure (decode : ByteArray → String) (completion : Completion) : Throwable :=
  .core ⟨"worker poll stream failed: " ++ decode completion.payload, completion.status⟩

/-- What `onEvent` does next. -/
def onEvent (decode : ByteArray → String) (state : State) (call : Call) (completion : Completion) :
    State :=
  match KtTaskKind.ofKind completion.kind with
  | some kind =>
      if (state.stream completion.aux0 kind).closed then state.setPhase call .returned
      else state.setPhase call (.sending completion.aux0 kind completion.payload)
  | none =>
      match KtTaskKind.fromAux completion.aux1 with
      | none => state.setPhase call .returned
      | some kind =>
          if completion.kind = KtKind.taskStreamEnd.discriminant then
            state.setPhase call (.handlingEnd completion.aux0 kind
              (state.streamFailures completion.aux0 kind))
          else if completion.kind = KtKind.workerFailed.discriminant then
            { state.setPhase call .returned with
              streamFailures := Function.update state.streamFailures completion.aux0
                (Function.update (state.streamFailures completion.aux0) kind
                  (some (workerFailure decode completion))) }
          else state.setPhase call .returned

/-- Whether `onPushed` only logs a completion. -/
def logs (completion : Completion) : Bool :=
  completion.kind = KtKind.serverLog.discriminant ∨ completion.kind = KtKind.log.discriminant

inductive Action where
  | create (call : Call)
  /-- `ensureOpen`, in `create`. -/
  | ensureOpen (call : Call)
  | workerNew (call : Call) (handle : Option Worker)
  | validate (call : Call) (worker : Worker) (accepted : Bool)
  | onWorkerEvents (call : Call) (worker : Worker)
  | close (call : Call) (worker : Worker)
  | remove (call : Call) (worker : Worker) (failed : Bool)
  | free (call : Call) (worker : Worker) (failed : Bool)
  | flag (call : Call) (worker : Worker) (failed : Bool) (kinds : List KtTaskKind)
  | channel (call : Call) (worker : Worker) (failed : Bool) (kind : KtTaskKind)
      (kinds : List KtTaskKind)
  | closeRuntime (call : Call)
  | skip (call : Call)
  | shut (call : Call)
  | visit (call : Call) (worker : Worker) (remaining : Finset Worker)
  | pass (call : Call) (worker : Worker) (remaining : Finset Worker)
  | endStream (call : Call) (worker : Worker) (kinds : List KtTaskKind)
      (remaining : Finset Worker)
  | endFlag (call : Call) (worker : Worker) (kind : KtTaskKind) (cause : Option Throwable)
      (kinds : List KtTaskKind) (remaining : Finset Worker)
  | endChannel (call : Call) (worker : Worker) (kind : KtTaskKind) (cause : Option Throwable)
      (kinds : List KtTaskKind) (remaining : Finset Worker)
  | stop (call : Call)
  /-- Joining the pump's thread may be interrupted. -/
  | runtimeFree (call : Call) (interrupted : Bool)
  | clear (call : Call)
  | push (call : Call) (completion : Completion)
  | onPushed (call : Call) (completion : Completion)
  | onEvent (call : Call) (completion : Completion)
  | add (call : Call) (worker : Worker) (kind : KtTaskKind) (task : ByteArray)
  | offer (call : Call) (worker : Worker) (kind : KtTaskKind)
  | handleEnd (call : Call) (worker : Worker) (kind : KtTaskKind) (cause : Option Throwable)
  | handleChannel (call : Call) (worker : Worker) (kind : KtTaskKind) (cause : Option Throwable)
  | receive (worker : Worker) (kind : KtTaskKind) (action : TaskStream.Action)

def guard (state : State) : Action → Prop
  | .create call => state.phase call = .idle
  | .ensureOpen call => state.phase call = .creating
  | .workerNew call handle => state.phase call = .opening ∧ ∀ worker ∈ handle,
      worker ∉ state.workers
  | .validate call worker _ => state.phase call = .validating worker
  | .onWorkerEvents call worker => state.phase call = .registering worker
  | .close call _ => state.phase call = .idle
  | .remove call worker failed => state.phase call = .removing worker failed
  | .free call worker failed => state.phase call = .freeing worker failed
  | .flag call worker failed kinds => state.phase call = .closing worker failed kinds
  | .channel call worker failed kind kinds =>
      state.phase call = .closingChannel worker failed kind kinds
  | .closeRuntime call => state.phase call = .idle
  | .skip call => state.phase call = .ending ∧ state.closed
  | .shut call => state.phase call = .ending ∧ state.closed = false
  | .visit call worker remaining => state.phase call = .sweeping remaining ∧ worker ∈ remaining
  | .pass call worker remaining => state.phase call = .sweeping remaining ∧ worker ∈ remaining ∧
      worker ∉ state.handlers
  | .endStream call worker kinds remaining =>
      state.phase call = .endingStream worker kinds remaining
  | .endFlag call worker kind cause kinds remaining =>
      state.phase call = .endingFlag worker kind cause kinds remaining
  | .endChannel call worker kind cause kinds remaining =>
      state.phase call = .endingChannel worker kind cause kinds remaining
  | .stop call => state.phase call = .sweeping ∅
  | .runtimeFree call _ => state.phase call = .stopping
  | .clear call => state.phase call = .clearing
  | .push call completion => state.phase call = .idle ∧ completion.reqId = 0
  | .onPushed call completion => state.phase call = .pushed completion
  | .onEvent call completion => state.phase call = .handling completion
  | .add call worker kind task => state.phase call = .sending worker kind task
  | .offer call worker kind => state.phase call = .offering worker kind
  | .handleEnd call worker kind cause => state.phase call = .handlingEnd worker kind cause
  | .handleChannel call worker kind cause => state.phase call = .handlingChannel worker kind cause
  | .receive worker kind action => action.receiving ∧
      TaskStream.guard (state.stream worker kind) action

/-- Whether a handle is new is decided by looking at it, not by going through all workers. -/
instance decidableFresh (handle : Option Worker) (workers : Finset Worker) :
    Decidable (∀ worker ∈ handle, worker ∉ workers) :=
  Option.decidableForallMem ..

instance decidableGuard (state : State) (action : Action) : Decidable (guard state action) := by
  cases action <;> unfold guard <;> infer_instance

def effect (decode : ByteArray → String) (state : State) : Action → State
  | .create call => state.setPhase call .creating
  | .ensureOpen call => state.setPhase call (if state.closed then .thrown else .opening)
  | .workerNew call none => state.setPhase call .thrown
  | .workerNew call (some worker) =>
      { state.setPhase call (.validating worker) with workers := insert worker state.workers }
  | .validate call worker accepted =>
      state.setPhase call (if accepted then .registering worker else .removing worker true)
  | .onWorkerEvents call worker =>
      if state.closed then state.setPhase call (.removing worker true)
      else
        { state.setPhase call (.created worker) with handlers := insert worker state.handlers }
  | .close call worker => state.setPhase call (.removing worker false)
  | .remove call worker failed =>
      { state.setPhase call (.freeing worker failed) with handlers := state.handlers.erase worker }
  | .free call worker failed => state.setPhase call (.closing worker failed KtTaskKind.entries)
  | .flag call worker failed [] =>
      state.setPhase call (if failed then .thrown else .closed worker)
  | .flag call worker failed (kind :: kinds) =>
      (state.flag worker kind).setPhase call (.closingChannel worker failed kind kinds)
  | .channel call worker failed kind kinds =>
      (state.closeChannel worker kind none).setPhase call (.closing worker failed kinds)
  | .closeRuntime call => state.setPhase call .ending
  | .skip call => state.setPhase call (.ended true)
  | .shut call => { state.setPhase call (.sweeping state.handlers) with closed := true }
  | .visit call worker remaining =>
      state.setPhase call (.endingStream worker KtTaskKind.entries (remaining.erase worker))
  | .pass call worker remaining => state.setPhase call (.sweeping (remaining.erase worker))
  | .endStream call _ [] remaining => state.setPhase call (.sweeping remaining)
  | .endStream call worker (kind :: kinds) remaining =>
      state.setPhase call
        (.endingFlag worker kind (state.streamFailures worker kind) kinds remaining)
  | .endFlag call worker kind cause kinds remaining =>
      (state.flag worker kind).setPhase call (.endingChannel worker kind cause kinds remaining)
  | .endChannel call worker kind cause kinds remaining =>
      (state.closeChannel worker kind cause).setPhase call (.endingStream worker kinds remaining)
  | .stop call => state.setPhase call .stopping
  | .runtimeFree call interrupted =>
      state.setPhase call (if interrupted then .thrown else .clearing)
  | .clear call => { state.setPhase call (.ended false) with handlers := ∅ }
  | .push call completion => state.setPhase call (.pushed completion)
  | .onPushed call completion =>
      if ¬logs completion ∧ completion.aux0 ∈ state.handlers then
        state.setPhase call (.handling completion)
      else state.setPhase call .returned
  | .onEvent call completion => onEvent decode state call completion
  | .add call worker kind task =>
      let stream := state.stream worker kind
      (state.setStream worker kind
        { stream with tasks := stream.tasks ++ [task], sent := stream.sent ++ [task] }).setPhase call
          (.offering worker kind)
  | .offer call worker kind =>
      (state.setStream worker kind (state.stream worker kind).trySend).setPhase call .returned
  | .handleEnd call worker kind cause =>
      (state.flag worker kind).setPhase call (.handlingChannel worker kind cause)
  | .handleChannel call worker kind cause =>
      (state.closeChannel worker kind cause).setPhase call .returned
  | .receive worker kind action =>
      state.setStream worker kind (TaskStream.effect (state.stream worker kind) action)

def system (decode : ByteArray → String) : GuardedSystem State Action where
  start := start
  guard := guard
  effect := effect decode

instance decidableStep (decode : ByteArray → String) (state : State) (action : Action) :
    Decidable ((system decode).guard state action) :=
  inferInstanceAs (Decidable (guard state action))

end KtBridge.Runtime
