import KtBridge.Abi
import KtBridge.Foundation.System
import Mathlib.Data.Finset.Basic
import Mathlib.Data.List.Basic

/-! # A worker's lifecycle as a guarded system

One `WorkerEntry` with any number of `start`, `shutdown` and `free` calls, the
background finalizers of timed-out shutdowns, the poll loops, and calls in flight that
hold a clone of the Core reference. A step is what one thread or task does between two
points where another can interfere. The state lock and the shutdown lock are kept
together with how far their holder has come; deadlines, and how a poll loop ends, are
part of the action.
-/

namespace KtBridge.Worker

open Foundation

/-- The three streams, in the order `start` spawns their loops. -/
inductive TaskKind where
  | workflowActivation
  | activity
  | nexus
  deriving DecidableEq

def taskKinds : List TaskKind := [.workflowActivation, .activity, .nexus]

/-- A worker's lifecycle; only a state before the last has a Core reference. -/
inductive WorkerState where
  | running (started : Bool)
  | draining
  | finalized
  deriving DecidableEq

/-- Whether a poll loop still runs: its Core reference drops before it leaves the
count of live pumps. -/
inductive PumpPhase where
  | polling
  | leaving
  | gone
  deriving DecidableEq

/-- A spawned poll loop, and whether its abort was asked for. -/
structure Pump where
  kind : TaskKind
  phase : PumpPhase
  aborted : Bool
  deriving DecidableEq

/-- How a poll loop ends. -/
inductive PumpExit where
  | shutDown
  | panic
  | abort
  deriving DecidableEq

/-- Everything that may run `finalize`: a shutdown call, or the task that a timed-out
one leaves behind. -/
inductive Job where
  | shutdown (call : Nat)
  | background (call : Nat)
  deriving DecidableEq

/-- Who has a clone of the Core reference. -/
inductive Holder where
  | state
  | start
  | free
  | job
  | pump (pump : Nat)
  | inFlight (call : Nat)
  deriving DecidableEq

/-- A critical section of the state lock that takes more than one step. -/
inductive Section where
  /-- `start` set `started`; the count is about to be stored. -/
  | starting (call : Nat)
  | spawning (call : Nat) (kinds : List TaskKind)
  /-- `free` replaced the state, and aborts the recorded pumps. -/
  | freeing
  deriving DecidableEq

/-- How far the holder of the shutdown lock has come. -/
inductive Step where
  | locked
  | initiating (started : Bool)
  /-- The worker never started; its state is about to be `Finalized`. -/
  | discarding
  | dropping
  | polling
  | pausing
  /-- The grace period is over. -/
  | expired
  | checking
  /-- At the first line of `finalize`. -/
  | closing
  | unwrapping
  /-- The reference is shared; the deadline is about to be looked at. -/
  | sharing
  | resting
  | restoring
  /-- Core is owned, in `finalize_shutdown`. -/
  | finishing
  | returning (result : Except String Unit)
  deriving DecidableEq

/-- The points where the holder of the shutdown lock waits, and may be cancelled. -/
def Step.awaits : Step → Bool
  | pausing => true
  | resting => true
  | finishing => true
  | _ => false

/-- Whether the step is inside `finalize`, past its first line. -/
def Step.finalizes : Step → Bool
  | unwrapping => true
  | sharing => true
  | resting => true
  | restoring => true
  | finishing => true
  | _ => false

inductive JobPhase where
  | idle
  /-- A background finalizer waiting for the pumps to end. -/
  | observing
  /-- Waiting for the shutdown lock. -/
  | waiting
  | inside
  | returned (result : Except String Unit)
  | cancelled
  deriving DecidableEq

/-- The worker entry with everything around it. `refs` are the clones of the Core
reference there are; the last five fields are history: whether the worker was ever
started and ever force-freed, how often `finalize_shutdown` was begun and completed, and
what the calls of `start` returned. -/
structure State where
  worker : WorkerState
  stateLock : Option Section
  shutdownLock : Option (Job × Step)
  jobs : Job → JobPhase
  livePumps : UInt64
  spawned : List Pump
  pumps : List Nat
  refs : Finset Holder
  started : Bool
  freed : Bool
  finalizeRuns : Nat
  finalizeDone : Nat
  starts : Nat → Option (Outcome Unit)

/-- A fresh worker entry. -/
def start : State where
  worker := .running false
  stateLock := none
  shutdownLock := none
  jobs := fun _ => .idle
  livePumps := 0
  spawned := []
  pumps := []
  refs := {.state}
  started := false
  freed := false
  finalizeRuns := 0
  finalizeDone := 0
  starts := fun _ => none

/-- The two errors a shutdown reports. -/
def notDrained : String := "shut down before every poll stream reported ShutDown"

def notFinalized : String := "worker still referenced elsewhere; not finalized"

namespace State

/-- `WorkerEntry::core`, without the clone it makes. -/
def core (state : State) : Outcome Unit :=
  match state.worker with
  | .running _ => .ok ()
  | .draining => .ok ()
  | .finalized => .error .workerShutDown

def setJob (state : State) (job : Job) (phase : JobPhase) : State :=
  { state with jobs := Function.update state.jobs job phase }

/-- The holder of the shutdown lock goes on to another step. -/
def goOn (state : State) (job : Job) (step : Step) : State :=
  { state with shutdownLock := some (job, step) }

/-- Replace what the state holds by `Finalized`, dropping its Core reference. -/
def finalize (state : State) : State :=
  { state with worker := .finalized, refs := state.refs.erase .state }

def setPump (state : State) (pump : Nat) (change : Pump → Pump) : State :=
  { state with spawned := state.spawned.modify pump change }

end State

def Pump.withPhase (phase : PumpPhase) (pump : Pump) : Pump := { pump with phase := phase }

def Pump.abort (pump : Pump) : Pump := { pump with aborted := true }

/-- The steps: of `start`, `free`, the poll loops, calls in flight, `shutdown`,
`finalize`, and the background finalizer. -/
inductive Action where
  | start (call : Nat)
  | storeLivePumps (call : Nat)
  | spawn (call : Nat) (kind : TaskKind) (kinds : List TaskKind)
  | startReturn (call : Nat)
  | free
  | abort (pump : Nat) (rest : List Nat)
  | freeReturn
  | exit (pump : Nat) (exit : PumpExit)
  | leave (pump : Nat)
  | borrow (call : Nat)
  | giveBack (call : Nat)
  | shutdown (call : Nat)
  | acquire (job : Job)
  | readState (call : Nat)
  | initiate (job : Job) (started : Bool)
  | discard (job : Job)
  | dropCore (job : Job)
  | loadLivePumps (job : Job) (expired : Bool)
  | wake (job : Job)
  | spawnBackground (call : Nat)
  | check (job : Job)
  | close (job : Job)
  | tryUnwrap (job : Job)
  | compareDeadline (job : Job) (expired : Bool)
  | retry (job : Job)
  | restore (job : Job)
  | finishFinalize (job : Job)
  | finish (job : Job) (result : Except String Unit)
  | observe (call : Nat)
  | takeCore (call : Nat)
  | cancel (call : Nat)
  deriving DecidableEq

/-- Whether a shutdown call may be cancelled: it waits for the lock, or holds it and
waits. -/
def State.atAwait (state : State) (call : Nat) : Bool :=
  state.jobs (.shutdown call) = .waiting ||
    state.shutdownLock.any fun held => held.1 = .shutdown call && held.2.awaits

def guard (state : State) : Action → Prop
  | .start call => state.stateLock = none ∧ state.starts call = none
  | .storeLivePumps call => state.stateLock = some (.starting call)
  | .spawn call kind kinds => state.stateLock = some (.spawning call (kind :: kinds))
  | .startReturn call => state.stateLock = some (.spawning call [])
  | .free => state.stateLock = none
  | .abort pump rest => state.stateLock = some .freeing ∧ state.pumps = pump :: rest
  | .freeReturn => state.stateLock = some .freeing ∧ state.pumps = []
  | .exit pump exit => ∃ loop ∈ state.spawned[pump]?,
      loop.phase = .polling ∧ (exit = .abort → loop.aborted)
  | .leave pump => ∃ loop ∈ state.spawned[pump]?, loop.phase = .leaving
  | .borrow call => state.stateLock = none ∧ state.core = .ok () ∧ .inFlight call ∉ state.refs
  | .giveBack call => .inFlight call ∈ state.refs
  | .shutdown call => state.jobs (.shutdown call) = .idle
  | .acquire job => state.jobs job = .waiting ∧ state.shutdownLock = none
  | .readState call =>
      state.shutdownLock = some (.shutdown call, .locked) ∧ state.stateLock = none
  | .initiate job started => state.shutdownLock = some (job, .initiating started)
  | .discard job => state.shutdownLock = some (job, .discarding) ∧ state.stateLock = none
  | .dropCore job => state.shutdownLock = some (job, .dropping)
  | .loadLivePumps job _ => state.shutdownLock = some (job, .polling)
  | .wake job => state.shutdownLock = some (job, .pausing)
  | .spawnBackground call => state.shutdownLock = some (.shutdown call, .expired)
  | .check job => state.shutdownLock = some (job, .checking) ∧ state.stateLock = none
  | .close job => state.shutdownLock = some (job, .closing) ∧ state.stateLock = none
  | .tryUnwrap job => state.shutdownLock = some (job, .unwrapping)
  | .compareDeadline job _ => state.shutdownLock = some (job, .sharing)
  | .retry job => state.shutdownLock = some (job, .resting)
  | .restore job => state.shutdownLock = some (job, .restoring) ∧ state.stateLock = none
  | .finishFinalize job => state.shutdownLock = some (job, .finishing)
  | .finish job result => state.shutdownLock = some (job, .returning result)
  | .observe call => state.jobs (.background call) = .observing
  | .takeCore call =>
      state.shutdownLock = some (.background call, .locked) ∧ state.stateLock = none
  | .cancel call => state.atAwait call

instance (state : State) (action : Action) : Decidable (guard state action) := by
  cases action <;> unfold guard <;> infer_instance

def effect (state : State) : Action → State
  | .start call =>
      match state.worker with
      | .running false =>
          { state with
            worker := .running true
            stateLock := some (.starting call)
            refs := insert .start state.refs
            started := true }
      | .running true =>
          { state with starts := Function.update state.starts call (some (.ok ())) }
      | _ =>
          { state with
            starts := Function.update state.starts call (some (.error .workerShutDown)) }
  | .storeLivePumps call =>
      { state with stateLock := some (.spawning call taskKinds), livePumps := 3 }
  | .spawn call kind kinds =>
      { state with
        stateLock := some (.spawning call kinds)
        spawned := state.spawned ++ [⟨kind, .polling, false⟩]
        pumps := state.pumps ++ [state.spawned.length]
        refs := insert (.pump state.spawned.length) state.refs }
  | .startReturn call =>
      { state with
        stateLock := none
        refs := state.refs.erase .start
        starts := Function.update state.starts call (some (.ok ())) }
  | .free =>
      { state with
        worker := .finalized
        stateLock := some .freeing
        refs := if state.worker = .finalized then state.refs
          else insert .free (state.refs.erase .state)
        freed := true }
  | .abort pump rest => { state.setPump pump Pump.abort with pumps := rest }
  | .freeReturn => { state with stateLock := none, refs := state.refs.erase .free }
  | .exit pump _ =>
      { state.setPump pump (Pump.withPhase .leaving) with refs := state.refs.erase (.pump pump) }
  | .leave pump =>
      { state.setPump pump (Pump.withPhase .gone) with livePumps := state.livePumps - 1 }
  | .borrow call => { state with refs := insert (.inFlight call) state.refs }
  | .giveBack call => { state with refs := state.refs.erase (.inFlight call) }
  | .shutdown call => state.setJob (.shutdown call) .waiting
  | .acquire job => { state.setJob job .inside with shutdownLock := some (job, .locked) }
  | .readState call =>
      match state.worker with
      | .running started =>
          { state.goOn (.shutdown call) (.initiating started) with
            worker := .draining
            refs := insert .job state.refs }
      | .draining =>
          { state.goOn (.shutdown call) (.initiating true) with refs := insert .job state.refs }
      | .finalized => state.goOn (.shutdown call) (.returning (.ok ()))
  | .initiate job started => state.goOn job (if started then .polling else .discarding)
  | .discard job => state.finalize.goOn job .dropping
  | .dropCore job =>
      { state.goOn job (.returning (.ok ())) with refs := state.refs.erase .job }
  | .loadLivePumps job expired =>
      state.goOn job
        (if state.livePumps = 0 then .checking else if expired then .expired else .pausing)
  | .wake job => state.goOn job .polling
  | .spawnBackground call =>
      (state.setJob (.background call) .observing).goOn (.shutdown call)
        (.returning (.error notDrained))
  | .check job =>
      state.goOn job (if state.worker = .finalized then .returning (.ok ()) else .closing)
  | .close job => state.finalize.goOn job .unwrapping
  | .tryUnwrap job =>
      if state.refs = {.job} then
        { state.goOn job .finishing with refs := ∅, finalizeRuns := state.finalizeRuns + 1 }
      else state.goOn job .sharing
  | .compareDeadline job expired => state.goOn job (if expired then .restoring else .resting)
  | .retry job => state.goOn job .unwrapping
  | .restore job =>
      { state.goOn job (.returning (.error notFinalized)) with
        worker := .draining
        refs := insert .state (state.refs.erase .job) }
  | .finishFinalize job =>
      { state.goOn job (.returning (.ok ())) with finalizeDone := state.finalizeDone + 1 }
  -- What the call still holds is dropped before the lock is.
  | .finish job result =>
      { state.setJob job (.returned result) with
        shutdownLock := none
        refs := state.refs.erase .job }
  | .observe call =>
      if state.livePumps = 0 then state.setJob (.background call) .waiting else state
  | .takeCore call =>
      if state.worker = .finalized then state.goOn (.background call) (.returning (.ok ()))
      else
        { state.goOn (.background call) .closing with refs := insert .job state.refs }
  | .cancel call =>
      if state.jobs (.shutdown call) = .waiting then state.setJob (.shutdown call) .cancelled
      else
        { state.setJob (.shutdown call) .cancelled with
          shutdownLock := none
          refs := state.refs.erase .job }

def machine : GuardedSystem State Action where
  start := start
  guard := guard
  effect := effect

instance (state : State) (action : Action) : Decidable (machine.guard state action) :=
  inferInstanceAs (Decidable (guard state action))

end KtBridge.Worker
