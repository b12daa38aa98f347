import KtBridge.Foundation.Logging
import KtBridge.Foundation.Monitors
import KtBridge.Resource.Controller
import KtBridge.Slots.Supplier
import Mathlib.Data.Finset.Basic

/-! # The sampler of a runtime

A runtime samples the resources of its workers on one thread, tells the native gates what the
controllers decide, and calls what the application registered for the metrics. Any number of other
threads create and close workers and close the runtime meanwhile, and so may those callbacks.
Entering a monitor is one step with what comes first inside, and leaving it with what comes last;
only those monitors are steps of their own inside which native calls are made or others are
entered. -/

namespace KtBridge.Sampler

open Foundation Resource Slots

/-- A worker's handle. -/
abbrev Worker := UInt64

/-- A callback for the metrics of a worker. -/
abbrev Callback := Nat

/-- `sampleLock`, the monitor of a `TemporalWorker`, and that of the `TemporalRuntime`. -/
inductive Lock where
  | sample
  | worker (worker : Worker)
  | runtime
  deriving DecidableEq

inductive Thread where
  | sampler
  | caller (place : Nat)
  deriving DecidableEq

/-- Who calls the runtime and its workers: a thread of the application, or a callback. -/
inductive Party where
  | outside (place : Nat)
  | hook
  deriving DecidableEq

/-- Callbacks run on the sampler's thread. -/
def Party.thread : Party → Thread
  | outside place => .caller place
  | hook => .sampler

/-- The kinds, in the order of `controllers` and `names`. -/
def kinds : List SlotKind := [.workflow, .activity, .localActivity, .nexus]

def name : SlotKind → String
  | .workflow => "workflow"
  | .activity => "activity"
  | .localActivity => "local_activity"
  | .nexus => "nexus"

/-- The settings of the enabled kinds whose suppliers are `JvmResourceBased`. -/
abbrev Suppliers (K : Type) := SlotKind → Option (JvmResourceBased K)

/-- What the native side counts: reserved and pending, kind by kind. -/
abbrev Stats := Fin 8 → Int32

/-- What `updateResource` reads: the monitor's last sample, and the clock for each controller. -/
structure Reading (K : Type) where
  memoryUsage : K
  cpuLoad : K
  nowNanos : SlotKind → Int64

def Reading.sample {K : Type} (reading : Reading K) (kind : SlotKind) : Sample K where
  memoryUsage := reading.memoryUsage
  cpuLoad := reading.cpuLoad
  nowNanos := reading.nowNanos kind

structure SlotSupplierMetrics (K : Type) where
  slotType : String
  memoryUsage : K
  cpuLoad : K
  memoryPidOutput : K
  cpuPidOutput : K
  activeSlots : Int32
  pendingReserves : Int32

/-- A controller with its settings. -/
structure Controlled (K : Type) where
  options : JvmResourceBased K
  controller : JvmResourceController K

structure ResourceWorker (K : Type) where
  controllers : SlotKind → Option (Controlled K)
  callback : Option Callback

abbrev Delivery (K : Type) := Callback × SlotSupplierMetrics K

/-- One bit for each kind. -/
def bits (allowed : SlotKind → Bool) : UInt32 :=
  kinds.foldl
    (fun mask kind => if allowed kind then mask ||| (1 <<< UInt32.ofNat kind.index) else mask) 0

variable {K : Type}

namespace ResourceWorker

def new [Field K] (suppliers : Suppliers K) : ResourceWorker K where
  controllers := fun kind => (suppliers kind).map fun options => ⟨options, .new⟩
  callback := none

/-- Whether the controller of a kind allows more slots. -/
def allow (worker : ResourceWorker K) (kind : SlotKind) : Bool :=
  (worker.controllers kind).any fun controlled => controlled.controller.allow

def mask (worker : ResourceWorker K) : UInt32 := bits worker.allow

/-- Every controller sees the sample. -/
def update [Field K] [LinearOrder K] [IsStrictOrderedRing K] (worker : ResourceWorker K) (reading : Reading K) :
    ResourceWorker K :=
  { worker with
    controllers := fun kind => (worker.controllers kind).map fun controlled =>
      { controlled with
        controller := controlled.controller.update controlled.options (reading.sample kind) } }

/-- The record of one kind. -/
def metric (reading : Reading K) (stats : Stats) (kind : SlotKind) (controlled : Controlled K) :
    SlotSupplierMetrics K where
  slotType := name kind
  memoryUsage := reading.memoryUsage
  cpuLoad := reading.cpuLoad
  memoryPidOutput := controlled.controller.history.memoryOutput
  cpuPidOutput := controlled.controller.history.cpuOutput
  activeSlots := stats ⟨kind.index * 2, by cases kind <;> decide⟩
  pendingReserves := stats ⟨kind.index * 2 + 1, by cases kind <;> decide⟩

/-- What `updateResource` returns. -/
def metrics (worker : ResourceWorker K) (reading : Reading K) (stats : Stats) :
    List (SlotSupplierMetrics K) :=
  kinds.filterMap fun kind => (worker.controllers kind).map (metric reading stats kind)

/-- What a callback is to be called with. -/
def deliveries (worker : ResourceWorker K) (reading : Reading K) (stats : Stats) :
    List (Delivery K) :=
  match worker.callback with
  | none => []
  | some callback => (worker.metrics reading stats).map fun sample => (callback, sample)

end ResourceWorker

/-- How far a call has come: what it does next. -/
inductive Phase (K : Type) where
  | idle
  /-- In `TemporalWorker.create`: `ensureOpen`. -/
  | opening (suppliers : Suppliers K)
  /-- `KtWorker.create`. -/
  | creating (suppliers : Suppliers K)
  /-- In `registerResourceWorker`: enter the runtime's monitor, and `ensureOpen`. -/
  | registering (worker : Worker) (suppliers : Suppliers K)
  /-- Inside: `updateResource`. -/
  | updating (worker : Worker) (resource : ResourceWorker K)
  /-- `KtWorker.start`. -/
  | starting (worker : Worker)
  /-- `removeResourceWorker`, after a failed creation or in `TemporalWorker.close`. -/
  | removing (worker : Worker) (failed : Bool)
  /-- `KtWorker.close`. -/
  | freeing (worker : Worker) (failed : Bool)
  /-- In `onSlotSupplierMetrics`. -/
  | observing (worker : Worker) (callback : Option Callback)
  /-- In `TemporalWorker.close`: ask whether it is closed. -/
  | closing (worker : Worker)
  /-- Enter the worker's monitor, and ask again. -/
  | entering (worker : Worker)
  /-- In `TemporalRuntime.close`: ask whether it is closed. -/
  | ending
  /-- Enter `sampleLock`, and ask again. -/
  | halting
  /-- Enter the runtime's monitor, and shut everything there. -/
  | shutting
  /-- The last `drainTelemetry`. -/
  | draining
  /-- `KtRuntime.close`. -/
  | stopping
  /-- `EphemeralServers.unregisterClosed`. -/
  | unregistering

/-- How far the sampler has come. -/
inductive Sampling (K : Type) where
  | idle
  /-- Enter `sampleLock`, and ask whether the runtime is closed. -/
  | entering
  /-- Enter the runtime's monitor. -/
  | locking
  /-- Inside: `updateResource` for the workers left. -/
  | updating (left : List Worker) (deliveries : List (Delivery K))
  /-- Ask whether the runtime is closed, for the next callback or for the telemetry. -/
  | delivering (deliveries : List (Delivery K))
  /-- In a callback. -/
  | calling (delivery : Delivery K) (deliveries : List (Delivery K))
  /-- In `drainTelemetry`. -/
  | retrieving
  /-- An `Error` of a callback has ended the schedule. -/
  | stopped

/-- A runtime, what it samples, and what its native side was told. `workers` are the handles given
out, `wrapped` those whose `TemporalWorker` was returned. -/
structure State (K : Type) where
  closed : Bool
  /-- Whether the `JvmResourceMonitor` was created. -/
  monitor : Bool
  /-- The keys of `resourceWorkers`, in the order of their insertion. -/
  listed : List Worker
  resource : Worker → ResourceWorker K
  lock : Lock → Monitor Thread
  sampling : Sampling K
  phase : Party → Phase K
  workers : Finset Worker
  wrapped : Finset Worker
  workerClosed : Worker → Bool
  /-- What each gate was told last. -/
  gate : Worker → UInt32

def start : State K where
  closed := false
  monitor := false
  listed := []
  resource := fun _ => ⟨fun _ => none, none⟩
  lock := fun _ => .free
  sampling := .idle
  phase := fun _ => .idle
  workers := ∅
  wrapped := ∅
  workerClosed := fun _ => false
  gate := fun _ => 0

namespace State

def setPhase (state : State K) (party : Party) (phase : Phase K) : State K :=
  { state with phase := Function.update state.phase party phase }

@[simp] theorem setPhase_self (state : State K) (party : Party) (phase : Phase K) :
    (state.setPhase party phase).phase party = phase :=
  Function.update_self ..

@[simp] theorem setPhase_of_ne (state : State K) {party other : Party} (phase : Phase K)
    (different : other ≠ party) : (state.setPhase party phase).phase other = state.phase other :=
  Function.update_of_ne different ..

def setSampling (state : State K) (sampling : Sampling K) : State K :=
  { state with sampling := sampling }

def setResource (state : State K) (worker : Worker) (resource : ResourceWorker K) : State K :=
  { state with resource := Function.update state.resource worker resource }

def enter (state : State K) (lock : Lock) (thread : Thread) : State K :=
  { state with lock := Function.update state.lock lock ((state.lock lock).enter thread) }

def leave (state : State K) (lock : Lock) : State K :=
  { state with lock := Function.update state.lock lock (state.lock lock).leave }

/-- The native side accepted an admission mask. -/
def tell (state : State K) (worker : Worker) (mask : UInt32) : State K :=
  { state with gate := Function.update state.gate worker mask }

/-- `resourceWorkers[worker] = resource`. -/
def list (state : State K) (worker : Worker) (resource : ResourceWorker K) : State K :=
  { state.setResource worker resource with
    listed := if worker ∈ state.listed then state.listed else state.listed ++ [worker] }

end State

/-- What the surroundings answer to a step: the handle of a new worker, what is read, the counts of
an update that did not fail, whether a worker started, and whether a callback threw an `Error`. -/
structure Input (K : Type) where
  handle : Option Worker
  reading : Reading K
  stats : Option Stats
  started : Bool
  error : Bool

inductive Action (K : Type) where
  | create (party : Party) (suppliers : Suppliers K)
  | observe (party : Party) (worker : Worker) (callback : Option Callback)
  | close (party : Party) (worker : Worker)
  | closeRuntime (party : Party)
  /-- The next step of a call. -/
  | step (party : Party) (input : Input K)
  /-- `sample` is scheduled. -/
  | sample
  /-- The next step of the sampler. -/
  | advance (input : Input K)

/-- The monitor that a call enters next. -/
def Phase.wants : Phase K → Option Lock
  | registering .. | removing .. | observing .. | shutting => some .runtime
  | entering worker => some (.worker worker)
  | halting => some .sample
  | _ => none

/-- The monitor that the sampler enters next. -/
def Sampling.wants : Sampling K → Option Lock
  | entering => some .sample
  | locking => some .runtime
  | _ => none

def Phase.busy : Phase K → Bool
  | idle => false
  | _ => true

/-- Whether the sampler has something to do. -/
def Sampling.busy : Sampling K → Bool
  | idle | stopped => false
  | _ => true

/-- Whether the sampler waits for its schedule. -/
def Sampling.rests : Sampling K → Bool
  | idle => true
  | _ => false

def Sampling.inCallback : Sampling K → Bool
  | calling .. => true
  | _ => false

/-- Whether a party may begin a call. -/
def State.Begins (state : State K) (party : Party) : Prop :=
  (state.phase party).busy = false ∧ (party = .hook → state.sampling.inCallback)

/-- Whether the monitor that is to be entered, if any, is available. -/
def State.Passes (state : State K) (thread : Thread) (wants : Option Lock) : Prop :=
  ∀ lock ∈ wants, (state.lock lock).Available thread

instance decidablePasses (state : State K) (thread : Thread) (wants : Option Lock) :
    Decidable (state.Passes thread wants) :=
  Option.decidableForallMem ..

instance decidableBegins (state : State K) (party : Party) : Decidable (state.Begins party) :=
  inferInstanceAs (Decidable (_ ∧ _))

def guard (state : State K) : Action K → Prop
  | .create party _ => state.Begins party
  | .observe party worker _ => state.Begins party ∧ worker ∈ state.wrapped
  | .close party worker => state.Begins party ∧ worker ∈ state.wrapped
  | .closeRuntime party => state.Begins party
  | .step party input => (state.phase party).busy ∧
      state.Passes party.thread (state.phase party).wants ∧
      ∀ worker ∈ input.handle, worker ∉ state.workers
  | .sample => state.sampling.rests
  | .advance _ => state.sampling.busy ∧ (state.phase .hook).busy = false ∧
      state.Passes .sampler state.sampling.wants

/-- Whether a handle is new is decided by looking at it. -/
instance decidableFresh (handle : Option Worker) (workers : Finset Worker) :
    Decidable (∀ worker ∈ handle, worker ∉ workers) :=
  Option.decidableForallMem ..

instance decidableGuard (state : State K) (action : Action K) : Decidable (guard state action) := by
  cases action <;> unfold guard <;> infer_instance

variable [Field K]

/-- The next step of a call. -/
def step [LinearOrder K] [IsStrictOrderedRing K] (state : State K) (party : Party)
    (input : Input K) : State K :=
  match state.phase party with
  | .idle => state
  | .opening suppliers =>
      state.setPhase party (if state.closed then .idle else .creating suppliers)
  | .creating suppliers =>
      match input.handle with
      | none => state.setPhase party .idle
      | some worker =>
          { state.setPhase party (.registering worker suppliers) with
            workers := insert worker state.workers }
  | .registering worker suppliers =>
      if state.closed then state.setPhase party (.removing worker true)
      else if kinds.any fun kind => (suppliers kind).isSome then
        { (state.enter .runtime party.thread).setPhase party (.updating worker (.new suppliers)) with
          monitor := true }
      else state.setPhase party (.starting worker)
  | .updating worker resource =>
      let resource := resource.update input.reading
      let state := state.leave .runtime
      if input.stats.isSome then
        ((state.tell worker resource.mask).list worker resource).setPhase party (.starting worker)
      else state.setPhase party (.removing worker true)
  | .starting worker =>
      if input.started then
        { state.setPhase party .idle with wrapped := insert worker state.wrapped }
      else state.setPhase party (.removing worker true)
  | .removing worker failed =>
      { state.setPhase party (.freeing worker failed) with listed := state.listed.erase worker }
  | .freeing worker failed =>
      (if failed then state else state.leave (.worker worker)).setPhase party .idle
  | .observing worker callback =>
      (if worker ∈ state.listed then
        state.setResource worker { state.resource worker with callback := callback }
      else state).setPhase party .idle
  | .closing worker =>
      state.setPhase party (if state.workerClosed worker then .idle else .entering worker)
  | .entering worker =>
      if state.workerClosed worker then state.setPhase party .idle
      else
        { (state.enter (.worker worker) party.thread).setPhase party (.removing worker false) with
          workerClosed := Function.update state.workerClosed worker true }
  | .ending => state.setPhase party (if state.closed then .idle else .halting)
  | .halting =>
      if state.closed then state.setPhase party .idle
      else (state.enter .sample party.thread).setPhase party .shutting
  | .shutting => { state.setPhase party .draining with closed := true, listed := [] }
  | .draining => state.setPhase party .stopping
  | .stopping => state.setPhase party .unregistering
  | .unregistering => (state.leave .sample).setPhase party .idle

/-- The next step of the sampler. -/
def advance [LinearOrder K] [IsStrictOrderedRing K] (state : State K) (input : Input K) : State K :=
  match state.sampling with
  | .idle | .stopped => state
  | .entering =>
      if state.closed then state.setSampling .idle
      else (state.enter .sample .sampler).setSampling .locking
  | .locking => (state.enter .runtime .sampler).setSampling (.updating state.listed [])
  | .updating [] deliveries => (state.leave .runtime).setSampling (.delivering deliveries)
  | .updating (worker :: left) deliveries =>
      let resource := (state.resource worker).update input.reading
      let state := state.setResource worker resource
      match input.stats with
      | none => state.setSampling (.updating left deliveries)
      | some stats =>
          (state.tell worker resource.mask).setSampling
            (.updating left (deliveries ++ resource.deliveries input.reading stats))
  | .delivering [] =>
      if state.closed then (state.leave .sample).setSampling .idle
      else state.setSampling .retrieving
  | .delivering (delivery :: deliveries) =>
      if state.closed then (state.leave .sample).setSampling .idle
      else state.setSampling (.calling delivery deliveries)
  | .calling _ deliveries =>
      if input.error then (state.leave .sample).setSampling .stopped
      else state.setSampling (.delivering deliveries)
  | .retrieving => (state.leave .sample).setSampling .idle

variable [LinearOrder K] [IsStrictOrderedRing K]

def effect (state : State K) : Action K → State K
  | .create party suppliers => state.setPhase party (.opening suppliers)
  | .observe party worker callback => state.setPhase party (.observing worker callback)
  | .close party worker => state.setPhase party (.closing worker)
  | .closeRuntime party => state.setPhase party .ending
  | .step party input => step state party input
  | .sample => state.setSampling .entering
  | .advance input => advance state input

/-- What is reported of a run: that a worker has controllers, the native calls, the callbacks, and
that the runtime was closed. -/
inductive Event (K : Type) where
  | register (worker : Worker) (suppliers : Suppliers K)
  | updateResource (worker : Worker) (reading : Reading K) (accepted : Bool)
  | callback (delivery : Delivery K)
  | retrieveMetrics
  | workerFree (worker : Worker)
  | close
  | runtimeFree

omit [Field K] [LinearOrder K] [IsStrictOrderedRing K] in
/-- What the next step of a call reports. -/
def Phase.reports (phase : Phase K) (closed : Bool) (input : Input K) : List (Event K) :=
  match phase with
  | registering worker suppliers =>
      if !closed && kinds.any fun kind => (suppliers kind).isSome then
        [.register worker suppliers]
      else []
  | updating worker _ => [.updateResource worker input.reading input.stats.isSome]
  | freeing worker _ => [.workerFree worker]
  | shutting => [.close]
  | draining => [.retrieveMetrics]
  | stopping => [.runtimeFree]
  | _ => []

omit [Field K] [LinearOrder K] [IsStrictOrderedRing K] in
/-- What the next step of the sampler reports. -/
def Sampling.reports (sampling : Sampling K) (closed : Bool) (input : Input K) : List (Event K) :=
  match sampling with
  | updating (worker :: _) _ => [.updateResource worker input.reading input.stats.isSome]
  | delivering (delivery :: _) => if closed then [] else [.callback delivery]
  | retrieving => [.retrieveMetrics]
  | _ => []

omit [Field K] [LinearOrder K] [IsStrictOrderedRing K] in
def events (state : State K) : Action K → List (Event K)
  | .step party input => (state.phase party).reports state.closed input
  | .advance input => state.sampling.reports state.closed input
  | _ => []

/-- A runtime with its sampler. -/
def system (K : Type) [Field K] [LinearOrder K] [IsStrictOrderedRing K] :
    GuardedSystem (State K) (Action K) where
  start := start
  guard := guard
  effect := effect

instance decidableStep (state : State K) (action : Action K) :
    Decidable ((system K).guard state action) :=
  inferInstanceAs (Decidable (guard state action))

end KtBridge.Sampler
