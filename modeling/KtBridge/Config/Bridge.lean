import KtBridge.Abi
import KtBridge.Config.Proto
import KtBridge.Foundation.Checks
import KtBridge.Foundation.Floats
import KtBridge.Slots.Supplier
import Mathlib.Data.List.DropRight

/-! # The bridge's reading of the options

What the bridge checks in a message, and the values it hands to Core. Core's builders
are not part of the repository: they are the parameter `Core`, which may refuse
whatever it is given.
-/

namespace KtBridge.Config

open Foundation Slots

/-- The characters with the property White_Space, which `str::trim` removes. -/
def isWhitespace (char : Char) : Bool :=
  let point := char.toNat
  (0x09 ≤ point && point ≤ 0x0D) || point = 0x20 || point = 0x85 || point = 0xA0 ||
    point = 0x1680 || (0x2000 ≤ point && point ≤ 0x200A) || point = 0x2028 || point = 0x2029 ||
    point = 0x202F || point = 0x205F || point = 0x3000

/-- `str::trim`. -/
def trim (text : String) : List Char :=
  (text.toList.dropWhile isWhitespace).rdropWhile isWhitespace

/-- A text is trimmed to nothing when it is all white space. -/
theorem trim_isEmpty (text : String) : (trim text).isEmpty = text.toList.all isWhitespace := by
  rw [Bool.eq_iff_iff, List.isEmpty_iff, trim, List.rdropWhile_eq_nil_iff, List.all_eq_true]
  constructor
  · intro blank char member
    rw [← List.takeWhile_append_dropWhile (p := isWhitespace) (l := text.toList)] at member
    rcases List.mem_append.mp member with leading | rest
    · exact List.mem_takeWhile_imp leading
    · exact blank char rest
  · intro blank char member
    exact blank char ((List.dropWhile_suffix isWhitespace).subset member)

/-! ## What Core is given -/

/-- Core's strategies for polling. -/
inductive CorePoller where
  | simpleMaximum (maximum : Nat)
  | autoscaling (minimum maximum initial : Nat)
  deriving DecidableEq

inductive CoreVersioningBehavior where
  | pinned
  | autoUpgrade
  deriving DecidableEq

inductive WorkerVersioningStrategy where
  | none (buildId : String)
  | workerDeploymentBased (deploymentName buildId : String) (useWorkerVersioning : Bool)
      (defaultVersioningBehavior : Option CoreVersioningBehavior)
  deriving DecidableEq

structure WorkerTaskTypes where
  enableWorkflows : Bool
  enableLocalActivities : Bool
  enableRemoteActivities : Bool
  enableNexus : Bool
  deriving DecidableEq

inductive WorkflowErrorType where
  | nondeterminism
  deriving DecidableEq

/-- The options of Core's own resource tuner. -/
structure ResourceBasedSlotsOptions where
  targetMemUsage : Float
  targetCpuUsage : Float
  memPGain : Float
  memIGain : Float
  memDGain : Float
  memOutputThreshold : Float
  cpuPGain : Float
  cpuIGain : Float
  cpuDGain : Float
  cpuOutputThreshold : Float
  deriving DecidableEq

/-- The supplier of one kind of slots. A custom one belongs to the bridge, and shares the
gate. -/
inductive SlotSupplierOptions (Gate : Type) where
  | fixedSize (slots : Nat)
  | resourceBased (minimum maximum ramp : Nat)
  | custom (gate : Gate) (kind : SlotKind) (slots : JvmSlots)

structure TunerHolderOptions (Gate : Type) where
  resourceBasedConfig : Option ResourceBasedSlotsOptions
  workflowSlotOptions : SlotSupplierOptions Gate
  activitySlotOptions : SlotSupplierOptions Gate
  localActivitySlotOptions : SlotSupplierOptions Gate
  nexusSlotOptions : SlotSupplierOptions Gate

/-- The supplier options of a kind. -/
def TunerHolderOptions.supplier {Gate : Type} (holder : TunerHolderOptions Gate) :
    SlotKind → SlotSupplierOptions Gate
  | .workflow => holder.workflowSlotOptions
  | .activity => holder.activitySlotOptions
  | .localActivity => holder.localActivitySlotOptions
  | .nexus => holder.nexusSlotOptions

/-- What the builder of a worker's configuration is given besides its tuner. Durations are
in nanoseconds. -/
structure WorkerConfigValues where
  nameSpace : String
  taskQueue : String
  maxCachedWorkflows : Nat
  taskTypes : WorkerTaskTypes
  versioningStrategy : WorkerVersioningStrategy
  clientIdentityOverride : Option String
  workflowTaskPollerBehavior : Option CorePoller
  activityTaskPollerBehavior : Option CorePoller
  nexusTaskPollerBehavior : Option CorePoller
  maxHeartbeatThrottleInterval : Nat
  defaultHeartbeatThrottleInterval : Nat
  maxWorkerActivitiesPerSecond : Option Float
  maxTaskQueueActivitiesPerSecond : Option Float
  nonstickyToStickyPollRatio : Float32
  stickyQueueScheduleToStartTimeout : Nat
  gracefulShutdownPeriod : Option Nat
  workflowFailureErrors : Finset WorkflowErrorType
  workflowTypesToFailureErrors : String → Option (Finset WorkflowErrorType)
  maxEagerActivityReservationsPerWorkflowTask : Nat
  disablePayloadErrorLimit : Bool

/-- Core's builders. A failing one gives a text. -/
structure Core (Gate : Type) where
  Holder : Type
  Tuner : Type
  WorkerConfig : Type
  build : TunerHolderOptions Gate → Except String Holder
  buildTunerHolder : Holder → Except String Tuner
  buildConfig : Tuner → WorkerConfigValues → Except String WorkerConfig

/-- Builders that accept everything. -/
def Core.lenient : Core Unit where
  Holder := Unit
  Tuner := Unit
  WorkerConfig := Unit
  build := fun _ => .ok ()
  buildTunerHolder := fun _ => .ok ()
  buildConfig := fun _ _ => .ok ()

abbrev KtResult := Except KtError

namespace Core

variable {Gate : Type} (core : Core Gate)

/-- The end of `tuner`. -/
def buildTuner (options : TunerHolderOptions Gate) : KtResult core.Tuner := do
  let holder ← (core.build options).mapError fun e =>
    .invalidArgument ("invalid slot options: " ++ e)
  (core.buildTunerHolder holder).mapError .failed

/-- The end of `worker_config_with_resource_gate`. -/
def buildWorker (tuner : core.Tuner) (values : WorkerConfigValues) : KtResult core.WorkerConfig :=
  (core.buildConfig tuner values).mapError fun e => .invalidArgument ("invalid worker config: " ++ e)

end Core

/-! ## The bridge's checks -/

/-- `Duration::from_millis`. -/
def fromMillis (millis : Nat) : Nat := millis * 1000000

/-- The JVM API uses signed milliseconds; values that could not originate there are
rejected. -/
def durationMillis (value : UInt64) : KtResult Nat := do
  reject (Int64.maxValue.toInt < value.toNat)
    (.invalidArgument "duration exceeds signed 64-bit milliseconds")
  pure (fromMillis value.toNat)

def rate (value : Option Float) : KtResult (Option Float) := do
  reject (value.any fun v => !v.isFinite || v < 0.0)
    (.invalidArgument "activity rate limits must be finite and nonnegative")
  pure (value.filter fun v => 0.0 < v)

def Strategy.behavior : Strategy → CorePoller
  | .simpleMaximum maximum => .simpleMaximum maximum.toNat
  | .autoscaling a => .autoscaling a.minimum.toNat a.maximum.toNat a.initial.toNat

def poller : Option PollerBehavior → KtResult (Option CorePoller)
  | none => pure none
  | some options =>
      match options.strategy with
      | some strategy => pure (some strategy.behavior)
      | none => throw (.invalidArgument "poller behavior must select a strategy")

def versioning (options : WorkerOptions) : KtResult WorkerVersioningStrategy :=
  match options.deploymentOptions with
  | none => pure (.none options.buildId)
  | some deployment => do
      reject ((trim deployment.deploymentName).isEmpty || (trim deployment.buildId).isEmpty)
        (.invalidArgument "deployment name and build ID must not be blank")
      let behavior ←
        match deployment.defaultVersioningBehavior.toNat with
        | 0 => pure none
        | 1 => pure (some .pinned)
        | 2 => pure (some .autoUpgrade)
        | _ => throw (.invalidArgument "unknown default versioning behavior")
      pure (.workerDeploymentBased deployment.deploymentName deployment.buildId
        deployment.useWorkerVersioning behavior)

/-- `jvm_slots::supplier`. -/
def jvmSupplier (limits : ResourceSlotLimits) (sticky : Bool) : JvmSlots where
  minimum := limits.minimumSlots.toNat
  maximum := limits.maximumSlots.toNat
  ramp := fromMillis limits.rampThrottleMillis.toNat
  sticky := sticky

variable {Gate : Type}

def slot (fixedSlots : Option UInt32) (limits : Option ResourceSlotLimits)
    (resourceGate : Option Gate) (kind : SlotKind) (sticky : Bool) :
    KtResult (SlotSupplierOptions Gate) :=
  match fixedSlots, limits with
  | some _, some _ =>
      throw (.invalidArgument "a slot supplier cannot be both fixed and resource-based")
  | none, some l => do
      reject (l.maximumSlots = 0 || l.maximumSlots < l.minimumSlots)
        (.invalidArgument "resource slots require minimum <= maximum and maximum > 0")
      match resourceGate with
      | some gate =>
          let _ ← durationMillis l.rampThrottleMillis
          pure (.custom gate kind (jvmSupplier l sticky))
      | none =>
          let ramp ← durationMillis l.rampThrottleMillis
          pure (.resourceBased l.minimumSlots.toNat l.maximumSlots.toNat ramp)
  | some slots, none => do
      reject (slots = 0) (.invalidArgument "fixed slot counts must be positive")
      pure (.fixedSize slots.toNat)
  | none, none => pure (.fixedSize 100)

namespace WorkerOptions

variable (options : WorkerOptions)

/-- `!options.no_workflows && options.max_cached_workflows > 0`. -/
def cachesWorkflows : Bool := !options.noWorkflows && 0 < options.maxCachedWorkflows

/-- The resource suppliers are the bridge's own. -/
def jvmResourceBased : Bool := options.resourceTuner.any (·.jvmResourceBased)

def workflowLimit : UInt32 :=
  ((options.workflowResourceLimits.map (·.maximumSlots)).or
    options.maxConcurrentWorkflowTasks).getD 100

end WorkerOptions

def ResourceBasedTuner.gains (rb : ResourceBasedTuner) : List Float :=
  [rb.memoryPGain, rb.memoryIGain, rb.memoryDGain, rb.memoryOutputThreshold, rb.cpuPGain,
    rb.cpuIGain, rb.cpuDGain, rb.cpuOutputThreshold]

def ResourceBasedTuner.config (rb : ResourceBasedTuner) : ResourceBasedSlotsOptions where
  targetMemUsage := rb.targetMemoryUsage
  targetCpuUsage := rb.targetCpuUsage
  memPGain := rb.memoryPGain
  memIGain := rb.memoryIGain
  memDGain := rb.memoryDGain
  memOutputThreshold := rb.memoryOutputThreshold
  cpuPGain := rb.cpuPGain
  cpuIGain := rb.cpuIGain
  cpuDGain := rb.cpuDGain
  cpuOutputThreshold := rb.cpuOutputThreshold

/-- The check of a resource tuner in `tuner`. -/
def resourceBasedConfig (rb : ResourceBasedTuner) : KtResult ResourceBasedSlotsOptions := do
  reject (!rb.targetMemoryUsage.isFinite || !inUnit rb.targetMemoryUsage ||
      !rb.targetCpuUsage.isFinite || !inUnit rb.targetCpuUsage)
    (.invalidArgument "resource targets must be between 0 and 1")
  reject (rb.gains.any fun v => !v.isFinite)
    (.invalidArgument "resource PID gains and thresholds must be finite")
  pure rb.config

/-- The gate of the bridge's own suppliers. `fresh` is made when none is given. -/
def WorkerOptions.gate (options : WorkerOptions) (resourceGate : Option Gate) (fresh : Gate) :
    Option Gate :=
  if options.jvmResourceBased then some (resourceGate.getD fresh) else none

/-- `tuner` up to Core's builders. -/
def tunerHolderOptions (options : WorkerOptions) (resourceGate : Option Gate) (fresh : Gate) :
    KtResult (TunerHolderOptions Gate) := do
  reject (options.cachesWorkflows && options.workflowLimit < 2)
    (.invalidArgument "cached workflows require at least 2 workflow slots")
  let resourceGate := options.gate resourceGate fresh
  let resourceBasedConfig ← options.resourceTuner.mapM resourceBasedConfig
  let workflow ← slot options.maxConcurrentWorkflowTasks options.workflowResourceLimits
    resourceGate .workflow options.cachesWorkflows
  let activity ← slot options.maxConcurrentActivities options.activityResourceLimits
    resourceGate .activity false
  let localActivity ← slot options.maxConcurrentLocalActivities options.localActivityResourceLimits
    resourceGate .localActivity false
  let nexus ← slot options.maxConcurrentNexusTasks options.nexusResourceLimits
    resourceGate .nexus false
  pure
    { resourceBasedConfig := resourceBasedConfig.filter fun _ => !options.jvmResourceBased
      workflowSlotOptions := workflow
      activitySlotOptions := activity
      localActivitySlotOptions := localActivity
      nexusSlotOptions := nexus }

def tuner (core : Core Gate) (options : WorkerOptions) (resourceGate : Option Gate)
    (fresh : Gate) : KtResult core.Tuner := do
  core.buildTuner (← tunerHolderOptions options resourceGate fresh)

/-! ## The bridge's own suppliers -/

/-- The bounds of a kind, if its supplier is resource-based. -/
def WorkerOptions.resourceLimits (options : WorkerOptions) : SlotKind → Option ResourceSlotLimits
  | .workflow => options.workflowResourceLimits
  | .activity => options.activityResourceLimits
  | .localActivity => options.localActivityResourceLimits
  | .nexus => options.nexusResourceLimits

/-- The kind whose supplier tells two queues apart. -/
def WorkerOptions.sticky (options : WorkerOptions) : SlotKind → Bool
  | .workflow => options.cachesWorkflows
  | _ => false

/-- With a gate, a resource-based kind gets the bridge's own supplier. -/
theorem slot_of_limits {fixedSlots : Option UInt32} {limits : ResourceSlotLimits} {gate : Gate}
    {kind : SlotKind} {sticky : Bool} {supplier : SlotSupplierOptions Gate}
    (accepted : slot fixedSlots (some limits) (some gate) kind sticky = .ok supplier) :
    supplier = .custom gate kind (jvmSupplier limits sticky) ∧
      limits.minimumSlots ≤ limits.maximumSlots := by
  cases fixedSlots with
  | some slots => cases accepted
  | none =>
      obtain ⟨bounds, accepted⟩ := (Checks.reject_bind_eq_ok ..).mp accepted
      obtain ⟨ramp, -, accepted⟩ := (Checks.bind_eq_ok ..).mp accepted
      rw [Bool.or_eq_false_iff, decide_eq_false_iff_not, decide_eq_false_iff_not] at bounds
      exact ⟨(Except.ok.inj accepted).symm, UInt32.not_lt.mp bounds.2⟩

/-- What `tuner` has checked of a kind that gets the bridge's own supplier. -/
theorem supplier_of_limits {options : WorkerOptions} {resourceGate : Option Gate} {fresh : Gate}
    {holder : TunerHolderOptions Gate} (jvm : options.jvmResourceBased)
    (accepted : tunerHolderOptions options resourceGate fresh = .ok holder) {kind : SlotKind}
    {limits : ResourceSlotLimits} (limited : options.resourceLimits kind = some limits) :
    holder.supplier kind = .custom (resourceGate.getD fresh) kind
        (jvmSupplier limits (options.sticky kind)) ∧
      limits.minimumSlots ≤ limits.maximumSlots ∧
      (options.sticky kind → 2 ≤ limits.maximumSlots) := by
  obtain ⟨both, accepted⟩ := (Checks.reject_bind_eq_ok ..).mp accepted
  rw [WorkerOptions.gate, if_pos jvm] at accepted
  obtain ⟨config, -, accepted⟩ := (Checks.bind_eq_ok ..).mp accepted
  obtain ⟨workflow, workflowSlot, accepted⟩ := (Checks.bind_eq_ok ..).mp accepted
  obtain ⟨activity, activitySlot, accepted⟩ := (Checks.bind_eq_ok ..).mp accepted
  obtain ⟨localActivity, localActivitySlot, accepted⟩ := (Checks.bind_eq_ok ..).mp accepted
  obtain ⟨nexus, nexusSlot, accepted⟩ := (Checks.bind_eq_ok ..).mp accepted
  obtain rfl := Except.ok.inj accepted
  cases kind with
  | workflow =>
      rw [show options.workflowResourceLimits = some limits from limited] at workflowSlot
      obtain ⟨supplier, bounds⟩ := slot_of_limits workflowSlot
      refine ⟨supplier, bounds, ?_⟩
      -- The limit that was checked is the maximum of this supplier.
      intro sticky
      have limit : options.workflowLimit = limits.maximumSlots := by
        rw [WorkerOptions.workflowLimit, show options.workflowResourceLimits = some limits from limited]
        rfl
      rw [show options.cachesWorkflows = true from sticky, limit] at both
      exact UInt32.not_lt.mp (of_decide_eq_false both)
  | activity =>
      rw [show options.activityResourceLimits = some limits from limited] at activitySlot
      obtain ⟨supplier, bounds⟩ := slot_of_limits activitySlot
      exact ⟨supplier, bounds, fun impossible => by cases impossible⟩
  | localActivity =>
      rw [show options.localActivityResourceLimits = some limits from limited] at localActivitySlot
      obtain ⟨supplier, bounds⟩ := slot_of_limits localActivitySlot
      exact ⟨supplier, bounds, fun impossible => by cases impossible⟩
  | nexus =>
      rw [show options.nexusResourceLimits = some limits from limited] at nexusSlot
      obtain ⟨supplier, bounds⟩ := slot_of_limits nexusSlot
      exact ⟨supplier, bounds, fun impossible => by cases impossible⟩

/-! ## The worker's configuration -/

/-- The failure errors of each named workflow type. -/
def perType (types : List String) : String → Option (Finset WorkflowErrorType) :=
  types.foldl (fun map name => Function.update map name (some {.nondeterminism})) fun _ => none

def workerConfigWithResourceGate (core : Core Gate) (options : WorkerOptions)
    (resourceGate : Option Gate) (fresh : Gate) : KtResult core.WorkerConfig := do
  reject ((trim options.nameSpace).isEmpty || (trim options.taskQueue).isEmpty)
    (.invalidArgument "namespace and task_queue must not be blank")
  let ratio := options.nonstickyToStickyPollRatio.getD 0.2
  reject (!ratio.isFinite || !inUnit32 ratio)
    (.invalidArgument "nonsticky_to_sticky_poll_ratio must be between 0 and 1")
  reject (options.nondeterminismAsWorkflowFailForTypes.any fun s => (trim s).isEmpty)
    (.invalidArgument "nondeterminism workflow type names must not be blank")
  let tuner ← tuner core options resourceGate fresh
  let versioningStrategy ← versioning options
  let workflowPoller ← poller options.workflowPollerBehavior
  let activityPoller ← poller options.activityPollerBehavior
  let nexusPoller ← poller options.nexusPollerBehavior
  let maxHeartbeat ← durationMillis (options.maxHeartbeatThrottleIntervalMillis.getD 60000)
  let defaultHeartbeat ←
    durationMillis (options.defaultHeartbeatThrottleIntervalMillis.getD 30000)
  let workerRate ← rate options.maxActivitiesPerSecond
  let taskQueueRate ← rate options.maxTaskQueueActivitiesPerSecond
  let stickyTimeout ←
    durationMillis (options.stickyQueueScheduleToStartTimeoutMillis.getD 10000)
  let gracefulShutdown ← options.gracefulShutdownPeriodMillis.mapM durationMillis
  core.buildWorker tuner
    { nameSpace := options.nameSpace
      taskQueue := options.taskQueue
      maxCachedWorkflows := options.maxCachedWorkflows.toNat
      taskTypes :=
        { enableWorkflows := !options.noWorkflows
          enableLocalActivities := !options.noLocalActivities
          enableRemoteActivities := !options.noRemoteActivities
          enableNexus := options.enableNexus }
      versioningStrategy := versioningStrategy
      clientIdentityOverride := if options.identity.isEmpty then none else some options.identity
      workflowTaskPollerBehavior := workflowPoller
      activityTaskPollerBehavior := activityPoller
      nexusTaskPollerBehavior := nexusPoller
      maxHeartbeatThrottleInterval := maxHeartbeat
      defaultHeartbeatThrottleInterval := defaultHeartbeat
      maxWorkerActivitiesPerSecond := workerRate
      maxTaskQueueActivitiesPerSecond := taskQueueRate
      nonstickyToStickyPollRatio := ratio
      stickyQueueScheduleToStartTimeout := stickyTimeout
      gracefulShutdownPeriod := gracefulShutdown
      workflowFailureErrors :=
        if options.nondeterminismAsWorkflowFail then {.nondeterminism} else ∅
      workflowTypesToFailureErrors := perType options.nondeterminismAsWorkflowFailForTypes
      maxEagerActivityReservationsPerWorkflowTask :=
        (options.maxEagerActivityReservationsPerWorkflowTask.getD 3).toNat
      disablePayloadErrorLimit := options.disablePayloadErrorLimit }

/-- Blank names are refused first. -/
theorem workerConfig_of_blank (core : Core Gate) (options : WorkerOptions)
    (resourceGate : Option Gate) (fresh : Gate)
    (blank : ((trim options.nameSpace).isEmpty || (trim options.taskQueue).isEmpty) = true) :
    workerConfigWithResourceGate core options resourceGate fresh =
      .error (.invalidArgument "namespace and task_queue must not be blank") := by
  rw [workerConfigWithResourceGate, blank]
  rfl

/-- The options pass every check, and their values are these. -/
structure WorkerOptions.Reads (options : WorkerOptions) (values : WorkerConfigValues) : Prop where
  names : ((trim options.nameSpace).isEmpty || (trim options.taskQueue).isEmpty) = false
  share : (!(options.nonstickyToStickyPollRatio.getD 0.2).isFinite ||
    !inUnit32 (options.nonstickyToStickyPollRatio.getD 0.2)) = false
  types : (options.nondeterminismAsWorkflowFailForTypes.any fun s => (trim s).isEmpty) = false
  versioning : versioning options = .ok values.versioningStrategy
  workflowPoller : poller options.workflowPollerBehavior = .ok values.workflowTaskPollerBehavior
  activityPoller : poller options.activityPollerBehavior = .ok values.activityTaskPollerBehavior
  nexusPoller : poller options.nexusPollerBehavior = .ok values.nexusTaskPollerBehavior
  maxHeartbeat : durationMillis (options.maxHeartbeatThrottleIntervalMillis.getD 60000) =
    .ok values.maxHeartbeatThrottleInterval
  defaultHeartbeat : durationMillis (options.defaultHeartbeatThrottleIntervalMillis.getD 30000) =
    .ok values.defaultHeartbeatThrottleInterval
  workerRate : rate options.maxActivitiesPerSecond = .ok values.maxWorkerActivitiesPerSecond
  taskQueueRate : rate options.maxTaskQueueActivitiesPerSecond =
    .ok values.maxTaskQueueActivitiesPerSecond
  stickyTimeout : durationMillis (options.stickyQueueScheduleToStartTimeoutMillis.getD 10000) =
    .ok values.stickyQueueScheduleToStartTimeout
  gracefulShutdown : options.gracefulShutdownPeriodMillis.mapM durationMillis =
    .ok values.gracefulShutdownPeriod
  nameSpace : options.nameSpace = values.nameSpace
  taskQueue : options.taskQueue = values.taskQueue
  maxCachedWorkflows : options.maxCachedWorkflows.toNat = values.maxCachedWorkflows
  taskTypes : WorkerTaskTypes.mk (!options.noWorkflows) (!options.noLocalActivities)
    (!options.noRemoteActivities) options.enableNexus = values.taskTypes
  identity : (if options.identity.isEmpty then none else some options.identity) =
    values.clientIdentityOverride
  ratio : options.nonstickyToStickyPollRatio.getD 0.2 = values.nonstickyToStickyPollRatio
  failureErrors : (if options.nondeterminismAsWorkflowFail then {.nondeterminism} else ∅) =
    values.workflowFailureErrors
  typeErrors : perType options.nondeterminismAsWorkflowFailForTypes =
    values.workflowTypesToFailureErrors
  maxEager : (options.maxEagerActivityReservationsPerWorkflowTask.getD 3).toNat =
    values.maxEagerActivityReservationsPerWorkflowTask
  payloadLimit : options.disablePayloadErrorLimit = values.disablePayloadErrorLimit

/-- Options that pass every check fail only in Core's builders, which get their values. -/
theorem WorkerOptions.Reads.workerConfig {options : WorkerOptions} {values : WorkerConfigValues}
    (reads : options.Reads values) (core : Core Gate) {resourceGate : Option Gate} {fresh : Gate}
    {holder : TunerHolderOptions Gate}
    (held : tunerHolderOptions options resourceGate fresh = .ok holder) :
    workerConfigWithResourceGate core options resourceGate fresh = (do
      let tuner ← core.buildTuner holder
      core.buildWorker tuner values) := by
  simp only [workerConfigWithResourceGate, tuner, reads.names, reads.share, reads.types, held,
    reads.versioning, reads.workflowPoller, reads.activityPoller, reads.nexusPoller,
    reads.maxHeartbeat, reads.defaultHeartbeat, reads.workerRate, reads.taskQueueRate,
    reads.stickyTimeout, reads.gracefulShutdown, Checks.ok_bind, Checks.reject_false_bind]
  simp only [reads.nameSpace, reads.taskQueue, reads.maxCachedWorkflows, reads.taskTypes,
    reads.identity, reads.ratio, reads.failureErrors, reads.typeErrors, reads.maxEager,
    reads.payloadLimit]

end KtBridge.Config
