import KtBridge.Config.Proto
import KtBridge.Foundation.Checks
import KtBridge.Foundation.Floats

/-! # The JVM's encoding of a worker's configuration

What the JVM checks in a configuration before it writes the message. A failed check
throws with its text. `Int` and `Long` are signed; the setters of unsigned fields keep
their bits.
-/

namespace KtBridge.Config.Kotlin

open Foundation

/-- `Char.isWhitespace`: the control characters of `Character.isWhitespace`, and the
separators of `Character.isSpaceChar`. A surrogate is neither. -/
def isWhitespace (char : Char) : Bool :=
  let point := char.toNat
  (0x09 ≤ point && point ≤ 0x0D) || (0x1C ≤ point && point ≤ 0x1F) ||
    point = 0x20 || point = 0xA0 || point = 0x1680 || (0x2000 ≤ point && point ≤ 0x200A) ||
    point = 0x2028 || point = 0x2029 || point = 0x202F || point = 0x205F || point = 0x3000

/-- `CharSequence.isNotBlank`. -/
def isNotBlank (text : String) : Bool := text.toList.any (!isWhitespace ·)

/-! ## The configuration -/

inductive CorePollerBehavior where
  | simpleMaximum (maximum : Int32)
  | autoscaling (minimum maximum initial : Int32)
  deriving DecidableEq

/-- The resource tuning of a supplier. -/
structure PidTuning where
  memoryPGain : Float := 5.0
  memoryIGain : Float := 0.0
  memoryDGain : Float := 1.0
  memoryOutputThreshold : Float := 0.25
  cpuPGain : Float := 5.0
  cpuIGain : Float := 0.0
  cpuDGain : Float := 1.0
  cpuOutputThreshold : Float := 0.05

/-- Slots by the heap and CPU usage of the JVM. -/
structure JvmResourceBased where
  targetMemoryUsage : Float := 0.8
  targetCpuUsage : Float := 0.8
  minimumSlots : Int32 := 1
  maximumSlots : Int32 := 10000
  rampThrottleMs : Int64 := 50
  pidTuning : PidTuning := {}

/-- Slots by Core's own monitoring of the system. -/
structure CGroupResourceBased where
  targetMemoryUsage : Float := 0.8
  targetCpuUsage : Float := 0.8
  minimumSlots : Int32 := 1
  maximumSlots : Int32 := 10000
  rampThrottleMs : Int64 := 50

inductive SlotSupplier where
  | fixedSize (slots : Int32)
  | jvmResourceBased (options : JvmResourceBased)
  | cGroupResourceBased (options : CGroupResourceBased)

def SlotSupplier.maxConcurrent : SlotSupplier → Int32
  | fixedSize slots => slots
  | jvmResourceBased options => options.maximumSlots
  | cGroupResourceBased options => options.maximumSlots

inductive VersioningBehavior where
  | unspecified
  | pinned
  | autoUpgrade
  deriving DecidableEq

def VersioningBehavior.value : VersioningBehavior → Int32
  | unspecified => 0
  | pinned => 1
  | autoUpgrade => 2

/-- A deployment version. Its constructor refuses blank names. -/
structure WorkerDeploymentVersion where
  deploymentName : String
  buildId : String
  deploymentName_isNotBlank : isNotBlank deploymentName
  buildId_isNotBlank : isNotBlank buildId

structure WorkerDeploymentOptions where
  version : WorkerDeploymentVersion
  useWorkerVersioning : Bool := true
  defaultVersioningBehavior : VersioningBehavior := .unspecified

structure WorkerConfig where
  maxCachedWorkflows : Int32 := 1000
  enableWorkflows : Bool := true
  enableActivities : Bool := true
  enableLocalActivities : Bool := true
  enableNexus : Bool := false
  deploymentOptions : Option WorkerDeploymentOptions := none
  workflowSlotSupplier : SlotSupplier := .fixedSize 10
  activitySlotSupplier : SlotSupplier := .fixedSize 10
  localActivitySlotSupplier : SlotSupplier := .fixedSize 10
  nexusSlotSupplier : SlotSupplier := .fixedSize 10
  maxHeartbeatThrottleIntervalMs : Int64 := 60000
  defaultHeartbeatThrottleIntervalMs : Int64 := 30000
  /-- Null lets Core select the behavior. -/
  workflowPollerBehavior : Option CorePollerBehavior := some (.simpleMaximum 5)
  activityPollerBehavior : Option CorePollerBehavior := some (.simpleMaximum 5)
  nexusPollerBehavior : Option CorePollerBehavior := some (.simpleMaximum 2)
  /-- 0.0 means no limit. -/
  maxActivitiesPerSecond : Float := 0.0
  maxTaskQueueActivitiesPerSecond : Float := 0.0
  /-- Null means the worker inherits the client's identity. -/
  workerIdentity : Option String := none
  nondeterminismAsWorkflowFail : Bool := false
  nondeterminismAsWorkflowFailForTypes : List String := []
  maxEagerActivityReservationsPerWorkflowTask : Int32 := 3
  disablePayloadErrorLimit : Bool := false
  nonstickyToStickyPollRatio : Float32 := 0.2
  stickyQueueScheduleToStartTimeoutMs : Int64 := 10000
  /-- Null disables Core's cancellation. -/
  gracefulShutdownPeriodMs : Option Int64 := some 0
  /-- Only used when no deployment options are configured. -/
  buildId : String := ""

/-! ## The encoding -/

def CorePollerBehavior.toProto : CorePollerBehavior → Except String PollerBehavior
  | simpleMaximum maximum => do
      require (0 < maximum) "SimpleMaximum poller maximum must be positive"
      pure { strategy := some (.simpleMaximum maximum.toUInt32) }
  | autoscaling minimum maximum initial => do
      require (0 < minimum && minimum ≤ maximum && (minimum ≤ initial && initial ≤ maximum))
        "Autoscaling requires 0 < minimum <= initial <= maximum"
      pure { strategy := some (.autoscaling
        { minimum := minimum.toUInt32, maximum := maximum.toUInt32, initial := initial.toUInt32 }) }

namespace SlotSupplier

def asResource : SlotSupplier → Except String JvmResourceBased
  | jvmResourceBased options => pure options
  | cGroupResourceBased options => pure
      { targetMemoryUsage := options.targetMemoryUsage
        targetCpuUsage := options.targetCpuUsage
        minimumSlots := options.minimumSlots
        maximumSlots := options.maximumSlots
        rampThrottleMs := options.rampThrottleMs }
  | fixedSize _ => throw "Fixed suppliers do not have resource options"

/-- `this is SlotSupplier.JvmResourceBased`. -/
def isJvm : SlotSupplier → Bool
  | jvmResourceBased _ => true
  | _ => false

end SlotSupplier

namespace JvmResourceBased

variable (resource : JvmResourceBased)

/-- The message of the targets. -/
def tuner (jvm : Bool) : ResourceBasedTuner where
  jvmResourceBased := jvm
  targetMemoryUsage := resource.targetMemoryUsage
  targetCpuUsage := resource.targetCpuUsage
  memoryPGain := resource.pidTuning.memoryPGain
  memoryIGain := resource.pidTuning.memoryIGain
  memoryDGain := resource.pidTuning.memoryDGain
  memoryOutputThreshold := resource.pidTuning.memoryOutputThreshold
  cpuPGain := resource.pidTuning.cpuPGain
  cpuIGain := resource.pidTuning.cpuIGain
  cpuDGain := resource.pidTuning.cpuDGain
  cpuOutputThreshold := resource.pidTuning.cpuOutputThreshold

/-- The message of the bounds. -/
def limits : ResourceSlotLimits where
  minimumSlots := resource.minimumSlots.toUInt32
  maximumSlots := resource.maximumSlots.toUInt32
  rampThrottleMillis := resource.rampThrottleMs.toUInt64

end JvmResourceBased

namespace PidTuning

def gains (tuning : PidTuning) : List Float :=
  [tuning.memoryPGain, tuning.memoryIGain, tuning.memoryDGain, tuning.memoryOutputThreshold,
    tuning.cpuPGain, tuning.cpuIGain, tuning.cpuDGain, tuning.cpuOutputThreshold]

end PidTuning

namespace SlotSupplier

variable (supplier : SlotSupplier)

def resourceTargets : Except String ResourceBasedTuner := do
  let resource ← supplier.asResource
  require (resource.targetMemoryUsage.isFinite && inUnit resource.targetMemoryUsage)
    "targetMemoryUsage must be between 0 and 1"
  require (resource.targetCpuUsage.isFinite && inUnit resource.targetCpuUsage)
    "targetCpuUsage must be between 0 and 1"
  require (resource.pidTuning.gains.all Float.isFinite)
    "Resource PID gains and thresholds must be finite"
  pure (resource.tuner supplier.isJvm)

def resourceLimits : Except String ResourceSlotLimits := do
  let resource ← supplier.asResource
  require (0 ≤ resource.minimumSlots && 0 < resource.maximumSlots &&
      resource.minimumSlots ≤ resource.maximumSlots)
    "Resource slots require 0 <= minimumSlots <= maximumSlots and maximumSlots > 0"
  require (0 ≤ resource.rampThrottleMs) "Resource rampThrottleMs must be nonnegative"
  pure resource.limits

end SlotSupplier

/-- What `encode` builds up: the message, and the targets the resource suppliers share. -/
structure Building where
  options : WorkerOptions
  sharedTargets : Option ResourceBasedTuner

namespace WorkerOptionsProto

/-- The local function `supplier` for a resource supplier. -/
def resourceSupplier (building : Building) (supplier : SlotSupplier)
    (setResource : WorkerOptions → ResourceSlotLimits → WorkerOptions) : Except String Building := do
  let targets ← supplier.resourceTargets
  require (building.sharedTargets.all (·.jvmResourceBased == targets.jvmResourceBased))
    "JVM and system resource suppliers cannot be mixed in one worker"
  require (targets.jvmResourceBased || building.sharedTargets.all (· = targets))
    "System resource suppliers in one worker must share memory/CPU targets and PID tuning"
  let limits ← supplier.resourceLimits
  pure { options := setResource building.options limits, sharedTargets := some targets }

/-- The local function `supplier`. -/
def supplier (building : Building) (supplier : SlotSupplier)
    (setFixed : WorkerOptions → UInt32 → WorkerOptions)
    (setResource : WorkerOptions → ResourceSlotLimits → WorkerOptions) : Except String Building :=
  match supplier with
  | .fixedSize slots => do
      require (0 < slots) "Fixed slot counts must be positive"
      pure { building with options := setFixed building.options slots.toUInt32 }
  | supplier => resourceSupplier building supplier setResource

/-- The checks of `encode` before the builder. -/
def check (taskQueue nameSpace : String) (config : WorkerConfig) : Except String Unit := do
  require (isNotBlank taskQueue) "taskQueue must not be blank"
  require (isNotBlank nameSpace) "namespace must not be blank"
  require (0 ≤ config.maxCachedWorkflows) "maxCachedWorkflows must be nonnegative"
  require (config.enableWorkflows || !config.enableLocalActivities)
    "Local activities require workflows to be enabled"
  require (config.enableWorkflows || config.enableActivities || config.enableNexus)
    "At least one task type must be enabled"
  require (0 ≤ config.maxHeartbeatThrottleIntervalMs)
    "maxHeartbeatThrottleIntervalMs must be nonnegative"
  require (0 ≤ config.defaultHeartbeatThrottleIntervalMs)
    "defaultHeartbeatThrottleIntervalMs must be nonnegative"
  require (0 ≤ config.stickyQueueScheduleToStartTimeoutMs)
    "stickyQueueScheduleToStartTimeoutMs must be nonnegative"
  require (0 ≤ config.gracefulShutdownPeriodMs.getD 0)
    "gracefulShutdownPeriodMs must be nonnegative"
  require (config.maxActivitiesPerSecond.isFinite && 0.0 ≤ config.maxActivitiesPerSecond)
    "maxActivitiesPerSecond must be finite and nonnegative"
  require (config.maxTaskQueueActivitiesPerSecond.isFinite &&
      0.0 ≤ config.maxTaskQueueActivitiesPerSecond)
    "maxTaskQueueActivitiesPerSecond must be finite and nonnegative"
  require (config.nonstickyToStickyPollRatio.isFinite && inUnit32 config.nonstickyToStickyPollRatio)
    "nonstickyToStickyPollRatio must be between 0 and 1"
  require (0 ≤ config.maxEagerActivityReservationsPerWorkflowTask)
    "maxEagerActivityReservationsPerWorkflowTask must be nonnegative"
  require (config.nondeterminismAsWorkflowFailForTypes.all isNotBlank)
    "nondeterminismAsWorkflowFailForTypes must contain nonblank workflow type names"

/-- The builder before its conditional fields. -/
def base (taskQueue nameSpace : String) (config : WorkerConfig) : WorkerOptions where
  nameSpace := nameSpace
  taskQueue := taskQueue
  identity := config.workerIdentity.getD ""
  maxCachedWorkflows := config.maxCachedWorkflows.toUInt32
  maxConcurrentWorkflowTasks := none
  maxConcurrentActivities := none
  maxConcurrentLocalActivities := none
  noRemoteActivities := !config.enableActivities
  buildId := config.buildId
  resourceTuner := none
  workflowResourceLimits := none
  activityResourceLimits := none
  localActivityResourceLimits := none
  noWorkflows := !config.enableWorkflows
  noLocalActivities := !config.enableLocalActivities
  deploymentOptions := none
  workflowPollerBehavior := none
  activityPollerBehavior := none
  nexusPollerBehavior := none
  maxHeartbeatThrottleIntervalMillis := some config.maxHeartbeatThrottleIntervalMs.toUInt64
  defaultHeartbeatThrottleIntervalMillis :=
    some config.defaultHeartbeatThrottleIntervalMs.toUInt64
  maxActivitiesPerSecond := some config.maxActivitiesPerSecond
  maxTaskQueueActivitiesPerSecond := some config.maxTaskQueueActivitiesPerSecond
  nonstickyToStickyPollRatio := some config.nonstickyToStickyPollRatio
  stickyQueueScheduleToStartTimeoutMillis :=
    some config.stickyQueueScheduleToStartTimeoutMs.toUInt64
  gracefulShutdownPeriodMillis := none
  nondeterminismAsWorkflowFail := config.nondeterminismAsWorkflowFail
  nondeterminismAsWorkflowFailForTypes := config.nondeterminismAsWorkflowFailForTypes
  maxEagerActivityReservationsPerWorkflowTask :=
    some config.maxEagerActivityReservationsPerWorkflowTask.toUInt32
  disablePayloadErrorLimit := config.disablePayloadErrorLimit
  enableNexus := config.enableNexus
  maxConcurrentNexusTasks := none
  nexusResourceLimits := none

/-- The deployment's message, after its check. -/
def deployment (options : WorkerDeploymentOptions) : Except String Config.WorkerDeploymentOptions := do
  require (options.useWorkerVersioning || options.defaultVersioningBehavior = .unspecified)
    "defaultVersioningBehavior requires useWorkerVersioning"
  pure
    { deploymentName := options.version.deploymentName
      buildId := options.version.buildId
      useWorkerVersioning := options.useWorkerVersioning
      defaultVersioningBehavior := options.defaultVersioningBehavior.value.toUInt32 }

/-- The workflow poller's message. Cached workflows poll two queues. -/
def workflowPoller (config : WorkerConfig) (behavior : CorePollerBehavior) :
    Except String PollerBehavior := do
  match behavior with
  | .simpleMaximum maximum =>
      require (config.maxCachedWorkflows ≤ 0 || 2 ≤ maximum)
        "Cached workflows require at least 2 workflow pollers"
  | .autoscaling .. => pure ()
  behavior.toProto

/-- The builder with its conditional fields, before the suppliers. -/
def beforeSuppliers (taskQueue nameSpace : String) (config : WorkerConfig)
    (deployment : Option Config.WorkerDeploymentOptions)
    (workflowPoller activityPoller nexusPoller : Option PollerBehavior) : WorkerOptions :=
  { base taskQueue nameSpace config with
    gracefulShutdownPeriodMillis := config.gracefulShutdownPeriodMs.map Int64.toUInt64
    deploymentOptions := deployment
    workflowPollerBehavior := workflowPoller
    activityPollerBehavior := activityPoller
    nexusPollerBehavior := nexusPoller }

/-- Absent stays absent, and what is present is encoded. -/
def encodeOption {Value Message : Type} (encode : Value → Except String Message) :
    Option Value → Except String (Option Message)
  | none => pure none
  | some value => do pure (some (← encode value))

def encode (taskQueue nameSpace : String) (config : WorkerConfig) : Except String WorkerOptions := do
  check taskQueue nameSpace config
  let deploymentOptions ← encodeOption deployment config.deploymentOptions
  let workflowPollerBehavior ← encodeOption (workflowPoller config) config.workflowPollerBehavior
  let activityPollerBehavior ← encodeOption CorePollerBehavior.toProto config.activityPollerBehavior
  let nexusPollerBehavior ← encodeOption CorePollerBehavior.toProto config.nexusPollerBehavior
  let options := beforeSuppliers taskQueue nameSpace config deploymentOptions workflowPollerBehavior
    activityPollerBehavior nexusPollerBehavior
  require (!(0 < config.maxCachedWorkflows && config.enableWorkflows) ||
      2 ≤ config.workflowSlotSupplier.maxConcurrent)
    "Cached workflows require at least 2 workflow slots"
  let building ← supplier { options := options, sharedTargets := none } config.workflowSlotSupplier
    (fun options slots => { options with maxConcurrentWorkflowTasks := some slots })
    (fun options limits => { options with workflowResourceLimits := some limits })
  let building ← supplier building config.activitySlotSupplier
    (fun options slots => { options with maxConcurrentActivities := some slots })
    (fun options limits => { options with activityResourceLimits := some limits })
  let building ← supplier building config.localActivitySlotSupplier
    (fun options slots => { options with maxConcurrentLocalActivities := some slots })
    (fun options limits => { options with localActivityResourceLimits := some limits })
  let building ← supplier building config.nexusSlotSupplier
    (fun options slots => { options with maxConcurrentNexusTasks := some slots })
    (fun options limits => { options with nexusResourceLimits := some limits })
  pure { building.options with resourceTuner := building.sharedTargets }

end WorkerOptionsProto

end KtBridge.Config.Kotlin
