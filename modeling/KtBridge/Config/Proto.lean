import Mathlib.Data.UInt

/-! # The options of a worker on the wire

The messages of the schema that both sides share. A proto3 field without presence has
its zero value when it is absent; an `optional` field, a message and a `oneof` have
presence.
-/

namespace KtBridge.Config

structure PollerAutoscaling where
  minimum : UInt32
  maximum : UInt32
  initial : UInt32
  deriving DecidableEq

/-- The `oneof` of a poller's strategy. -/
inductive Strategy where
  | simpleMaximum (maximum : UInt32)
  | autoscaling (bounds : PollerAutoscaling)
  deriving DecidableEq

structure PollerBehavior where
  strategy : Option Strategy
  deriving DecidableEq

structure WorkerDeploymentOptions where
  deploymentName : String
  buildId : String
  useWorkerVersioning : Bool
  /-- 0 = no default, 1 = pinned, 2 = auto-upgrade; other values are rejected. -/
  defaultVersioningBehavior : UInt32
  deriving DecidableEq

structure ResourceBasedTuner where
  /-- The JVM decides about admission, native code about permits and throttling. -/
  jvmResourceBased : Bool
  targetMemoryUsage : Float
  targetCpuUsage : Float
  memoryPGain : Float
  memoryIGain : Float
  memoryDGain : Float
  memoryOutputThreshold : Float
  cpuPGain : Float
  cpuIGain : Float
  cpuDGain : Float
  cpuOutputThreshold : Float
  deriving DecidableEq

/-- The bounds of a resource-based supplier for one kind of slots. -/
structure ResourceSlotLimits where
  minimumSlots : UInt32
  maximumSlots : UInt32
  rampThrottleMillis : UInt64
  deriving DecidableEq

structure WorkerOptions where
  nameSpace : String
  taskQueue : String
  /-- Empty inherits the client's identity. -/
  identity : String
  maxCachedWorkflows : UInt32
  maxConcurrentWorkflowTasks : Option UInt32
  maxConcurrentActivities : Option UInt32
  maxConcurrentLocalActivities : Option UInt32
  noRemoteActivities : Bool
  /-- Identifies unversioned workers; deployment options take precedence. -/
  buildId : String
  resourceTuner : Option ResourceBasedTuner
  workflowResourceLimits : Option ResourceSlotLimits
  activityResourceLimits : Option ResourceSlotLimits
  localActivityResourceLimits : Option ResourceSlotLimits
  noWorkflows : Bool
  noLocalActivities : Bool
  deploymentOptions : Option WorkerDeploymentOptions
  workflowPollerBehavior : Option PollerBehavior
  activityPollerBehavior : Option PollerBehavior
  nexusPollerBehavior : Option PollerBehavior
  maxHeartbeatThrottleIntervalMillis : Option UInt64
  defaultHeartbeatThrottleIntervalMillis : Option UInt64
  maxActivitiesPerSecond : Option Float
  maxTaskQueueActivitiesPerSecond : Option Float
  nonstickyToStickyPollRatio : Option Float32
  stickyQueueScheduleToStartTimeoutMillis : Option UInt64
  /-- Absent leaves cancellation to the caller; zero cancels as soon as shutdown starts. -/
  gracefulShutdownPeriodMillis : Option UInt64
  nondeterminismAsWorkflowFail : Bool
  nondeterminismAsWorkflowFailForTypes : List String
  maxEagerActivityReservationsPerWorkflowTask : Option UInt32
  disablePayloadErrorLimit : Bool
  enableNexus : Bool
  maxConcurrentNexusTasks : Option UInt32
  nexusResourceLimits : Option ResourceSlotLimits

end KtBridge.Config
