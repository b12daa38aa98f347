import KtBridge.Client.Failure
import KtBridge.Queue

/-! # Calls of a client and their completions

What `kt_client_connect` and `kt_client_rpc` answer a request with, whatever the server and the
transport do. The messages of the RPCs are generated; they are a parameter.
-/

namespace KtBridge.Client

open Foundation

inductive Service where
  | workflow
  | operator
  | test
  deriving DecidableEq, Repr

def workflowServiceRpcs : List String :=
  ["RegisterNamespace", "DescribeNamespace", "ListNamespaces", "UpdateNamespace",
    "DeprecateNamespace", "StartWorkflowExecution", "GetWorkflowExecutionHistory",
    "GetWorkflowExecutionHistoryReverse", "PollWorkflowTaskQueue",
    "RespondWorkflowTaskCompleted", "RespondWorkflowTaskFailed", "PollActivityTaskQueue",
    "RecordActivityTaskHeartbeat", "RecordActivityTaskHeartbeatById",
    "RespondActivityTaskCompleted", "RespondActivityTaskCompletedById",
    "RespondActivityTaskFailed", "RespondActivityTaskFailedById", "RespondActivityTaskCanceled",
    "RespondActivityTaskCanceledById", "RequestCancelWorkflowExecution",
    "SignalWorkflowExecution", "SignalWithStartWorkflowExecution", "ResetWorkflowExecution",
    "TerminateWorkflowExecution", "DeleteWorkflowExecution", "ListOpenWorkflowExecutions",
    "ListClosedWorkflowExecutions", "ListWorkflowExecutions", "ListArchivedWorkflowExecutions",
    "ScanWorkflowExecutions", "CountWorkflowExecutions", "CreateWorkflowRule",
    "DescribeWorkflowRule", "DeleteWorkflowRule", "ListWorkflowRules", "TriggerWorkflowRule",
    "GetSearchAttributes", "RespondQueryTaskCompleted", "ResetStickyTaskQueue", "QueryWorkflow",
    "DescribeWorkflowExecution", "DescribeTaskQueue", "GetClusterInfo", "GetSystemInfo",
    "ListTaskQueuePartitions", "CreateSchedule", "DescribeSchedule", "UpdateSchedule",
    "PatchSchedule", "ListScheduleMatchingTimes", "DeleteSchedule", "ListSchedules",
    "CountSchedules", "UpdateWorkerBuildIdCompatibility", "GetWorkerBuildIdCompatibility",
    "GetWorkerTaskReachability", "UpdateWorkflowExecution", "PollWorkflowExecutionUpdate",
    "StartBatchOperation", "StopBatchOperation", "DescribeBatchOperation", "DescribeDeployment",
    "ListBatchOperations", "ListDeployments", "ExecuteMultiOperation", "GetCurrentDeployment",
    "GetDeploymentReachability", "GetWorkerVersioningRules", "UpdateWorkerVersioningRules",
    "PollNexusTaskQueue", "RespondNexusTaskCompleted", "RespondNexusTaskFailed",
    "SetCurrentDeployment", "ShutdownWorker", "UpdateActivityOptions", "PauseActivity",
    "UnpauseActivity", "UpdateWorkflowExecutionOptions", "ResetActivity",
    "DeleteWorkerDeployment", "DeleteWorkerDeploymentVersion", "DescribeWorkerDeployment",
    "DescribeWorkerDeploymentVersion", "ListWorkerDeployments",
    "SetWorkerDeploymentCurrentVersion", "SetWorkerDeploymentRampingVersion",
    "UpdateWorkerDeploymentVersionMetadata", "ListWorkers", "CountWorkers",
    "RecordWorkerHeartbeat", "UpdateTaskQueueConfig", "FetchWorkerConfig", "UpdateWorkerConfig",
    "DescribeWorker", "SetWorkerDeploymentManager", "PauseWorkflowExecution",
    "UnpauseWorkflowExecution", "StartActivityExecution", "DescribeActivityExecution",
    "PollActivityExecution", "ListActivityExecutions", "CountActivityExecutions",
    "RequestCancelActivityExecution", "TerminateActivityExecution", "DeleteActivityExecution",
    "PauseActivityExecution", "UnpauseActivityExecution", "ResetActivityExecution",
    "UpdateActivityExecutionOptions", "CountNexusOperationExecutions", "CreateWorkerDeployment",
    "CreateWorkerDeploymentVersion", "DeleteNexusOperationExecution",
    "DescribeNexusOperationExecution", "ListNexusOperationExecutions",
    "PollNexusOperationExecution", "PollWorkflowExecutionTimeSkipping",
    "RequestCancelNexusOperationExecution", "StartNexusOperationExecution",
    "TerminateNexusOperationExecution", "UpdateWorkerDeploymentVersionComputeConfig",
    "ValidateWorkerDeploymentVersionComputeConfig"]

def operatorServiceRpcs : List String :=
  ["AddSearchAttributes", "RemoveSearchAttributes", "ListSearchAttributes",
    "AddOrUpdateRemoteCluster", "RemoveRemoteCluster", "ListClusters", "GetNexusEndpoint",
    "CreateNexusEndpoint", "UpdateNexusEndpoint", "DeleteNexusEndpoint", "ListNexusEndpoints"]

def testServiceRpcs : List String :=
  ["LockTimeSkipping", "UnlockTimeSkipping", "Sleep", "SleepUntil", "UnlockTimeSkippingWithSleep"]

/-- The messages of the RPCs: requests are decoded, or refused with a text. `unit` is the request
that has no content. -/
structure Messages (Request Response : Type) where
  decode : Service → String → ByteArray → Except String Request
  unit : Request
  encode : Response → ByteArray

/-- How a call goes: what the connection answers a request with, and whether the deadline elapses
before it does. -/
structure Reply (Request Response : Type) where
  answer : Request → Except Status Response
  elapsed : Bool

structure RpcOutcome where
  payload : ByteArray
  statusCode : Int
  message : String

/-- A number of milliseconds as a `Duration` is shown. -/
def durationText (millis : Nat) : String :=
  if millis < 1000 then toString millis ++ "ms"
  else if millis % 1000 = 0 then toString (millis / 1000) ++ "s"
  else
    let digits := [millis / 100 % 10, millis / 10 % 10, millis % 10].map Nat.digitChar
    toString (millis / 1000) ++ "." ++ String.ofList (digits.rdropWhile (· = '0')) ++ "s"

/-- `Status::deadline_exceeded`. -/
def Status.deadlineExceeded (message : String) : Status where
  code := .deadlineExceeded
  message := message
  details := ByteArray.empty
  sources := []
  failed := by decide

section Dispatch

variable {Request Response : Type} (messages : Messages Request Response)

/-- An outer deadline, where there is one. -/
def withDeadline (timeout : Option Nat) (reply : Reply Request Response) (request : Request) :
    Except Status Response :=
  match timeout with
  | none => reply.answer request
  | some millis =>
      if reply.elapsed then
        .error (.deadlineExceeded ("client deadline of " ++ durationText millis ++ " elapsed"))
      else reply.answer request

/-- The outcome of a call that was made. -/
def outcome (result : Except Status Response) : RpcOutcome :=
  match result with
  | .ok response => ⟨messages.encode response, 0, ""⟩
  | .error status =>
      ⟨RpcFailure.encodeToVec ⟨statusMessage status, status.details⟩, grpcStatusCode status,
        statusMessage status⟩

def dispatch (service : Service) (names : List String) (rpc : String) (bytes : ByteArray)
    (timeout : Option Nat) (reply : Reply Request Response) : Except KtError RpcOutcome :=
  if rpc ∈ names then
    match messages.decode service rpc bytes with
    | .error text => .error (.invalidArgument (rpc ++ " request: " ++ text))
    | .ok request => .ok (outcome messages (withDeadline timeout reply request))
  else .error (.invalidArgument ("unknown rpc " ++ rpc))

/-- The call that has nothing to decode. -/
def callTestServiceUnit (rpc : String) (timeout : Option Nat) (reply : Reply Request Response) :
    Option RpcOutcome :=
  if rpc = "GetCurrentTime" then some (outcome messages (withDeadline timeout reply messages.unit))
  else none

def call (service : Service) (rpc : String) (bytes : ByteArray) (timeout : Option Nat)
    (reply : Reply Request Response) : Except KtError RpcOutcome :=
  match service with
  | .workflow => dispatch messages service workflowServiceRpcs rpc bytes timeout reply
  | .operator => dispatch messages service operatorServiceRpcs rpc bytes timeout reply
  | .test =>
      match callTestServiceUnit messages rpc timeout reply with
      | some outcome => .ok outcome
      | none => dispatch messages service testServiceRpcs rpc bytes timeout reply

/-- The completion of a call. -/
def rpcCompletion (reqId : UInt64) : Except KtError RpcOutcome → Pending
  | .ok outcome =>
      if outcome.statusCode = 0 then
        ((Pending.ack reqId).withKind .rpc).withPayload outcome.payload
      else
        ((Pending.error reqId outcome.statusCode outcome.message).withKind .rpc).withPayload
          outcome.payload
  | .error error => (Pending.error reqId error.code error.message).withKind .rpc

/-- No timeout is written as 0. -/
def timeoutOf (timeoutMillis : UInt64) : Option Nat :=
  if 0 < timeoutMillis then some timeoutMillis.toNat else none

/-- The request that a dispatched call makes, unless it is refused. -/
def decoded (service : Service) (names : List String) (rpc : String) (bytes : ByteArray) :
    Except KtError Request :=
  if rpc ∈ names then
    match messages.decode service rpc bytes with
    | .error text => .error (.invalidArgument (rpc ++ " request: " ++ text))
    | .ok request => .ok request
  else .error (.invalidArgument ("unknown rpc " ++ rpc))

def requestOf (service : Service) (rpc : String) (bytes : ByteArray) : Except KtError Request :=
  match service with
  | .workflow => decoded messages service workflowServiceRpcs rpc bytes
  | .operator => decoded messages service operatorServiceRpcs rpc bytes
  | .test =>
      if rpc = "GetCurrentTime" then .ok messages.unit
      else decoded messages service testServiceRpcs rpc bytes

variable {messages} {service : Service} {rpc : String} {bytes : ByteArray} {timeout : Option Nat}
  {reply : Reply Request Response}

theorem dispatch_eq (names : List String) :
    dispatch messages service names rpc bytes timeout reply =
      (decoded messages service names rpc bytes).map fun request =>
        outcome messages (withDeadline timeout reply request) := by
  unfold dispatch decoded
  split
  · split <;> rfl
  · rfl

/-- A call that is not refused asks the service, and reports what comes of it. -/
theorem call_eq :
    call messages service rpc bytes timeout reply =
      (requestOf messages service rpc bytes).map fun request =>
        outcome messages (withDeadline timeout reply request) := by
  cases service with
  | workflow => exact dispatch_eq workflowServiceRpcs
  | operator => exact dispatch_eq operatorServiceRpcs
  | test =>
      by_cases time : rpc = "GetCurrentTime"
      · simp [call, requestOf, callTestServiceUnit, time, Except.map]
      · simp only [call, requestOf, callTestServiceUnit, if_neg time]
        exact dispatch_eq testServiceRpcs

end Dispatch

/-! ## Connecting -/

inductive ClientConnectError where
  | systemInfoCallError (status : Status)
  /-- Any other error, as it is shown. -/
  | other (text : String)

def connectFailure (reqId : UInt64) : ClientConnectError → Pending
  | .systemInfoCallError status =>
      ((Pending.error reqId (grpcStatusCode status) status.message).withKind
        .clientConnected).withPayload (RpcFailure.encodeToVec ⟨status.message, status.details⟩)
  | .other text => Pending.error reqId ktErrFailed text

/-- The completion of a connection, given the handle table as it is then; `none` is a panic. -/
def connectCompletion {Ref : Type} (reqId : UInt64) (runtime : Handle) :
    Except ClientConnectError (Table Ref × Ref) → Option Pending
  | .ok (table, client) =>
      match (table.insertOwned runtime (.client client)).2.1 with
      | .ok handle => some (((Pending.ack reqId).withKind .clientConnected).withAux0 handle)
      | .error error => some (Pending.error reqId error.code error.message)
      | .panic => none
  | .error error => some (connectFailure reqId error)

end KtBridge.Client
