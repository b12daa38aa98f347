import KtBridge.Client.Rpc
import KtBridge.Exchange.Fates

/-! # What a caller makes of a completion

`KtClient` tells by the sign of a status how to read the payload. What the bridge answers a client's
request with is always of the format that its sign stands for.
-/

namespace KtBridge.Client

open Foundation
open Pump (Completion requestId)

/-! ## Kotlin -/

structure TemporalCoreException where
  message : String
  errorType : Option String
  statusCode : Option Int
  details : Option ByteArray
  deriving DecidableEq

inductive Thrown where
  | core (exception : TemporalCoreException)
  | invalidProtocolBuffer (reason : Wire.Malformed)
  deriving DecidableEq

section Kotlin

-- What bytes that are no UTF-8 are read as.
variable (malformed : ByteArray → String)

def errorMessage (completion : Completion) : String :=
  (String.fromUTF8? completion.payload).getD (malformed completion.payload)

/-- What a failed completion throws. -/
def failure (context : String) (completion : Completion) : Thrown :=
  if 0 < completion.status then
    match RpcFailure.parseFrom completion.payload with
    | .ok failure =>
        .core ⟨context ++ failure.message, none, some completion.status, some failure.details⟩
    | .error reason => .invalidProtocolBuffer reason
  else .core ⟨context ++ errorMessage malformed completion, none, some completion.status, none⟩

/-- `KtClient.call`, once the request is answered. -/
def KtClient.call (rpc : String) (completion : Completion) : Except Thrown ByteArray :=
  if completion.isFailure then .error (failure malformed (rpc ++ " failed: ") completion)
  else .ok completion.payload

/-- `KtClient.connect`, once the request is answered. -/
def KtClient.connect (completion : Completion) : Except Thrown Handle :=
  if completion.isFailure then .error (failure malformed "could not connect: " completion)
  else .ok completion.aux0

end Kotlin

/-! ## Requests of a client -/

variable {Request Response Ref : Type}

/-- A request of a client, with what the server and the transport make of it. -/
inductive Run (Request Response Ref : Type) where
  | connect (runtime : Handle) (outcome : Except ClientConnectError (Table Ref × Ref))
  | rpc (service : Service) (name : String) (bytes : ByteArray) (timeoutMillis : UInt64)
      (reply : Reply Request Response)

namespace Run

variable (messages : Messages Request Response)

/-- What the operation returns; `none` is a panic. -/
def completion (reqId : UInt64) : Run Request Response Ref → Option Pending
  | connect runtime outcome => connectCompletion reqId runtime outcome
  | rpc service name bytes timeoutMillis reply =>
      some (rpcCompletion reqId (call messages service name bytes (timeoutOf timeoutMillis) reply))

/-- What the caller is given for a success: a response, or a client's handle. -/
def value (run : Run Request Response Ref) (completion : Completion) : ByteArray ⊕ Handle :=
  match run with
  | connect _ _ => .inr completion.aux0
  | rpc .. => .inl completion.payload

/-- What the caller returns or throws. -/
def read (malformed : ByteArray → String) (run : Run Request Response Ref)
    (completion : Completion) : Except Thrown (ByteArray ⊕ Handle) :=
  match run with
  | connect _ _ => (KtClient.connect malformed completion).map .inr
  | rpc _ name _ _ _ => (KtClient.call malformed name completion).map .inl

/-- What the message of a failure starts with. -/
def context : Run Request Response Ref → String
  | connect _ _ => "could not connect: "
  | rpc _ name _ _ _ => name ++ " failed: "

/-- The request succeeded: a new handle was issued for the client, or the server responded. -/
def Succeeds : Run Request Response Ref → ByteArray ⊕ Handle → Prop
  | connect runtime outcome, .inr handle => handle ≠ 0 ∧ ∃ table client,
      outcome = .ok (table, client) ∧ (table.insertOwned runtime (.client client)).2.1 = .ok handle
  | rpc service name bytes timeoutMillis reply, .inl payload => ∃ request response,
      requestOf messages service name bytes = .ok request ∧
        withDeadline (timeoutOf timeoutMillis) reply request = .ok response ∧
          payload = messages.encode response
  | _, _ => False

/-- The request failed with a status. -/
def FailsWith : Run Request Response Ref → Status → Prop
  | connect _ outcome, status => outcome = .error (.systemInfoCallError status)
  | rpc service name bytes timeoutMillis reply, status => ∃ request,
      requestOf messages service name bytes = .ok request ∧
        withDeadline (timeoutOf timeoutMillis) reply request = .error status

/-- Whether the request is a call. -/
def isRpc : Run Request Response Ref → Bool
  | connect _ _ => false
  | rpc .. => true

end Run

/-- How a status is reported: its code, but for a local timeout; its details; and its message, or
what is known of its causes. -/
structure ReportOf (run : Run Request Response Ref) (status : Status) (code : Int)
    (failure : RpcFailure) : Prop where
  expired : status.code = .cancelled → (∃ error ∈ status.sources, error.isTimeoutExpired = true) →
    code = Code.deadlineExceeded.value
  kept : (status.code = .cancelled → ∀ error ∈ status.sources, error.isTimeoutExpired = false) →
    code = status.code.value
  details : failure.details = status.details
  message : run.isRpc = false ∨ status.message ≠ "" → failure.message = status.message
  causes : run.isRpc = true → status.message = "" → failure.message = status.code.debug ++
    if status.sources = [] then " with no message"
    else ": " ++ ": ".intercalate (status.sources.map SourceError.text)

/-- A completion is of the format that the sign of its status stands for. -/
structure Reports (messages : Messages Request Response) (run : Run Request Response Ref)
    (completion : Completion) : Prop where
  success : completion.status = 0 → run.Succeeds messages (run.value completion)
  failure : 0 < completion.status → ∃ status failure, run.FailsWith messages status ∧
    ReportOf run status completion.status failure ∧ completion.payload = failure.encodeToVec
  text : completion.status < 0 → ∃ text : String, completion.payload = text.toByteArray

/-- What the caller does with a completion that was read into an array. -/
structure Delivers (messages : Messages Request Response) (malformed : ByteArray → String)
    (run : Run Request Response Ref) (completion : Completion) : Prop where
  returned : ∀ value, run.read malformed completion = .ok value → run.Succeeds messages value
  failure : 0 < completion.status → ∃ status failure, run.FailsWith messages status ∧
    ReportOf run status completion.status failure ∧
      RpcFailure.parseFrom completion.payload = .ok failure ∧
        run.read malformed completion = .error (.core ⟨run.context ++ failure.message, none,
          some completion.status, some failure.details⟩)
  text : completion.status < 0 → ∃ text : String, completion.payload = text.toByteArray ∧
    run.read malformed completion = .error (.core ⟨run.context ++ text, none,
      some completion.status, none⟩)

/-- What an operation's own completion says: a failure's code and report, or 0 and what a
success is for, or else an error of the bridge. -/
structure Conveys (messages : Messages Request Response) (run : Run Request Response Ref)
    (completion : Completion) : Prop where
  failure : ∀ status, run.FailsWith messages status → 0 < completion.status ∧ ∃ failure,
    ReportOf run status completion.status failure ∧ completion.payload = failure.encodeToVec
  success : ∀ value, run.Succeeds messages value →
    completion.status = 0 ∧ run.value completion = value
  refusal : (∀ status, ¬ run.FailsWith messages status) →
    (∀ value, ¬ run.Succeeds messages value) → completion.status < 0

/-- What the caller does with an operation's own completion: it throws every failure with its
code, message and details, and returns every success. -/
structure Hands (messages : Messages Request Response) (malformed : ByteArray → String)
    (run : Run Request Response Ref) (completion : Completion) : Prop where
  thrown : ∀ status, run.FailsWith messages status → 0 < completion.status ∧ ∃ failure,
    ReportOf run status completion.status failure ∧
      run.read malformed completion = .error (.core ⟨run.context ++ failure.message, none,
        some completion.status, some failure.details⟩)
  returned : ∀ value, run.Succeeds messages value → run.read malformed completion = .ok value

section Reports

variable {messages : Messages Request Response} {run : Run Request Response Ref}

/-- An error of the bridge carries a text. -/
theorem Reports.of_error {reqId : UInt64} {status : Int} (negative : status < 0)
    (message : String) (kind : KtKind) :
    Reports messages run ((Pending.error reqId status message).withKind kind).record where
  success := fun zero => absurd zero (Int.ne_of_lt negative)
  failure := fun positive => absurd positive (Int.lt_asymm negative)
  text := fun _ => ⟨message, rfl⟩

/-- A failure with a status carries its report. -/
theorem Reports.of_failure {reqId : UInt64} {status : Status} {text : String}
    {failure : RpcFailure} (failed : run.FailsWith messages status)
    (report : ReportOf run status (grpcStatusCode status) failure) (kind : KtKind) :
    Reports messages run (((Pending.error reqId (grpcStatusCode status) text).withKind
      kind).withPayload failure.encodeToVec).record where
  success := fun zero => absurd zero (Int.ne_of_gt (grpcStatusCode_pos status))
  failure := fun _ => ⟨status, failure, failed, report, rfl⟩
  text := fun negative => absurd negative (Int.lt_asymm (grpcStatusCode_pos status))

theorem ReportOf.of_message {status : Status} {failure : RpcFailure}
    (details : failure.details = status.details)
    (message : run.isRpc = false ∨ status.message ≠ "" → failure.message = status.message)
    (causes : run.isRpc = true → status.message = "" → failure.message = status.code.debug ++
      if status.sources = [] then " with no message"
      else ": " ++ ": ".intercalate (status.sources.map SourceError.text)) :
    ReportOf run status (grpcStatusCode status) failure where
  expired := fun cancelled timeout => if_pos ⟨cancelled, (expired_iff _).mpr timeout⟩
  kept := by
    intro none
    refine if_neg fun both => ?_
    obtain ⟨error, member, timeout⟩ := (expired_iff _).mp both.2
    rw [none both.1 error member] at timeout
    cases timeout
  details := details
  message := message
  causes := causes

theorem reportOf_connect (runtime : Handle)
    (outcome : Except ClientConnectError (Table Ref × Ref)) (status : Status) :
    ReportOf (.connect runtime outcome : Run Request Response Ref) status (grpcStatusCode status)
      ⟨status.message, status.details⟩ :=
  .of_message rfl (fun _ => rfl) fun isRpc => (by cases isRpc)

theorem reportOf_rpc (isRpc : run.isRpc = true) (status : Status) :
    ReportOf run status (grpcStatusCode status) ⟨statusMessage status, status.details⟩ := by
  refine .of_message rfl (fun given => ?_) fun _ empty => ?_
  · obtain connects | given := given
    · rw [isRpc] at connects
      cases connects
    · exact if_pos given
  · by_cases none : status.sources = []
    · simp [statusMessage, empty, none, parts]
    · simp [statusMessage, empty, none, parts_eq_map, String.append_assoc]

theorem kind_of_mint {table : Table Ref} {kind : UInt8} {index : UInt32} {handle : Handle}
    (minted : table.mint kind index = .ok handle) : handle.kind = kind := by
  unfold Table.mint at minted
  split at minted
  · cases minted
  · cases minted
    exact Handle.kind_encode ..

/-- A handle that is issued is not 0. -/
theorem ne_zero_of_insertOwned {table : Table Ref} {runtime handle : Handle} {entry : Entry Ref}
    (issued : (table.insertOwned runtime entry).2.1 = .ok handle) : handle ≠ 0 := by
  have kind : handle.kind = entry.kind := by
    unfold Table.insertOwned at issued
    split at issued
    · cases issued
    · simp only [Table.insertInto] at issued
      split at issued
      · split at issued
        · cases issued
        · exact kind_of_mint issued
      · exact kind_of_mint issued
  refine Handle.ne_zero_of_kind ?_
  rw [kind]
  exact entry.kind_ne_zero

/-- What connecting returns. -/
theorem reports_connect {reqId : UInt64} {runtime : Handle}
    {outcome : Except ClientConnectError (Table Ref × Ref)} {pending : Pending}
    (returned : connectCompletion reqId runtime outcome = some pending) :
    Reports messages (.connect runtime outcome) pending.record := by
  cases outcome with
  | error error =>
      obtain rfl := Option.some.inj returned
      cases error with
      | systemInfoCallError status =>
          have failed : Run.FailsWith messages (.connect runtime
              (.error (.systemInfoCallError status)) : Run Request Response Ref) status := rfl
          exact .of_failure failed (reportOf_connect runtime _ status) _
      | other text => exact .of_error (by decide) text .ack
  | ok connected =>
      obtain ⟨table, client⟩ := connected
      simp only [connectCompletion] at returned
      split at returned
      · next handle issued =>
          obtain rfl := Option.some.inj returned
          refine ⟨fun _ => ?_, fun positive => ?_, fun negative => ?_⟩
          · exact ⟨ne_zero_of_insertOwned issued, table, client, rfl, issued⟩
          · exact absurd positive (Int.lt_irrefl 0)
          · exact absurd negative (Int.lt_irrefl 0)
      · next error _ =>
          obtain rfl := Option.some.inj returned
          exact .of_error error.code_neg error.message .ack
      · cases returned

/-- What a call returns. -/
theorem reports_rpc {reqId : UInt64} {service : Service} {name : String} {bytes : ByteArray}
    {timeoutMillis : UInt64} {reply : Reply Request Response} :
    Reports messages (.rpc service name bytes timeoutMillis reply : Run Request Response Ref)
      (rpcCompletion reqId
        (call messages service name bytes (timeoutOf timeoutMillis) reply)).record := by
  rw [call_eq]
  cases asked : requestOf messages service name bytes with
  | error error => exact .of_error error.code_neg error.message .rpc
  | ok request =>
      cases answered : withDeadline (timeoutOf timeoutMillis) reply request with
      | error status =>
          have failed : Run.FailsWith messages
              (.rpc service name bytes timeoutMillis reply : Run Request Response Ref) status :=
            ⟨request, asked, answered⟩
          have code := Int.ne_of_gt (grpcStatusCode_pos status)
          simp only [Except.map, outcome, answered, rpcCompletion, if_neg code]
          exact .of_failure failed (reportOf_rpc rfl status) .rpc
      | ok response =>
          simp only [Except.map, outcome, answered, rpcCompletion, if_true]
          refine ⟨fun _ => ?_, fun positive => ?_, fun negative => ?_⟩
          · exact ⟨request, response, asked, answered, rfl⟩
          · exact absurd positive (Int.lt_irrefl 0)
          · exact absurd negative (Int.lt_irrefl 0)

theorem Run.reports {reqId : UInt64} {pending : Pending}
    (returned : run.completion messages reqId = some pending) :
    Reports messages run pending.record := by
  cases run with
  | connect runtime outcome => exact reports_connect returned
  | rpc service name bytes timeoutMillis reply =>
      obtain rfl := Option.some.inj returned
      exact reports_rpc

/-- A request fails with one status at most, and then it does not succeed. -/
theorem Run.FailsWith.only {status : Status} (failed : run.FailsWith messages status) :
    (∀ other, run.FailsWith messages other → other = status) ∧
      ∀ value, ¬ run.Succeeds messages value := by
  cases run with
  | connect runtime outcome =>
      obtain rfl : outcome = .error (.systemInfoCallError status) := failed
      refine ⟨fun other also => ?_, fun value succeeded => ?_⟩
      · exact (ClientConnectError.systemInfoCallError.inj (Except.error.inj also)).symm
      · cases value with
        | inl payload => exact succeeded
        | inr handle =>
            obtain ⟨_, _, _, connected, _⟩ := succeeded
            cases connected
  | rpc service name bytes timeoutMillis reply =>
      obtain ⟨request, asked, answered⟩ := failed
      refine ⟨fun other also => ?_, fun value succeeded => ?_⟩
      · obtain ⟨again, askedAgain, answeredAgain⟩ := also
        obtain rfl := Except.ok.inj (asked.symm.trans askedAgain)
        exact Except.error.inj (answeredAgain.symm.trans answered)
      · cases value with
        | inr handle => exact succeeded
        | inl payload =>
            obtain ⟨again, _, askedAgain, responded, _⟩ := succeeded
            obtain rfl := Except.ok.inj (asked.symm.trans askedAgain)
            cases answered.symm.trans responded

/-- The completion of a failure says it. -/
theorem Conveys.of_failure {status : Status} {failure : RpcFailure} {completion : Completion}
    (failed : run.FailsWith messages status)
    (code : completion.status = grpcStatusCode status)
    (report : ReportOf run status (grpcStatusCode status) failure)
    (payload : completion.payload = failure.encodeToVec) : Conveys messages run completion where
  failure := by
    intro other also
    obtain rfl := failed.only.1 other also
    rw [code]
    exact ⟨grpcStatusCode_pos other, failure, report, payload⟩
  success := fun value succeeded => absurd succeeded (failed.only.2 value)
  refusal := fun never _ => absurd failed (never status)

/-- The completion of a success says what it is for. -/
theorem Conveys.of_success {value : ByteArray ⊕ Handle} {completion : Completion}
    (succeeded : run.Succeeds messages value)
    (only : ∀ other, run.Succeeds messages other → other = value)
    (code : completion.status = 0) (given : run.value completion = value) :
    Conveys messages run completion where
  failure := fun _ failed => absurd succeeded (failed.only.2 value)
  success := by
    intro other also
    rw [only other also]
    exact ⟨code, given⟩
  refusal := fun _ never => absurd succeeded (never value)

/-- The completion of a request that neither failed nor succeeded is an error. -/
theorem Conveys.of_refusal {completion : Completion} (negative : completion.status < 0)
    (unfailed : ∀ status, ¬ run.FailsWith messages status)
    (unsucceeded : ∀ value, ¬ run.Succeeds messages value) : Conveys messages run completion where
  failure := fun status failed => absurd failed (unfailed status)
  success := fun value succeeded => absurd succeeded (unsucceeded value)
  refusal := fun _ _ => negative

/-- What connecting came to is what its completion says. -/
theorem conveys_connect {reqId : UInt64} {runtime : Handle}
    {outcome : Except ClientConnectError (Table Ref × Ref)} {pending : Pending}
    (returned : connectCompletion reqId runtime outcome = some pending) :
    Conveys messages (.connect runtime outcome) pending.record := by
  cases outcome with
  | error error =>
      obtain rfl := Option.some.inj returned
      cases error with
      | systemInfoCallError status =>
          have failed : Run.FailsWith messages (.connect runtime
              (.error (.systemInfoCallError status)) : Run Request Response Ref) status := rfl
          exact .of_failure failed rfl (reportOf_connect runtime _ status) rfl
      | other text =>
          refine .of_refusal (show ktErrFailed < 0 by decide) (fun status failed => ?_)
            fun value succeeded => ?_
          · cases failed
          · cases value with
            | inl payload => exact succeeded
            | inr handle =>
                obtain ⟨_, _, _, connected, _⟩ := succeeded
                cases connected
  | ok connected =>
      obtain ⟨table, client⟩ := connected
      have unfailed : ∀ status, ¬ Run.FailsWith messages
          (.connect runtime (.ok (table, client)) : Run Request Response Ref) status :=
        fun status failed => (by cases failed)
      -- A success names the handle that the insertion issued.
      have issues : ∀ value, Run.Succeeds messages
          (.connect runtime (.ok (table, client)) : Run Request Response Ref) value →
          ∃ handle, value = .inr handle ∧
            (table.insertOwned runtime (.client client)).2.1 = .ok handle := by
        intro value succeeded
        cases value with
        | inl payload => exact absurd succeeded id
        | inr handle =>
            obtain ⟨_, _, _, same, issued⟩ := succeeded
            cases same
            exact ⟨handle, rfl, issued⟩
      simp only [connectCompletion] at returned
      split at returned
      · next handle issued =>
          obtain rfl := Option.some.inj returned
          refine Conveys.of_success
            (show Run.Succeeds messages _ (.inr handle) from
              ⟨ne_zero_of_insertOwned issued, table, client, rfl, issued⟩) (fun other also => ?_)
            rfl rfl
          obtain ⟨again, rfl, issuedAgain⟩ := issues other also
          rw [Outcome.ok.inj (issued.symm.trans issuedAgain)]
      · next error rejected =>
          obtain rfl := Option.some.inj returned
          refine .of_refusal error.code_neg unfailed fun value succeeded => ?_
          obtain ⟨_, _, issued⟩ := issues value succeeded
          cases rejected.symm.trans issued
      · cases returned

/-- What a call came to is what its completion says. -/
theorem conveys_rpc {reqId : UInt64} {service : Service} {name : String} {bytes : ByteArray}
    {timeoutMillis : UInt64} {reply : Reply Request Response} :
    Conveys messages (.rpc service name bytes timeoutMillis reply : Run Request Response Ref)
      (rpcCompletion reqId
        (call messages service name bytes (timeoutOf timeoutMillis) reply)).record := by
  rw [call_eq]
  cases asked : requestOf messages service name bytes with
  | error error =>
      refine .of_refusal error.code_neg (fun status failed => ?_) fun value succeeded => ?_
      · obtain ⟨_, asks, _⟩ := failed
        cases asked.symm.trans asks
      · cases value with
        | inr handle => exact succeeded
        | inl payload =>
            obtain ⟨_, _, asks, _⟩ := succeeded
            cases asked.symm.trans asks
  | ok request =>
      cases answered : withDeadline (timeoutOf timeoutMillis) reply request with
      | error status =>
          have failed : Run.FailsWith messages
              (.rpc service name bytes timeoutMillis reply : Run Request Response Ref) status :=
            ⟨request, asked, answered⟩
          have code := Int.ne_of_gt (grpcStatusCode_pos status)
          simp only [Except.map, outcome, answered, rpcCompletion, if_neg code]
          exact .of_failure failed rfl (reportOf_rpc rfl status) rfl
      | ok response =>
          simp only [Except.map, outcome, answered, rpcCompletion, if_true]
          refine Conveys.of_success
            (show Run.Succeeds messages _ (.inl (messages.encode response)) from
              ⟨request, response, asked, answered, rfl⟩) (fun other also => ?_) rfl rfl
          cases other with
          | inr handle => exact absurd also id
          | inl payload =>
              obtain ⟨again, _, asks, responds, rfl⟩ := also
              obtain rfl := Except.ok.inj (asked.symm.trans asks)
              rw [Except.ok.inj (answered.symm.trans responds)]

theorem Run.conveys {reqId : UInt64} {pending : Pending}
    (returned : run.completion messages reqId = some pending) :
    Conveys messages run pending.record := by
  cases run with
  | connect runtime outcome => exact conveys_connect returned
  | rpc service name bytes timeoutMillis reply =>
      obtain rfl := Option.some.inj returned
      exact conveys_rpc

theorem Run.read_eq (malformed : ByteArray → String) (run : Run Request Response Ref)
    (completion : Completion) :
    run.read malformed completion =
      if completion.status = 0 then .ok (run.value completion)
      else .error (Client.failure malformed run.context completion) := by
  cases run with
  | connect runtime outcome =>
      by_cases success : completion.status = 0 <;>
        simp [read, KtClient.connect, Pump.Completion.isFailure, ktOk, success, Except.map, value,
          context]
  | rpc service name bytes timeoutMillis reply =>
      by_cases success : completion.status = 0 <;>
        simp [read, KtClient.call, Pump.Completion.isFailure, ktOk, success, Except.map, value,
          context]

/-- The caller reads a completion in the format it has. -/
theorem Reports.delivers {malformed : ByteArray → String} {completion : Completion}
    (reports : Reports messages run completion) (fits : completion.payload.size < 2 ^ 31) :
    Delivers messages malformed run completion where
  returned := by
    intro value read
    rw [run.read_eq] at read
    split at read
    · next success =>
        obtain rfl := Except.ok.inj read
        exact reports.success success
    · cases read
  failure := by
    intro positive
    obtain ⟨status, failure, failed, report, payload⟩ := reports.failure positive
    rw [payload] at fits
    have parsed := RpcFailure.parseFrom_encodeToVec fits
    rw [← payload] at parsed
    refine ⟨status, failure, failed, report, parsed, ?_⟩
    rw [run.read_eq, if_neg (Int.ne_of_gt positive), Client.failure, if_pos positive, parsed]
  text := by
    intro negative
    obtain ⟨text, payload⟩ := reports.text negative
    have message : errorMessage malformed completion = text := by
      rw [errorMessage, payload, RpcFailure.fromUTF8_toByteArray]
      rfl
    refine ⟨text, payload, ?_⟩
    rw [run.read_eq, if_neg (Int.ne_of_lt negative), Client.failure,
      if_neg (Int.lt_asymm negative), message]

/-- The caller throws what failed and returns what succeeded. -/
theorem Conveys.hands {malformed : ByteArray → String} {completion : Completion}
    (conveys : Conveys messages run completion) (fits : completion.payload.size < 2 ^ 31) :
    Hands messages malformed run completion where
  thrown := by
    intro status failed
    obtain ⟨positive, failure, report, payload⟩ := conveys.failure status failed
    rw [payload] at fits
    have parsed := RpcFailure.parseFrom_encodeToVec fits
    rw [← payload] at parsed
    refine ⟨positive, failure, report, ?_⟩
    rw [run.read_eq, if_neg (Int.ne_of_gt positive), Client.failure, if_pos positive, parsed]
  returned := by
    intro value succeeded
    obtain ⟨success, given⟩ := conveys.success value succeeded
    rw [run.read_eq, if_pos success, given]

end Reports

/-! ## Whole runs -/

section Runs

variable (messages : Messages Request Response)
  (runs : Exchange.Call → Option (Run Request Response Ref))

/-- The operations of clients return what they return. -/
def Answers : Exchange.Action → Prop
  | .native (.complete call pending) => ∀ run, runs call = some run →
      run.completion messages (requestId call) = some pending
  | _ => True

/-- The requests of clients among any others. -/
def system : GuardedSystem Exchange.State Exchange.Action :=
  Exchange.machine.restrict fun _ action => Answers messages runs action

variable {messages runs}

/-- Only an operation that completes returns something. -/
theorem returned_step (state : KtBridge.Request.State) (action : KtBridge.Request.Action)
    (other : ∀ call result, action ≠ .complete call result) :
    (KtBridge.Request.effect requestId state action).returned = state.returned := by
  cases action with
  | complete call result => exact absurd rfl (other call result)
  | register call =>
      simp only [KtBridge.Request.effect]
      split <;> rfl
  | retire call result =>
      simp only [KtBridge.Request.effect]
      split <;> rfl
  | cancel id =>
      simp only [KtBridge.Request.effect]
      split <;> rfl
  | _ => rfl

/-- What was returned for a client's request was returned by its operation. -/
theorem returned_answers {state : Exchange.State} (reached : (system messages runs).Reachable state)
    {call : Exchange.Call} {pending : Pending} {run : Run Request Response Ref}
    (asks : runs call = some run) (returned : state.native.returned call = some pending) :
    run.completion messages (requestId call) = some pending := by
  have invariant : (system messages runs).Invariant fun state => ∀ call pending run,
      runs call = some run → state.native.returned call = some pending →
        run.completion messages (requestId call) = some pending := by
    refine ⟨fun call pending run asks returned => (by cases returned), ?_⟩
    intro state action _ answers ready call pending run asks returned
    cases action with
    | pump action =>
        refine answers call pending run asks ?_
        cases action <;> exact returned
    | runHandler caller =>
        refine answers call pending run asks ?_
        rwa [← returned_step state.native (.cancel (requestId caller)) (by simp)]
    | native action =>
        by_cases completes : ∃ caller result, action = .complete caller result
        · obtain ⟨caller, result, rfl⟩ := completes
          by_cases same : call = caller
          · subst same
            change Function.update state.native.returned call (some result) call = _ at returned
            rw [Function.update_self] at returned
            cases returned
            exact ready.2 run asks
          · change Function.update state.native.returned caller (some result) call = _ at returned
            rw [Function.update_of_ne same] at returned
            exact answers call pending run asks returned
        · refine answers call pending run asks ?_
          rwa [← returned_step state.native action
            fun caller result same => completes ⟨caller, result, same⟩]
  exact invariant.reachable reached call pending run asks returned

/-- Every completion pushed for a client's request is of the format its sign stands for. -/
theorem pushed_reports {state : Exchange.State} (reached : (system messages runs).Reachable state)
    {call : Exchange.Call} {pending : Pending} {run : Run Request Response Ref}
    (asks : runs call = some run) (pushed : (some call, pending) ∈ state.native.pushed) :
    Reports messages run pending.record := by
  have native := Exchange.native_projects.reachable reached.of_restrict
  obtain rfl | rfl | ⟨message, rfl⟩ | ⟨returned, -⟩ :=
    ((KtBridge.Request.spoken_invariant requestId).reachable native).pushed call pending pushed
  · exact .of_error (by decide) "runtime is shutting down" .ack
  · exact .of_error (by decide) "cancelled" .ack
  · exact .of_error (by decide) ("panic: " ++ message) .ack
  · exact run.reports (returned_answers reached asks returned)

end Runs

/-- The completions that the bridge makes itself, instead of what an operation returns. -/
def Bridges (reqId : UInt64) (pending : Pending) : Prop :=
  pending = KtBridge.Request.shutdownCompletion reqId ∨
    pending = KtBridge.Request.cancelledCompletion reqId ∨
    ∃ message, pending = KtBridge.Request.panicCompletion reqId message

/-- What the completions of clients' requests are, and what their callers make of them. An array
of the JVM has fewer than `2 ^ 31` bytes. -/
structure Signed (messages : Messages Request Response) (malformed : ByteArray → String)
    (runs : Exchange.Call → Option (Run Request Response Ref)) (state : Exchange.State) : Prop where
  pushed : ∀ call run pending, runs call = some run → (some call, pending) ∈ state.native.pushed →
    Reports messages run pending.record
  own : ∀ call run pending, runs call = some run → (some call, pending) ∈ state.native.pushed →
    Bridges (requestId call) pending ∨ state.native.returned call = some pending
  conveyed : ∀ call run pending, runs call = some run →
    state.native.returned call = some pending → Conveys messages run pending.record
  received : ∀ call run completion, runs call = some run →
    state.pump.continuation call = .received (.value completion) →
      completion.payload.size < 2 ^ 31 → Delivers messages malformed run completion
  handed : ∀ call run completion, runs call = some run →
    state.pump.continuation call = .received (.value completion) →
      completion.payload.size < 2 ^ 31 →
        (∃ pending, Bridges (requestId call) pending ∧ pending.record = completion) ∨
          Hands messages malformed run completion

/-- The sign of a status tells the format of a payload, and callers go by it: a failure reaches
its caller as the failure it is, and a success as what it is for. -/
theorem sign_tells_format {messages : Messages Request Response} (malformed : ByteArray → String)
    {runs : Exchange.Call → Option (Run Request Response Ref)} {state : Exchange.State}
    (reached : (system messages runs).Reachable state) : Signed messages malformed runs state := by
  have pushedOf : ∀ call completion,
      state.pump.continuation call = .received (.value completion) →
        ∃ pending, (some call, pending) ∈ state.native.pushed ∧ pending.record = completion := by
    intro call completion received
    have there : completion ∈ (state.pump.continuation call).value := by
      rw [received]
      exact Multiset.mem_singleton_self completion
    obtain ⟨pending, pushed, same⟩ := Exchange.pushed_of_value reached.of_restrict there
    exact ⟨pending, pushed, same⟩
  have own : ∀ call pending, (some call, pending) ∈ state.native.pushed →
      Bridges (requestId call) pending ∨ state.native.returned call = some pending := by
    intro call pending pushed
    have native := Exchange.native_projects.reachable reached.of_restrict
    obtain shut | cancelled | panicked | ⟨returned, -⟩ :=
      ((KtBridge.Request.spoken_invariant requestId).reachable native).pushed call pending pushed
    · exact Or.inl (Or.inl shut)
    · exact Or.inl (Or.inr (Or.inl cancelled))
    · exact Or.inl (Or.inr (Or.inr panicked))
    · exact Or.inr returned
  refine ⟨fun _ _ _ asks pushed => pushed_reports reached asks pushed,
    fun call _ pending _ pushed => own call pending pushed,
    fun _ run _ asks returned => run.conveys (returned_answers reached asks returned), ?_, ?_⟩
  · intro call run completion asks received fits
    obtain ⟨pending, pushed, rfl⟩ := pushedOf call completion received
    exact (pushed_reports reached asks pushed).delivers fits
  · intro call run completion asks received fits
    obtain ⟨pending, pushed, rfl⟩ := pushedOf call completion received
    rcases own call pending pushed with bridges | returned
    · exact Or.inl ⟨pending, bridges, rfl⟩
    · exact Or.inr ((run.conveys (returned_answers reached asks returned)).hands fits)

/-- Messages whose bytes are their content. -/
def plainMessages : Messages Unit ByteArray where
  decode := fun _ _ _ => .ok ()
  unit := ()
  encode := fun response => response

/-- A workflow that is already started. -/
def alreadyStarted : Status where
  code := .alreadyExists
  message := "already started"
  details := ⟨#[1, 2, 3]⟩
  sources := []
  failed := by decide

def startAgain : Run Unit ByteArray Unit :=
  .rpc .workflow "StartWorkflowExecution" ByteArray.empty 0 ⟨fun _ => .error alreadyStarted, false⟩

def conflict : Pending :=
  ((Pending.error 1 6 "already started").withKind .rpc).withPayload
    (RpcFailure.encodeToVec ⟨"already started", ⟨#[1, 2, 3]⟩⟩)

/-- A server that does not know the client. -/
def unauthenticated : Status where
  code := .unauthenticated
  message := "who are you"
  details := ⟨#[7]⟩
  sources := []
  failed := by decide

def connectRefused : Run Unit ByteArray Unit :=
  .connect (Handle.encode kindRuntime 1 0) (.error (.systemInfoCallError unauthenticated))

def refusal : Pending :=
  ((Pending.error 2 16 "who are you").withKind .clientConnected).withPayload
    (RpcFailure.encodeToVec ⟨"who are you", ⟨#[7]⟩⟩)

/-- A connection made under the only runtime there is. -/
def connectMade : Run Unit ByteArray Unit :=
  .connect (Handle.encode kindRuntime 1 0) (.ok ((Table.empty.insert (.runtime ())).1, ()))

def connected : Pending :=
  ((Pending.ack 3).withKind .clientConnected).withAux0 (Handle.encode kindClient 1 1)

/-- The requests: a call that fails, a connection that is refused, and one that is made. -/
def threeRequests (call : Exchange.Call) : Option (Run Unit ByteArray Unit) :=
  if call = 0 then some startAgain
  else if call = 1 then some connectRefused
  else if call = 2 then some connectMade
  else none

/-- A request is made, its operation returns, and its completion is received. -/
def receives (call : Nat) (pending : Pending) : List Exchange.Action :=
  [.pump (.enter call), .pump (.store call), .pump (.readDead call), .pump (.readRunning call),
    .native (.reserve call), .native (.register call), .native (.track call),
    .native (.unreserve call), .native (.spawn call), .pump (.startReturns call),
    .pump (.invokeOnCancellation call), .native (.complete call pending),
    .native (.retire call pending), .native (.answer call pending), .pump .readTimeout,
    .native (.poll 0 64 250), .native (.pass 0 64 250 false Queue.new [pending] false),
    .native (.write 0 pending []), .native (.finishPoll 0),
    .pump (.poll 250 ktOk [pending.record]), .pump (.readSize [pending.record]),
    .pump (.dispatch pending.record []), .pump (.resume call pending.record []),
    .pump (.receive call (.value pending.record)), .pump .repeatLoop]

/-- The three requests, one after the other. -/
def receivedAll : List Exchange.Action :=
  receives 0 conflict ++ receives 1 refusal ++ receives 2 connected

theorem reachable_receivedAll : (system plainMessages threeRequests).Reachable
    (Exchange.machine.after Exchange.start receivedAll) := by
  have runs : Exchange.machine.Runs Exchange.start receivedAll := by decide +kernel
  have first : startAgain.completion plainMessages (requestId 0) = some conflict := by
    decide +kernel
  have second : connectRefused.completion plainMessages (requestId 1) = some refusal := by
    decide +kernel
  have third : connectMade.completion plainMessages (requestId 2) = some connected := by
    decide +kernel
  have answers : ∀ action ∈ receivedAll, Answers plainMessages threeRequests action := by
    simp [receivedAll, receives, Answers, threeRequests, first, second, third]
  exact GuardedSystem.Reachable.start.run (runs.restrict answers)

/-- A completion with another status is not the bridge's own. -/
private theorem not_bridges {call : Nat} {completion : Completion}
    (other : completion.status ≠ ktErrShutdown ∧ completion.status ≠ ktErrCancelled ∧
      completion.status ≠ ktErrPanic) :
    ¬ ∃ pending, Bridges (requestId call) pending ∧ pending.record = completion := by
  rintro ⟨pending, rfl | rfl | ⟨message, rfl⟩, rfl⟩
  · exact other.1 rfl
  · exact other.2.1 rfl
  · exact other.2.2 rfl

/-- The call and the refused connection throw what the server meant, and the connection that
was made gives its handle. -/
theorem sign_tells_format_received :
    startAgain.read (fun _ => "") conflict.record =
        .error (.core ⟨"StartWorkflowExecution failed: already started", none, some 6,
          some ⟨#[1, 2, 3]⟩⟩) ∧
      connectRefused.read (fun _ => "") refusal.record =
        .error (.core ⟨"could not connect: who are you", none, some 16, some ⟨#[7]⟩⟩) ∧
      connectMade.read (fun _ => "") connected.record =
        .ok (.inr (Handle.encode kindClient 1 1)) := by
  have signed := sign_tells_format (fun _ => "") reachable_receivedAll
  have first := (signed.handed 0 startAgain conflict.record rfl (by decide +kernel)
    (by decide +kernel)).resolve_left (not_bridges (by decide))
  have second := (signed.handed 1 connectRefused refusal.record rfl (by decide +kernel)
    (by decide +kernel)).resolve_left (not_bridges (by decide))
  have third := (signed.handed 2 connectMade connected.record rfl (by decide +kernel)
    (by decide +kernel)).resolve_left (not_bridges (by decide))
  refine ⟨?_, ?_, ?_⟩
  · obtain ⟨-, failure, report, read⟩ := first.thrown alreadyStarted ⟨(), rfl, rfl⟩
    rw [read, report.message (.inr (by decide)), report.details]
    rfl
  · obtain ⟨-, failure, report, read⟩ := second.thrown unauthenticated rfl
    rw [read, report.message (.inl rfl), report.details]
    rfl
  · refine third.returned (.inr (Handle.encode kindClient 1 1)) ⟨by decide, _, _, rfl, ?_⟩
    decide

end KtBridge.Client
