import KtBridge.Foundation.Listing
import KtBridge.Foundation.System
import KtBridge.Queue
import Mathlib.Data.List.AList

/-! # The pump as a guarded system

Any number of `Pump.request` calls on their callers' threads, and the pump thread
that polls, dispatches completions and at its end fails what is left. Each access to
shared state is a step of its own: a read of `dead` or `running`, an operation on the
map, a read of `isActive`, a resumption. What comes from outside (how `start` ends,
what a poll returns, a throwable on the pump thread, what the map's size is estimated
at and its iterators come to) is part of the action.
-/

namespace KtBridge.Pump

open Foundation

/-- One call of `Pump.request`; calls are numbered as they draw their ids. -/
abbrev Call := Nat

/-- The id a call draws from `AtomicLong(1)`, which wraps in 64 bits. -/
def requestId (call : Nat) : UInt64 := UInt64.ofNat (call + 1)

/-- A completion copied out of the batch has the fields of its record. -/
abbrev Completion := Record

def Completion.isFailure (completion : Completion) : Bool := completion.status ≠ ktOk

/-- The public form of a failure. -/
structure CoreException where
  message : String
  statusCode : Int
  deriving DecidableEq

/-- A failure reported by the native bridge. -/
structure BridgeException where
  code : Int
  message : String
  deriving DecidableEq

def BridgeException.asCore (exception : BridgeException) (context : String) : CoreException where
  message := context ++ ": " ++ exception.message
  statusCode := exception.code

/-- What a call may be failed with: a bridge failure in either form, or anything else
that `start` threw. -/
inductive Throwable where
  | bridge (exception : BridgeException)
  | core (exception : CoreException)
  | other (text : String)
  deriving DecidableEq

/-- What a failing `start` is reported as. -/
def Throwable.mapped : Throwable → Throwable
  | .bridge exception => .core (exception.asCore "request could not be issued")
  | thrown => thrown

/-- The failure of a request made on a stopped pump. -/
def notIssued (reqId : UInt64) : Throwable :=
  .core (BridgeException.asCore
    ⟨ktErrShutdown, "bridge pump has stopped; request " ++ toString reqId.toInt64 ++ " not issued"⟩
    "request could not be issued")

/-- The failure of a request that the pump thread leaves behind. -/
def notCompleted (reqId : UInt64) : Throwable :=
  .core (BridgeException.asCore
    ⟨ktErrShutdown, "bridge shut down before request " ++ toString reqId.toInt64 ++ " completed"⟩
    "request could not complete")

/-- What a continuation is resumed with. -/
inductive Resumption where
  | value (completion : Completion)
  | exception (thrown : Throwable)
  deriving DecidableEq

/-- A cancellable continuation. A resumed one waits to be dispatched; until then a
cancellation still takes back a value. -/
inductive Continuation where
  | active
  | cancelled
  | resumed (result : Resumption)
  | received (result : Resumption)
  | revoked (completion : Completion)
  deriving DecidableEq

/-- Whether a resumption is accepted: one of a cancelled continuation is ignored, and
one of a continuation already resumed throws. -/
def Continuation.resumable : Continuation → Bool
  | active => true
  | cancelled => true
  | _ => false

/-- How far a call of `Pump.request` has come. -/
inductive Phase where
  | outside
  /-- The id is drawn; the continuation is not in the map yet. -/
  | entered
  | stored
  /-- `dead` was read false. -/
  | checking
  /-- The pump is stopped; the id is about to be removed. -/
  | refused
  /-- The removal found the continuation, which is about to be failed. -/
  | withdrawn
  | starting
  | threw (thrown : Throwable)
  /-- The id was removed, found or not; the code does not look at which. -/
  | retired (thrown : Throwable) (found : Bool)
  /-- `isActive` was read true. -/
  | raising (thrown : Throwable)
  /-- `start` returned; the cancellation handler is about to be registered. -/
  | started
  /-- The block of `suspendCancellableCoroutine` is over. -/
  | left
  deriving DecidableEq

/-- What the pump thread is doing. -/
inductive PumpPhase where
  | looping
  | polling (timeoutMillis : Int)
  | polled (batch : List Completion)
  | dispatching (batch : List Completion)
  /-- The completion's continuation was taken out of the map. -/
  | taken (call : Call) (completion : Completion) (rest : List Completion)
  /-- In the `finally` block, before `dead` is set. -/
  | exiting
  /-- `dead` is set; the keys are about to be counted. -/
  | dying
  /-- As many keys are about to be listed; `seen` were in the map at the count. -/
  | listing (size : Nat) (seen : Finset UInt64)
  | failing (stragglers : List UInt64)
  /-- A straggler's continuation was taken out of the map. -/
  | withdrew (call : Call) (reqId : UInt64) (rest : List UInt64)
  /-- Its `isActive` was read true. -/
  | raising (call : Call) (reqId : UInt64) (rest : List UInt64)
  | freeing
  | terminated
  /-- `failPending` threw; the thread is gone without `pollerFree`. -/
  | crashed
  deriving DecidableEq

/-- The pump with its callers. The last four fields are history: the handles freed for
discarded completions, the completions handed to `onPushed`, the calls of `pollerFree`,
and the calls whose continuation was resumed once too often. -/
structure State where
  entered : Nat
  phase : Call → Phase
  continuation : Call → Continuation
  pending : AList fun _ : UInt64 => Call
  running : Bool
  dead : Bool
  pump : PumpPhase
  released : List (Handle × UInt8)
  pushed : List Completion
  pollerFrees : Nat
  clashes : List Call

def start : State where
  entered := 0
  phase := fun _ => .outside
  continuation := fun _ => .active
  pending := ∅
  running := true
  dead := false
  pump := .looping
  released := []
  pushed := []
  pollerFrees := 0
  clashes := []

def batchSize : Nat := 64

def pollTimeoutMillis : Int := 250

/-- What `releaseDiscarded` frees: the handle a successful creation made. -/
def releaseDiscarded (completion : Completion) : List (Handle × UInt8) :=
  if completion.isFailure then []
  else if completion.kind = KtKind.ephemeralStarted.discriminant then
    [(completion.aux0, kindEphemeral)]
  else if completion.kind = KtKind.clientConnected.discriminant then
    [(completion.aux0, kindClient)]
  else []

namespace State

def setPhase (state : State) (call : Call) (phase : Phase) : State :=
  { state with phase := Function.update state.phase call phase }

/-- Resume a continuation, or record that the attempt throws. -/
def resume (state : State) (call : Call) (result : Resumption) : State :=
  match state.continuation call with
  | .active =>
      { state with continuation := Function.update state.continuation call (.resumed result) }
  | .cancelled => state
  | _ => { state with clashes := state.clashes ++ [call] }

end State

/-- The steps: of a caller, of its coroutine, of `close`, and of the pump thread. -/
inductive Action where
  | enter (call : Call)
  | store (call : Call)
  | readDead (call : Call)
  | readRunning (call : Call)
  | withdraw (call : Call)
  | refuse (call : Call)
  | startReturns (call : Call)
  | startThrows (call : Call) (thrown : Throwable)
  | retire (call : Call) (thrown : Throwable)
  | readActive (call : Call) (thrown : Throwable) (found : Bool)
  | raise (call : Call) (thrown : Throwable)
  | invokeOnCancellation (call : Call)
  | cancel (call : Call)
  | receive (call : Call) (result : Resumption)
  | revoke (call : Call) (completion : Completion)
  | close
  | readTimeout
  | poll (timeoutMillis rc : Int) (batch : List Completion)
  | readSize (batch : List Completion)
  | repeatLoop
  | throw
  | dispatch (completion : Completion) (rest : List Completion)
  | resume (call : Call) (completion : Completion) (rest : List Completion)
  | setDead
  | countKeys (size : Nat)
  | listKeys (size : Nat) (seen : Finset UInt64) (stragglers : List UInt64)
  | findNone (size : Nat) (seen : Finset UInt64)
  | failNext (reqId : UInt64) (rest : List UInt64)
  | failActive (call : Call) (reqId : UInt64) (rest : List UInt64)
  | failResume (call : Call) (reqId : UInt64) (rest : List UInt64)
  | failDone
  | pollerFree
  deriving DecidableEq

/-- Where a throwable of the loop may come from: a poll, the copying of a record, a
release. Between the removal and the resumption of a continuation nothing throws. -/
def PumpPhase.inLoop : PumpPhase → Bool
  | looping => true
  | polling _ => true
  | polled _ => true
  | dispatching _ => true
  | _ => false

/-- The ids that have a continuation in the map. -/
def State.keys (state : State) : Finset UInt64 := state.pending.keys.toFinset

def guard (state : State) : Action → Prop
  | .enter call => call = state.entered
  | .store call => state.phase call = .entered
  | .readDead call => state.phase call = .stored
  | .readRunning call => state.phase call = .checking
  | .withdraw call => state.phase call = .refused
  | .refuse call => state.phase call = .withdrawn
  | .startReturns call => state.phase call = .starting
  | .startThrows call _ => state.phase call = .starting
  | .retire call thrown => state.phase call = .threw thrown
  | .readActive call thrown found => state.phase call = .retired thrown found
  | .raise call thrown => state.phase call = .raising thrown
  | .invokeOnCancellation call => state.phase call = .started
  | .cancel call => call < state.entered ∧ state.continuation call = .active
  | .receive call result => state.continuation call = .resumed result
  | .revoke call completion => state.continuation call = .resumed (.value completion)
  | .close => True
  | .readTimeout => state.pump = .looping
  | .poll timeoutMillis _ batch =>
      state.pump = .polling timeoutMillis ∧ batch.length ≤ batchSize
  | .readSize batch => state.pump = .polled batch
  | .repeatLoop => state.pump = .dispatching []
  | .throw => state.pump.inLoop
  | .dispatch completion rest => state.pump = .dispatching (completion :: rest)
  | .resume call completion rest => state.pump = .taken call completion rest
  | .setDead => state.pump = .exiting
  -- The size of a map that others change is an estimate.
  | .countKeys _ => state.pump = .dying
  | .listKeys size seen stragglers =>
      state.pump = .listing size seen ∧ Lists size (seen ∩ state.keys) state.keys stragglers
  | .findNone size seen =>
      state.pump = .listing size seen ∧ FindsNone size (seen ∩ state.keys)
  | .failNext id rest => state.pump = .failing (id :: rest)
  | .failActive call id rest => state.pump = .withdrew call id rest
  | .failResume call id rest => state.pump = .raising call id rest
  | .failDone => state.pump = .failing []
  | .pollerFree => state.pump = .freeing

instance (state : State) (action : Action) : Decidable (guard state action) := by
  cases action <;> unfold guard <;> infer_instance

def effect (state : State) : Action → State
  | .enter call =>
      { state.setPhase call .entered with
        entered := state.entered + 1
        continuation := Function.update state.continuation call .active }
  | .store call =>
      { state.setPhase call .stored with pending := state.pending.insert (requestId call) call }
  | .readDead call => state.setPhase call (if state.dead then .refused else .checking)
  | .readRunning call => state.setPhase call (if state.running then .starting else .refused)
  | .withdraw call =>
      if requestId call ∈ state.pending then
        { state.setPhase call .withdrawn with pending := state.pending.erase (requestId call) }
      else state.setPhase call .left
  | .refuse call =>
      (state.resume call (.exception (notIssued (requestId call)))).setPhase call .left
  | .startReturns call => state.setPhase call .started
  | .startThrows call thrown => state.setPhase call (.threw thrown)
  | .retire call thrown =>
      { state.setPhase call (.retired thrown (requestId call ∈ state.pending)) with
        pending := state.pending.erase (requestId call) }
  | .readActive call thrown _ =>
      state.setPhase call (if state.continuation call = .active then .raising thrown else .left)
  | .raise call thrown => (state.resume call (.exception thrown.mapped)).setPhase call .left
  | .invokeOnCancellation call => state.setPhase call .left
  | .cancel call =>
      { state with continuation := Function.update state.continuation call .cancelled }
  | .receive call result =>
      { state with continuation := Function.update state.continuation call (.received result) }
  | .revoke call completion =>
      { state with
        continuation := Function.update state.continuation call (.revoked completion)
        released := state.released ++ releaseDiscarded completion }
  | .close => { state with running := false }
  | .readTimeout =>
      { state with pump := .polling (if state.running then pollTimeoutMillis else 0) }
  | .poll _ rc batch => { state with pump := if rc ≠ ktOk then .exiting else .polled batch }
  | .readSize batch =>
      { state with pump := if ¬ state.running ∧ batch = [] then .exiting else .dispatching batch }
  | .repeatLoop => { state with pump := .looping }
  | .throw => { state with pump := .exiting }
  | .dispatch completion rest =>
      if completion.reqId = 0 then
        { state with pushed := state.pushed ++ [completion], pump := .dispatching rest }
      else
        match state.pending.lookup completion.reqId with
        | some call =>
            { state with
              pending := state.pending.erase completion.reqId
              pump := .taken call completion rest }
        | none =>
            { state with
              released := state.released ++ releaseDiscarded completion
              pump := .dispatching rest }
  | .resume call completion rest =>
      { state.resume call (.value completion) with
        released := state.released ++
          if state.continuation call = .cancelled then releaseDiscarded completion else []
        -- A throwing resumption ends the loop.
        pump := if (state.continuation call).resumable then .dispatching rest else .exiting }
  | .setDead => { state with dead := true, pump := .dying }
  | .countKeys size => { state with pump := .listing size state.keys }
  | .listKeys _ _ stragglers => { state with pump := .failing stragglers }
  -- The iterator's exception leaves `failPending`.
  | .findNone _ _ => { state with pump := .crashed }
  | .failNext id rest =>
      match state.pending.lookup id with
      | some call =>
          { state with pending := state.pending.erase id, pump := .withdrew call id rest }
      | none => { state with pump := .failing rest }
  | .failActive call id rest =>
      { state with
        pump := if state.continuation call = .active then .raising call id rest
          else .failing rest }
  | .failResume call id rest =>
      { state.resume call (.exception (notCompleted id)) with
        pump := if (state.continuation call).resumable then .failing rest else .crashed }
  | .failDone => { state with pump := .freeing }
  | .pollerFree => { state with pollerFrees := state.pollerFrees + 1, pump := .terminated }

def machine : GuardedSystem State Action where
  start := start
  guard := guard
  effect := effect

instance (state : State) (action : Action) : Decidable (machine.guard state action) :=
  inferInstanceAs (Decidable (guard state action))

end KtBridge.Pump
