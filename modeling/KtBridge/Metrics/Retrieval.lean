import KtBridge.Queue
import KtBridge.Metrics.Ledger

/-! # Retrieving what the meter holds

Threads call `kt_runtime_retrieve_metrics` on one runtime while Core records and logs. A call
drains the meter and the logs into one encoded batch, which stays behind under a mutex until some
call has copied it out. Some of the calls are made by the loop of `KtBridge.retrieveMetrics`.
-/

namespace KtBridge.Metrics

open Foundation

abbrev Thread := Nat

/-- What a caller hands in: whether its pointers are null, and how much `out` holds. -/
structure Buffer where
  out : Bool
  cap : UInt32
  outLen : Bool
  deriving DecidableEq

/-- How a call ended, with what it wrote to `out_len` and to `out`. -/
structure Written where
  result : Outcome Unit
  length : Option UInt32
  bytes : ByteArray
  deriving DecidableEq

/-- `guard`: the status of an export. -/
def Written.status (written : Written) : Int :=
  match written.result with
  | .ok () => ktOk
  | .error error => error.code
  | .panic => ktErrPanic

def writeOut (src : ByteArray) (buffer : Buffer) : Written :=
  if !buffer.outLen then ⟨.error (.invalidArgument "out_len is null"), none, .empty⟩
  else
    let length := some (UInt32.ofNat src.size)
    if src.size > buffer.cap.toNat then ⟨.error .bufferTooSmall, length, .empty⟩
    else if src.size ≠ 0 then
      if !buffer.out then ⟨.error (.invalidArgument "out is null"), length, .empty⟩
      else ⟨.ok (), length, src⟩
    else ⟨.ok (), length, .empty⟩

/-- How far a call of `kt_runtime_retrieve_metrics` has come. -/
inductive Phase (Double : Type) where
  | idle
  /-- The handle is about to be looked up. -/
  | resolving (buffer : Buffer)
  | locking (buffer : Buffer)
  /-- No batch is pending; the meter is about to be drained. -/
  | draining (buffer : Buffer)
  /-- The meter is drained; the logs are about to be fetched. -/
  | fetching (buffer : Buffer) (metrics : MetricBatch Double)
  | writing (buffer : Buffer)
  | returned (written : Written)
  deriving DecidableEq

/-- Whether the call has the lock. -/
def Phase.inside {Double : Type} : Phase Double → Bool
  | draining _ | fetching _ _ | writing _ => true
  | _ => false

/-- Whether no call is under way. -/
def Phase.free {Double : Type} : Phase Double → Bool
  | idle | returned _ => true
  | _ => false

/-- Where the loop of `KtBridge.retrieveMetrics` is. -/
inductive Loop where
  | outside
  | running (cap : Int32) (retries : Nat)
  | finished (bytes : ByteArray)
  /-- `check(size > cap)` threw. -/
  | invalid (size : Int32)
  /-- A `KtBridgeException` with this code. -/
  | thrown (code : Int)
  deriving DecidableEq

def Loop.isRunning : Loop → Bool
  | running _ _ => true
  | _ => false

/-- One drain: what the meter gave, and the logs that Core had. -/
structure Drained (Double : Type) where
  metrics : MetricBatch Double
  logs : List LogRecord

/-- `drain_metrics`. -/
def Drained.batch {Double : Type} (drained : Drained Double) : MetricBatch Double :=
  { drained.metrics with logs := drained.metrics.logs ++ drained.logs }

/-- What the runtime is made of: whether it has a meter, what Core's log buffer holds after one
more record, and the encoding of batches. -/
structure Setting (Double : Type) where
  bufferMetrics : Bool
  keep : List LogRecord → LogRecord → List LogRecord
  encode : MetricBatch Double → ByteArray

/-- The runtime with its callers. The last three fields are history: the logs written, the
drains made, and the batches copied out by the calls that returned `KT_OK`. -/
structure Retrieval (Double : Type) where
  ledger : Ledger Double
  logs : List LogRecord
  metricBatch : Option ByteArray
  holder : Option Thread
  phase : Thread → Phase Double
  loop : Thread → Loop
  logged : List LogRecord
  drains : List (Drained Double)
  copied : List ByteArray

namespace Retrieval

variable {Double : Type}

def start : Retrieval Double where
  ledger := .start
  logs := []
  metricBatch := none
  holder := none
  phase := fun _ => .idle
  loop := fun _ => .outside
  logged := []
  drains := []
  copied := []

def setPhase (state : Retrieval Double) (thread : Thread) (phase : Phase Double) :
    Retrieval Double :=
  { state with phase := Function.update state.phase thread phase }

def setLoop (state : Retrieval Double) (thread : Thread) (loop : Loop) : Retrieval Double :=
  { state with loop := Function.update state.loop thread loop }

/-- The native call of the loop, with buffers of its own. -/
def loopBuffer (cap : Int32) : Buffer where
  out := true
  cap := cap.toUInt32
  outLen := true

inductive Action (Double : Type) where
  | create (kind : UInt32) (params : MetricParameters)
  | record (sample : Sample Double)
  | log (record : LogRecord)
  | call (thread : Thread) (buffer : Buffer)
  /-- `HANDLES.runtime`, with its error. -/
  | resolve (thread : Thread) (buffer : Buffer) (refusal : Option KtError)
  | lock (thread : Thread) (buffer : Buffer)
  | drain (thread : Thread) (buffer : Buffer)
  | fetch (thread : Thread) (buffer : Buffer) (metrics : MetricBatch Double)
  | write (thread : Thread) (buffer : Buffer)
  | retrieveMetrics (thread : Thread)
  | next (thread : Thread) (written : Written) (cap : Int32) (retries : Nat)

/-- Whether Core records or logs. -/
def Action.recording : Action Double → Bool
  | create _ _ | record _ | log _ => true
  | _ => false

/-- The thread of a step that retrieves. -/
def Action.thread? : Action Double → Option Thread
  | create _ _ | record _ | log _ => none
  | call thread _ | resolve thread _ _ | lock thread _ | drain thread _ | fetch thread _ _ => thread
  | write thread _ | retrieveMetrics thread | next thread _ _ _ => thread

def guard (setting : Setting Double) (state : Retrieval Double) : Action Double → Prop
  | .create _ _ => setting.bufferMetrics
  | .record sample => setting.bufferMetrics ∧ Ledger.guard state.ledger (.record sample)
  | .log _ => True
  | .call thread _ => (state.phase thread).free ∧ !(state.loop thread).isRunning
  | .resolve thread buffer refusal => state.phase thread = .resolving buffer ∧
      ∀ error ∈ refusal, error = .staleHandle ∨ error = .wrongHandleKind
  | .lock thread buffer => state.phase thread = .locking buffer ∧ state.holder = none
  | .drain thread buffer => state.phase thread = .draining buffer
  | .fetch thread buffer metrics => state.phase thread = .fetching buffer metrics
  | .write thread buffer => state.phase thread = .writing buffer
  | .retrieveMetrics thread => (state.phase thread).free ∧ !(state.loop thread).isRunning
  | .next thread written cap retries => state.phase thread = .returned written ∧
      state.loop thread = .running cap retries

instance decidableGuard [DecidableEq Double] (setting : Setting Double) (state : Retrieval Double)
    (action : Action Double) : Decidable (guard setting state action) := by
  cases action <;> unfold guard <;> infer_instance

/-- What the loop makes of a native call. -/
def afterCall (state : Retrieval Double) (thread : Thread) (written : Written) (cap : Int32)
    (retries : Nat) : Retrieval Double :=
  let size := (written.length.getD 0).toInt32
  if written.status = ktErrBufferTooSmall then
    if size > cap then
      (state.setLoop thread (.running size (retries + 1))).setPhase thread
        (.resolving (loopBuffer size))
    else state.setLoop thread (.invalid size)
  else if written.status ≠ ktOk then state.setLoop thread (.thrown written.status)
  else state.setLoop thread (.finished (written.bytes.extract 0 size.toNatClampNeg))

def effect (setting : Setting Double) (state : Retrieval Double) : Action Double → Retrieval Double
  | .create kind params => { state with ledger := Ledger.effect state.ledger (.create kind params) }
  | .record sample => { state with ledger := Ledger.effect state.ledger (.record sample) }
  | .log record =>
      { state with
        logs := setting.keep state.logs record
        logged := state.logged ++ [record] }
  | .call thread buffer => state.setPhase thread (.resolving buffer)
  | .resolve thread buffer none => state.setPhase thread (.locking buffer)
  | .resolve thread _ (some error) =>
      state.setPhase thread (.returned ⟨.error error, none, .empty⟩)
  | .lock thread buffer =>
      { state.setPhase thread
          (if state.metricBatch.isSome then .writing buffer else .draining buffer) with
        holder := some thread }
  | .drain thread buffer =>
      if setting.bufferMetrics then
        match state.ledger.meter.drain with
        | some (metrics, _) =>
            { state.setPhase thread (.fetching buffer metrics) with
              ledger := Ledger.effect state.ledger .drain }
        | none =>
            { state.setPhase thread (.returned ⟨.panic, none, .empty⟩) with
              ledger := Ledger.effect state.ledger .drain
              holder := none }
      else state.setPhase thread (.fetching buffer ⟨[], [], []⟩)
  | .fetch thread buffer metrics =>
      let drained : Drained Double := { metrics := metrics, logs := state.logs }
      { state.setPhase thread (.writing buffer) with
        logs := []
        drains := state.drains ++ [drained]
        metricBatch := some (setting.encode drained.batch) }
  | .write thread buffer =>
      match state.metricBatch with
      | none => state
      | some bytes =>
          let written := writeOut bytes buffer
          match written.result with
          | .ok () =>
              { state.setPhase thread (.returned written) with
                holder := none
                metricBatch := none
                copied := state.copied ++ [bytes] }
          | _ => { state.setPhase thread (.returned written) with holder := none }
  | .retrieveMetrics thread =>
      (state.setLoop thread (.running 65536 0)).setPhase thread (.resolving (loopBuffer 65536))
  | .next thread written cap retries => state.afterCall thread written cap retries

def system (setting : Setting Double) : GuardedSystem (Retrieval Double) (Action Double) where
  start := start
  guard := guard setting
  effect := effect setting

instance [DecidableEq Double] (setting : Setting Double) (state : Retrieval Double)
    (action : Action Double) : Decidable ((system setting).guard state action) :=
  inferInstanceAs (Decidable (guard setting state action))

end Retrieval

end KtBridge.Metrics
