import KtBridge.Request.Tracking
import Mathlib.Data.List.Perm.Basic

/-! # Ephemeral servers and the end of their runtime

The request machine together with the ephemeral servers that its operations start, the
`Arc` clones of their entries, and `kt_runtime_free`. An entry's mutex holds the server
with its reservation; whoever shuts the server down holds the mutex across the wait for
the child. The last clone of an entry to be dropped spawns a job for a server still in
it. What comes from outside (how a shutdown ends, which job is spawned, the order in
which a runtime's children are swept) is part of the action.
-/

namespace KtBridge.Ephemeral

open Foundation Request

/-- A server that `ephemeral::start` may return. -/
abbrev Server := Nat

/-- A cleanup task spawned on the tracker. -/
abbrev Job := Nat

/-- Who may hold a clone of an entry's `Arc`: the handle table, the operation of a
request, a JVM thread in an export, `kt_runtime_free`, or a cleanup task. -/
inductive Holder where
  | table
  | operation (call : Call)
  | thread (thread : Nat)
  | sweep
  | job (job : Job)
  deriving DecidableEq

/-- Where a server is, with its reservation. -/
inductive Slot where
  /-- `ephemeral::start` has not returned it. -/
  | absent
  | present
  /-- A shutdown took it out, and dropped it with its reservation. -/
  | vacated
  /-- The entry's `Drop` took it out. -/
  | dropping
  /-- It is moved into a cleanup task; `Drop` still holds the reservation. -/
  | moved (job : Job)
  | handed (job : Job)
  deriving DecidableEq

/-- Whether the reservation is held. -/
def Slot.reserves : Slot → Bool
  | present | dropping | moved _ => true
  | _ => false

/-- What the holder of an entry's mutex is doing in `EphemeralEntry::shutdown`. -/
inductive Guarded where
  | locked
  /-- Awaiting the server's own `shutdown`. -/
  | stopping
  | ended (result : Except String Unit)
  /-- The server is taken out; the mutex is about to be unlocked. -/
  | taken (result : Except String Unit)
  deriving DecidableEq

/-- What a request's operation is doing with an entry. -/
inductive Operation where
  /-- It has no entry, or none yet. -/
  | plain
  /-- `ephemeral::start` returned the entry. -/
  | started (server : Server)
  /-- `insert_owned` found no runtime, and is about to close the entry. -/
  | rejected (server : Server)
  /-- The entry is closed, and about to be dropped. -/
  | refused (server : Server)
  /-- It captured the entry to shut it down. -/
  | shutting (server : Server)
  | answered (server : Server) (result : Except String Unit)
  deriving DecidableEq

/-- What a JVM thread is doing with an entry: reading its description, or freeing it. -/
inductive Thread where
  | idle
  | reading (server : Server)
  | freeing (server : Server)
  | freed (server : Server) (result : Except String Unit)
  deriving DecidableEq

/-- What a cleanup task is doing: one spawned by `free` holds the entry and shuts it
down, one spawned by `Drop` has the server itself. -/
inductive JobPhase where
  | idle
  | closing (server : Server)
  | closed (server : Server)
  | reaping (server : Server)
  /-- Its future is dropped; its token is not. -/
  | ending
  | finished
  deriving DecidableEq

/-- Whether the task's token is outstanding. -/
def JobPhase.runs : JobPhase → Bool
  | idle | finished => false
  | _ => true

/-- How far `kt_runtime_free` has come. -/
inductive FreePhase where
  | idle
  | sweeping (children : List Server)
  | stopping (child : Server) (rest : List Server)
  | stopped (child : Server) (rest : List Server)
  | closed (child : Server) (rest : List Server)
  /-- In `free_runtime`. -/
  | freeing
  | draining
  | drained
  /-- The tracker is closed, and waited for. -/
  | waiting
  | returned
  deriving DecidableEq

/-- The child whose shutdown is being blocked on. -/
def FreePhase.stopping? : FreePhase → Option Server
  | stopping child _ => some child
  | _ => none

/-- Whether the drain has begun. -/
def FreePhase.drains : FreePhase → Bool
  | draining | drained | waiting | returned => true
  | _ => false

/-- A runtime with its ephemeral servers. `stopped` is history: the servers whose own
`shutdown` ran to its end. -/
structure State where
  request : Request.State
  slot : Server → Slot
  guarded : Server → Option (Holder × Guarded)
  holders : Server → Finset Holder
  table : AList fun _ : Handle => Server
  runtimeLive : Bool
  operation : Call → Operation
  thread : Nat → Thread
  job : Job → JobPhase
  free : FreePhase
  shutdownError : Option String
  stopped : Server → Bool

def start : State where
  request := Request.start
  slot := fun _ => .absent
  guarded := fun _ => none
  holders := fun _ => ∅
  table := ∅
  runtimeLive := true
  operation := fun _ => .plain
  thread := fun _ => .idle
  job := fun _ => .idle
  free := .idle
  shutdownError := none
  stopped := fun _ => false

namespace State

def setSlot (state : State) (server : Server) (slot : Slot) : State :=
  { state with slot := Function.update state.slot server slot }

def setOperation (state : State) (call : Call) (operation : Operation) : State :=
  { state with operation := Function.update state.operation call operation }

def setThread (state : State) (thread : Nat) (phase : Thread) : State :=
  { state with thread := Function.update state.thread thread phase }

def setJob (state : State) (job : Job) (phase : JobPhase) : State :=
  { state with job := Function.update state.job job phase }

def setGuarded (state : State) (server : Server) (guarded : Option (Holder × Guarded)) : State :=
  { state with guarded := Function.update state.guarded server guarded }

/-- Clone an entry's `Arc`. -/
def hold (state : State) (server : Server) (holder : Holder) : State :=
  { state with
    holders := Function.update state.holders server (insert holder (state.holders server)) }

/-- Drop a clone; the last one runs the entry's `Drop`, which takes the server out. -/
def letGo (state : State) (server : Server) (holder : Holder) : State :=
  { state with
    holders := Function.update state.holders server ((state.holders server).erase holder)
    slot :=
      if (state.holders server).erase holder = ∅ ∧ state.slot server = .present then
        Function.update state.slot server .dropping
      else state.slot }

/-- Take a step of the request machine. -/
def ask (reqId : Call → UInt64) (state : State) (action : Request.Action) : State :=
  { state with request := Request.effect reqId state.request action }

/-- Whether the holder is inside `EphemeralEntry::shutdown`. -/
def Shutting (state : State) (server : Server) : Holder → Prop
  | .table => False
  | .operation call =>
      state.operation call = .shutting server ∧ state.request.phase call = .running
  | .thread thread => state.thread thread = .freeing server
  | .sweep => state.free.stopping? = some server
  | .job job => state.job job = .closing server

instance (state : State) (server : Server) (holder : Holder) :
    Decidable (state.Shutting server holder) := by
  cases holder <;> unfold Shutting <;> infer_instance

/-- `EphemeralEntry::shutdown` returns to its caller. The first error of a sweep is kept. -/
def resume (state : State) (server : Server) (result : Except String Unit) : Holder → State
  | .table => state
  | .operation call => state.setOperation call (.answered server result)
  | .thread thread => state.setThread thread (.freed server result)
  | .sweep =>
      match state.free with
      | .stopping child rest =>
          { state with
            free := .stopped child rest
            shutdownError :=
              match state.shutdownError, result with
              | none, .error message => some message
              | kept, _ => kept }
      | _ => state
  | .job job => state.setJob job (.closed server)

/-- Spawn a cleanup task on the tracker. -/
def spawnJob (reqId : Call → UInt64) (state : State) (job : Job) (phase : JobPhase) : State :=
  (state.ask reqId (.issue (.cleanup job))).setJob job phase

/-- `kt_runtime_free` returns the first error of its children's shutdowns. -/
def freeResult (state : State) : Except KtError Unit :=
  match state.shutdownError with
  | none => .ok ()
  | some message => .error (.failed message)

end State

/-- The completion of a started server. -/
def startedCompletion (reqId : UInt64) (handle : Handle) (info : ByteArray) : Pending :=
  (((Pending.ack reqId).withKind .ephemeralStarted).withAux0 handle).withPayload info

/-- The completion of a start whose runtime is gone. -/
def refusedCompletion (reqId : UInt64) : Pending :=
  Pending.error reqId KtError.shutdown.code KtError.shutdown.message

/-- The completion of a shutdown. -/
def shutdownAnswer (reqId : UInt64) : Except String Unit → Pending
  | .ok _ => Pending.ack reqId
  | .error message => Pending.error reqId ktErrFailed message

/-- The steps: of requests, of `kt_ephemeral_start` and `kt_ephemeral_shutdown`, of the
other exports, inside `EphemeralEntry`'s `shutdown` and `Drop`, of cleanup tasks, of
dropped completions, and of `kt_runtime_free`. -/
inductive Action where
  | request (action : Request.Action)
  | startReturns (call : Call) (server : Server)
  | insertOwned (call : Call) (server : Server) (handle : Handle) (info : ByteArray)
  | refuse (call : Call) (server : Server)
  | closeRefused (call : Call) (server : Server) (job : Job)
  | dropRefused (call : Call) (server : Server)
  | lookup (call : Call) (server : Server) (handle : Handle)
  | dropCaptured (call : Call) (server : Server) (error : KtError)
  | interrupt (call : Call) (server : Server) (action : Request.Action)
  | answer (call : Call) (server : Server) (result : Except String Unit)
  | read (thread : Nat) (server : Server) (handle : Handle)
  | readDone (thread : Nat) (server : Server)
  | remove (thread : Nat) (server : Server) (handle : Handle)
  | freeDone (thread : Nat) (server : Server) (result : Except String Unit)
  | acquire (holder : Holder) (server : Server)
  | look (holder : Holder) (server : Server)
  | stop (holder : Holder) (server : Server) (result : Except String Unit)
  | take (holder : Holder) (server : Server) (result : Except String Unit)
  | unlock (holder : Holder) (server : Server) (result : Except String Unit)
  | spawnCleanup (server : Server) (job : Job)
  | dropReservation (server : Server) (job : Job)
  | jobDone (job : Job) (server : Server)
  | reap (job : Job) (server : Server) (result : Except String Unit)
  | jobEnd (job : Job)
  | discard (pending : Pending)
  | removeRuntime (children : List Server)
  | sweepNext (child : Server) (rest : List Server)
  | sweepClose (child : Server) (rest : List Server) (job : Job)
  | sweepDrop (child : Server) (rest : List Server)
  | sweepDone
  | drainStart
  | drainFinish
  | closeTracker
  | waitReturns

/-- The steps of the request machine that touch no entry and no token of another's. -/
def State.Plain (state : State) : Request.Action → Prop
  | .dropOperation call _ => state.operation call = .plain
  | .observeCancel call => state.operation call = .plain
  | .complete call _ => state.operation call = .plain
  | .panic call _ => state.operation call = .plain
  | .abandon call => state.operation call = .plain
  | .drainStart => False
  | .drainFinish => False
  | .closeTracker => False
  | .issue _ => False
  | .release _ => False
  | .drop _ => False
  | _ => True

instance (state : State) (action : Request.Action) : Decidable (state.Plain action) :=
  decidable_of_iff
    ((match action with
      | .dropOperation call _ => decide (state.operation call = .plain)
      | .observeCancel call => decide (state.operation call = .plain)
      | .complete call _ => decide (state.operation call = .plain)
      | .panic call _ => decide (state.operation call = .plain)
      | .abandon call => decide (state.operation call = .plain)
      | .drainStart | .drainFinish | .closeTracker | .issue _ | .release _ | .drop _ => false
      | _ => true) = true)
    (by
      unfold State.Plain
      split <;> simp)

/-- How a running operation may be dropped: cancelled, unwound, or with its task. -/
def Interrupts (call : Call) : Request.Action → Prop
  | .observeCancel other => other = call
  | .panic other _ => other = call
  | .abandon other => other = call
  | _ => False

instance (call : Call) (action : Request.Action) : Decidable (Interrupts call action) :=
  decidable_of_iff
    ((match action with
      | .observeCancel other => decide (other = call)
      | .panic other _ => decide (other = call)
      | .abandon other => decide (other = call)
      | _ => false) = true)
    (by
      unfold Interrupts
      split <;> simp)

/-- An operation is dropped where it awaits: for the mutex, or for the server. -/
def State.Awaiting (state : State) (server : Server) (holder : Holder) : Prop :=
  ∀ guarded, state.guarded server = some (holder, guarded) → guarded = .stopping

instance (state : State) (server : Server) (holder : Holder) :
    Decidable (state.Awaiting server holder) :=
  decidable_of_iff ((state.guarded server).all
      (fun held => decide (held.1 = holder → held.2 = .stopping)) = true)
    (by
      unfold State.Awaiting
      cases state.guarded server with
      | none => exact iff_of_true rfl fun _ impossible => by cases impossible
      | some held =>
          simp only [Option.all_some, decide_eq_true_eq]
          constructor
          · intro stopping guarded same
            cases same
            exact stopping rfl
          · intro stopping same
            exact stopping held.2 (by rw [← same]))

/-- When a step may happen. -/
def guard (reqId : Call → UInt64) (state : State) : Action → Prop
  | .request action => Request.guard reqId state.request action ∧ state.Plain action
  | .startReturns call server => state.request.phase call = .running ∧
      state.operation call = .plain ∧ state.slot server = .absent
  | .insertOwned call server handle _ => state.request.phase call = .running ∧
      state.operation call = .started server ∧ state.runtimeLive ∧ handle ∉ state.table ∧
      handle ≠ 0
  | .refuse call server => state.operation call = .started server ∧ state.runtimeLive = false
  | .closeRefused call server job => state.operation call = .rejected server ∧
      state.job job = .idle
  | .dropRefused call server => state.request.phase call = .running ∧
      state.operation call = .refused server
  | .lookup call server handle => state.request.phase call = .idle ∧
      state.operation call = .plain ∧ state.table.lookup handle = some server
  | .dropCaptured call server error => state.operation call = .shutting server ∧
      Request.guard reqId state.request (.dropOperation call error)
  | .interrupt call server action => state.operation call = .shutting server ∧
      Interrupts call action ∧ Request.guard reqId state.request action ∧
      state.Awaiting server (.operation call)
  | .answer call server result => state.request.phase call = .running ∧
      state.operation call = .answered server result
  | .read thread server handle => state.thread thread = .idle ∧
      state.table.lookup handle = some server
  | .readDone thread server => state.thread thread = .reading server
  | .remove thread server handle => state.thread thread = .idle ∧
      state.table.lookup handle = some server
  | .freeDone thread server result => state.thread thread = .freed server result
  | .acquire holder server => state.Shutting server holder ∧ state.guarded server = none
  | .look holder server => state.guarded server = some (holder, .locked)
  | .stop holder server _ => state.guarded server = some (holder, .stopping)
  | .take holder server result => state.guarded server = some (holder, .ended result)
  | .unlock holder server result => state.guarded server = some (holder, .taken result)
  | .spawnCleanup server job => state.slot server = .dropping ∧ state.job job = .idle
  | .dropReservation server job => state.slot server = .moved job
  | .jobDone job server => state.job job = .closed server
  | .reap job server _ => state.job job = .reaping server
  | .jobEnd job => state.job job = .ending
  | .discard pending => Request.guard reqId state.request (.drop pending)
  | .removeRuntime children => state.free = .idle ∧ state.runtimeLive ∧
      children.Perm (state.table.entries.map Sigma.snd)
  | .sweepNext child rest => state.free = .sweeping (child :: rest)
  | .sweepClose child rest job => state.free = .stopped child rest ∧ state.job job = .idle
  | .sweepDrop child rest => state.free = .closed child rest
  | .sweepDone => state.free = .sweeping []
  | .drainStart => state.free = .freeing ∧ Request.guard reqId state.request .drainStart
  | .drainFinish => state.free = .draining ∧ Request.guard reqId state.request .drainFinish
  | .closeTracker => state.free = .drained
  | .waitReturns => state.free = .waiting ∧ state.request.tracker.Drained

instance (reqId : Call → UInt64) (state : State) (action : Action) :
    Decidable (guard reqId state action) := by
  cases action <;> unfold guard <;> infer_instance

/-- What a step does. -/
def effect (reqId : Call → UInt64) (state : State) : Action → State
  | .request action => state.ask reqId action
  | .startReturns call server =>
      -- A new entry: its mutex is unlocked, and the operation holds the only clone.
      { (((state.ask reqId (.issue (.server server))).setSlot server .present).setOperation call
          (.started server)).setGuarded server none with
        holders := Function.update state.holders server {.operation call} }
  | .insertOwned call server handle info =>
      { (((state.hold server .table).letGo server (.operation call)).setOperation call
          .plain).ask reqId (.complete call (startedCompletion (reqId call) handle info)) with
        table := state.table.insert handle server }
  | .refuse call server => state.setOperation call (.rejected server)
  | .closeRefused call server job =>
      ((state.spawnJob reqId job (.closing server)).hold server (.job job)).setOperation call
        (.refused server)
  | .dropRefused call server =>
      ((state.letGo server (.operation call)).setOperation call .plain).ask reqId
        (.complete call (refusedCompletion (reqId call)))
  | .lookup call server _ =>
      (state.hold server (.operation call)).setOperation call (.shutting server)
  | .dropCaptured call server error =>
      ((state.letGo server (.operation call)).setOperation call .plain).ask reqId
        (.dropOperation call error)
  | .interrupt call server action =>
      -- Dropping the future unlocks the mutex, and leaves the server where it is.
      (((if (state.guarded server).map Prod.fst = some (.operation call) then
          state.setGuarded server none else state).letGo server (.operation call)).setOperation
        call .plain).ask reqId action
  | .answer call server result =>
      ((state.letGo server (.operation call)).setOperation call .plain).ask reqId
        (.complete call (shutdownAnswer (reqId call) result))
  | .read thread server _ =>
      (state.hold server (.thread thread)).setThread thread (.reading server)
  | .readDone thread server => (state.letGo server (.thread thread)).setThread thread .idle
  | .remove thread server handle =>
      { ((state.hold server (.thread thread)).letGo server .table).setThread thread
          (.freeing server) with
        table := state.table.erase handle }
  | .freeDone thread server _ => (state.letGo server (.thread thread)).setThread thread .idle
  | .acquire holder server => state.setGuarded server (some (holder, .locked))
  | .look holder server =>
      state.setGuarded server
        (some (holder, if state.slot server = .present then .stopping else .ended (.ok ())))
  | .stop holder server result =>
      { state.setGuarded server (some (holder, .ended result)) with
        stopped := Function.update state.stopped server true }
  | .take holder server result =>
      if state.slot server = .present then
        ((state.setSlot server .vacated).ask reqId (.release (.server server))).setGuarded server
          (some (holder, .taken result))
      else state.setGuarded server (some (holder, .taken result))
  | .unlock holder server result => (state.setGuarded server none).resume server result holder
  | .spawnCleanup server job =>
      (state.setSlot server (.moved job)).spawnJob reqId job (.reaping server)
  | .dropReservation server job =>
      (state.setSlot server (.handed job)).ask reqId (.release (.server server))
  | .jobDone job server => (state.letGo server (.job job)).setJob job .ending
  | .reap job server _ =>
      { state.setJob job .ending with stopped := Function.update state.stopped server true }
  | .jobEnd job => (state.setJob job .finished).ask reqId (.release (.cleanup job))
  | .discard pending =>
      match pending.owned with
      | some (handle, kind) =>
          match state.table.lookup handle with
          | some server =>
              if kind = kindEphemeral then
                { (state.letGo server .table).ask reqId (.drop pending) with
                  table := state.table.erase handle }
              else state.ask reqId (.drop pending)
          | none => state.ask reqId (.drop pending)
      | none => state.ask reqId (.drop pending)
  | .removeRuntime children =>
      { state with
        free := .sweeping children
        runtimeLive := false
        table := ∅
        holders := fun server =>
          if server ∈ children then insert .sweep ((state.holders server).erase .table)
          else state.holders server }
  | .sweepNext child rest => { state with free := .stopping child rest }
  | .sweepClose child rest job =>
      { (state.spawnJob reqId job (.closing child)).hold child (.job job) with
        free := .closed child rest }
  | .sweepDrop child rest => { state.letGo child .sweep with free := .sweeping rest }
  | .sweepDone => { state with free := .freeing }
  | .drainStart => { state.ask reqId .drainStart with free := .draining }
  | .drainFinish => { state.ask reqId .drainFinish with free := .drained }
  | .closeTracker => { state.ask reqId .closeTracker with free := .waiting }
  | .waitReturns => { state with free := .returned }

def machine (reqId : Call → UInt64) : GuardedSystem State Action where
  start := start
  guard := guard reqId
  effect := effect reqId

instance (reqId : Call → UInt64) (state : State) (action : Action) :
    Decidable ((machine reqId).guard state action) :=
  inferInstanceAs (Decidable (guard reqId state action))

end KtBridge.Ephemeral
