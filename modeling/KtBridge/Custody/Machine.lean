import KtBridge.Foundation.Custody
import KtBridge.Handle.Freshness
import KtBridge.Request.Delivery

/-! # Who holds a created handle

The request machine together with the handle table. A creation inserts its entry
and settles with a completion that carries the handle; from then on the handle is
held by a task, the queue, a poll's batch, a completion about to be dropped, or a
written record. Other exports call the table at any time, but do not free a handle
that was never delivered; `kt_runtime_free` may invalidate anything.
-/

namespace KtBridge.Custody

open Foundation Request

/-- Where a completion, or the record written for it, may be. -/
inductive Place where
  | task (call : Call)
  | queue
  | batch (poller : Nat)
  | dropping
  | records (poller : Nat)
  deriving DecidableEq

/-- A written record is out of the bridge's hands. -/
def Place.delivered : Place → Bool
  | records _ => true
  | _ => false

/-- The handles held in a place, with their kinds. -/
def items (request : Request.State) : Place → List (Handle × UInt8)
  | .task call => ((request.phase call).result?.bind Pending.owned).toList
  | .queue => request.queue.queue.filterMap Pending.owned
  | .batch poller => (request.poller poller).batch.filterMap Pending.owned
  | .dropping => request.dropping.filterMap Pending.owned
  | .records poller => (request.received poller).filterMap Record.owned

/-- The request machine, the calls made on the table so far, and the leases that
creations inserted. -/
structure State (Ref : Type) where
  request : Request.State
  history : List (TableCall Ref)
  created : List (Lease Ref)

variable {Ref : Type}

def start : State Ref where
  request := Request.start
  history := []
  created := []

namespace State

/-- The table the calls made lead to. -/
def table (state : State Ref) : Table Ref := Table.empty.run state.history

end State

/-- The completion of a creation, by how its insertion ended. The payload is the
server's description. -/
def creationResult (reqId : UInt64) (entry : Entry Ref) (info : ByteArray) :
    Outcome Handle → Pending
  | .ok handle =>
      match entry with
      | .ephemeral _ =>
          (((Pending.ack reqId).withKind .ephemeralStarted).withAux0 handle).withPayload info
      | _ => ((Pending.ack reqId).withKind .clientConnected).withAux0 handle
  | .error error => Pending.error reqId error.code error.message
  -- Never met: an insertion into a reachable table does not panic.
  | .panic => panicCompletion reqId ""

inductive Action (Ref : Type) where
  /-- A step of the request machine that leaves the table alone. -/
  | request (action : Request.Action)
  /-- An operation inserts the entry it made, and returns. -/
  | create (call : Call) (entry : Entry Ref) (info : ByteArray)
  /-- A completion is dropped. -/
  | drop (pending : Pending)
  /-- Another export calls the table. -/
  | exported (call : TableCall Ref)
  /-- The queue is dropped with what is still in it. -/
  | dropQueue

/-- The steps of the request machine that are taken as they are: operations that are
not creations, and events, carry no handle. -/
def plain : Request.Action → Prop
  | .complete _ result => result.owned = none
  | .event pending => pending.owned = none
  | .drop _ => False
  | _ => True

/-- A call that does not free a handle whose completion is undelivered. -/
def respectful (request : Request.State) : TableCall Ref → Prop
  | .removeOfKind handle _ => ∀ place kind, place.delivered = false →
      (handle, kind) ∉ items request place
  | _ => True

def guard (reqId : Call → UInt64) (state : State Ref) : Action Ref → Prop
  | .request action => Request.guard reqId state.request action ∧ plain action
  | .create call entry _ => state.request.phase call = .running ∧
      (entry.kind = kindClient ∨ entry.kind = kindEphemeral)
  | .drop pending => pending ∈ state.request.dropping
  | .exported call => respectful state.request call
  | .dropQueue => state.request.queue.closed ∧ state.request.tracker.outstanding = ∅ ∧
      ∀ poller, state.request.poller poller = .idle

/-- `runtime` is the handle the creating exports were called with. -/
def effect (runtime : Handle) (reqId : Call → UInt64) (state : State Ref) :
    Action Ref → State Ref
  | .request action => { state with request := Request.effect reqId state.request action }
  | .create call entry info =>
      let outcome := (state.table.insertOwned runtime entry).2.1
      { request := Request.effect reqId state.request
          (.complete call (creationResult (reqId call) entry info outcome))
        history := state.history ++ [.insertOwned runtime entry]
        created :=
          match outcome with
          | .ok handle => state.created ++ [⟨handle, runtime, entry⟩]
          | _ => state.created }
  | .drop pending =>
      { state with
        request := Request.effect reqId state.request (.drop pending)
        history :=
          match pending.owned with
          | some (handle, kind) => state.history ++ [.removeOfKind handle kind]
          | none => state.history }
  | .exported call => { state with history := state.history ++ [call] }
  | .dropQueue =>
      { state with
        request := { state.request with
          queue := { state.request.queue with queue := [] }
          dropping := state.request.dropping ++ state.request.queue.queue } }

def machine (runtime : Handle) (reqId : Call → UInt64) :
    GuardedSystem (State Ref) (Action Ref) where
  start := start
  guard := guard reqId
  effect := effect runtime reqId

/-- A dropped completion does to the table what `Pending`'s `Drop` does. -/
theorem table_drop (runtime : Handle) (reqId : Call → UInt64) (state : State Ref)
    (pending : Pending) :
    (effect runtime reqId state (.drop pending)).table = pending.drop state.table := by
  simp only [State.table, effect, Pending.drop]
  cases pending.owned with
  | none => rfl
  | some owned =>
      obtain ⟨handle, kind⟩ := owned
      simp only [Table.run_append]
      rfl

end KtBridge.Custody
