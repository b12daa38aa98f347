import KtBridge.Foundation.System
import KtBridge.Abi
import Mathlib.Data.List.AList

/-! # The answering protocol

What the pending table is for, without tasks, tokens or pollers. A call is
outside, waiting, retiring (its id is removed and its holder has the lock), or
done. Answers are pushed into a channel that is sealed once, by shutdown. The
protocol keeps `Protocol.State.Fair`: a waiting call is either in the table and
unanswered, or was answered by the drain; nobody retires once the channel is
sealed; and every call that is done was answered exactly once.
-/

namespace KtBridge.Request.Protocol

open Foundation

inductive Stage where
  | outside
  | waiting
  | retiring
  | done
  deriving DecidableEq

/-- The protocol's holder of the lock. -/
inductive Holder where
  | call (call : Nat)
  | drain
  deriving DecidableEq

/-- The state of the protocol, with the answers pushed for each call. -/
structure State (Answer : Type) where
  stage : Nat → Stage
  pending : AList fun _ : UInt64 => Nat
  closed : Bool
  lock : Option Holder
  isSealed : Bool
  answers : Nat → List Answer

variable {Answer : Type}

def start : State Answer where
  stage := fun _ => .outside
  pending := ∅
  closed := false
  lock := none
  isSealed := false
  answers := fun _ => []

inductive Action (Answer : Type) where
  | register (call : Nat)
  | retire (call : Nat)
  | forfeit (call : Nat)
  | answer (call : Nat) (answer : Answer)
  | close
  | drain (reqId : UInt64) (call : Nat) (answer : Answer)
  | sealQueue

def guard (reqId : Nat → UInt64) (state : State Answer) : Action Answer → Prop
  | .register call => state.stage call = .outside ∧ state.lock = none ∧ state.closed = false ∧
      reqId call ∉ state.pending
  | .retire call => state.stage call = .waiting ∧ state.lock = none ∧ reqId call ∈ state.pending
  | .forfeit call => state.stage call = .waiting ∧ state.lock = none ∧
      reqId call ∉ state.pending
  | .answer call _ => state.stage call = .retiring ∧ state.lock = some (.call call)
  | .close => state.lock = none
  | .drain id call _ => state.lock = some .drain ∧ state.pending.lookup id = some call
  | .sealQueue => state.lock = some .drain ∧ state.pending.keys = []

namespace State

def setStage (state : State Answer) (call : Nat) (stage : Stage) : State Answer :=
  { state with stage := Function.update state.stage call stage }

/-- Push an answer, unless the channel is sealed. -/
def push (state : State Answer) (call : Nat) (answer : Answer) : State Answer :=
  { state with
    answers := if state.isSealed then state.answers
      else Function.update state.answers call (state.answers call ++ [answer]) }

end State

def effect (reqId : Nat → UInt64) (state : State Answer) : Action Answer → State Answer
  | .register call =>
      { state.setStage call .waiting with pending := state.pending.insert (reqId call) call }
  | .retire call =>
      { state.setStage call .retiring with
        pending := state.pending.erase (reqId call)
        lock := some (.call call) }
  | .forfeit call => state.setStage call .done
  | .answer call answer =>
      { (state.push call answer).setStage call .done with lock := none }
  | .close => { state with lock := some .drain, closed := true }
  | .drain id call answer =>
      { state.push call answer with pending := state.pending.erase id }
  | .sealQueue => { state with isSealed := true, lock := none }

def protocol (reqId : Nat → UInt64) : GuardedSystem (State Answer) (Action Answer) where
  start := start
  guard := guard reqId
  effect := effect reqId

/-- The call was answered exactly once. -/
def State.Answered (state : State Answer) (call : Nat) : Prop :=
  ∃ answer, state.answers call = [answer]

/-- What ties the pending table, the lock, the closed flags and the answers. -/
structure State.Fair (reqId : Nat → UInt64) (state : State Answer) : Prop where
  keyed : ∀ id call, state.pending.lookup id = some call →
    reqId call = id ∧ state.stage call = .waiting ∧ state.answers call = []
  waiting : ∀ call, state.stage call = .waiting →
    state.pending.lookup (reqId call) = some call ∨
      reqId call ∉ state.pending ∧ state.closed ∧ state.Answered call
  outside : ∀ call, state.stage call = .outside → state.answers call = []
  retiring : ∀ call, state.stage call = .retiring ↔ state.lock = some (.call call)
  unanswered : ∀ call, state.stage call = .retiring → state.answers call = []
  done : ∀ call, state.stage call = .done → state.Answered call
  draining : state.lock = some .drain → state.closed
  isSealed : state.isSealed → state.closed ∧ state.pending.keys = [] ∧
    ∀ call, state.stage call ≠ .retiring

theorem fair_start (reqId : Nat → UInt64) : (start : State Answer).Fair reqId where
  keyed := by simp [start]
  waiting := by simp [start]
  outside := fun _ _ => rfl
  retiring := by simp [start]
  unanswered := by simp [start]
  done := by simp [start]
  draining := by simp [start]
  isSealed := by simp [start]

namespace State.Fair

variable {reqId : Nat → UInt64} {state : State Answer} {call : Nat}

/-- The channel is open while an id is in the table. -/
theorem opened (fair : state.Fair reqId) {id : UInt64} (present : id ∈ state.pending) :
    state.isSealed = false := by
  by_contra isSealed
  have empty := (fair.isSealed (by simpa using isSealed)).2.1
  rw [AList.mem_keys, empty] at present
  exact List.not_mem_nil present

/-- An admitted call finds its id free, and takes it. -/
theorem register (fair : state.Fair reqId) (ready : guard reqId state (.register call)) :
    (effect reqId state (.register call)).Fair reqId := by
  obtain ⟨outside, unlocked, opened, free⟩ := ready
  obtain ⟨keyed, waiting, silent, retiring, unanswered, done, draining, isSealed⟩ := fair
  -- No other waiting call has the id: it would be in the table, which is open.
  have alone : ∀ other, state.stage other = .waiting → reqId other ≠ reqId call := by
    intro other waits same
    rcases waiting other waits with found | ⟨_, closed, _⟩
    · rw [same] at found
      exact free (AList.lookup_isSome.mp (by rw [found]; rfl))
    · rw [opened] at closed
      cases closed
  constructor <;> simp only [effect, setStage, Answered] at * <;>
    grind [Function.update, AList.lookup_insert_ne, AList.lookup_insert, AList.mem_insert]

/-- A retiring call removes its own id: nobody else can be under it. -/
theorem retire (fair : state.Fair reqId) (ready : guard reqId state (.retire call)) :
    (effect reqId state (.retire call)).Fair reqId := by
  obtain ⟨waits, unlocked, present⟩ := ready
  have opened := fair.opened present
  obtain ⟨keyed, waiting, silent, retiring, unanswered, done, draining, isSealed⟩ := fair
  have own : state.pending.lookup (reqId call) = some call :=
    (waiting call waits).resolve_right fun drained => drained.1 present
  constructor <;> simp only [effect, setStage, Answered] at * <;>
    grind [Function.update, AList.lookup_erase_ne, AList.lookup_erase, AList.mem_erase]

/-- A call whose id is gone was answered by the drain. -/
theorem forfeit (fair : state.Fair reqId) (ready : guard reqId state (.forfeit call)) :
    (effect reqId state (.forfeit call)).Fair reqId := by
  obtain ⟨waits, unlocked, absent⟩ := ready
  obtain ⟨keyed, waiting, silent, retiring, unanswered, done, draining, isSealed⟩ := fair
  have answered : state.Answered call :=
    ((waiting call waits).resolve_left fun found =>
      absent (AList.lookup_isSome.mp (by rw [found]; rfl))).2.2
  constructor <;> simp only [effect, setStage, Answered] at * <;> grind [Function.update]

/-- A retiring call answers into an open channel. -/
theorem answer {answer : Answer} (fair : state.Fair reqId)
    (ready : guard reqId state (.answer call answer)) :
    (effect reqId state (.answer call answer)).Fair reqId := by
  obtain ⟨retires, locked⟩ := ready
  obtain ⟨keyed, waiting, silent, retiring, unanswered, done, draining, isSealed⟩ := fair
  have opened : state.isSealed = false := by
    by_contra closed
    exact (isSealed (by simpa using closed)).2.2 call retires
  have answered : ∃ only, Function.update state.answers call (state.answers call ++ [answer]) call =
      [only] := ⟨answer, by rw [Function.update_self, unanswered call retires]; rfl⟩
  constructor <;> simp only [effect, setStage, push, Answered, opened, Bool.false_eq_true,
    ↓reduceIte] at * <;> grind [Function.update]

theorem close (fair : state.Fair reqId) (ready : guard reqId state .close) :
    (effect reqId state .close).Fair reqId := by
  obtain ⟨keyed, waiting, silent, retiring, unanswered, done, draining, isSealed⟩ := fair
  simp only [guard] at ready
  constructor <;> simp only [effect, Answered] at * <;> grind

/-- The drain answers a call still in the table, into an open channel. -/
theorem drain {id : UInt64} {answer : Answer} (fair : state.Fair reqId)
    (ready : guard reqId state (.drain id call answer)) :
    (effect reqId state (.drain id call answer)).Fair reqId := by
  obtain ⟨locked, found⟩ := ready
  have present : id ∈ state.pending := AList.lookup_isSome.mp (by rw [found]; rfl)
  have opened := fair.opened present
  obtain ⟨keyed, waiting, silent, retiring, unanswered, done, draining, isSealed⟩ := fair
  obtain ⟨own, waits, none⟩ := keyed id call found
  have answered : ∃ only, Function.update state.answers call (state.answers call ++ [answer]) call =
      [only] := ⟨answer, by rw [Function.update_self, none]; rfl⟩
  constructor <;> simp only [effect, push, Answered, opened, Bool.false_eq_true,
    ↓reduceIte] at * <;>
    grind [Function.update, AList.lookup_erase_ne, AList.lookup_erase, AList.mem_erase]

theorem sealQueue (fair : state.Fair reqId) (ready : guard reqId state .sealQueue) :
    (effect reqId state .sealQueue).Fair reqId := by
  obtain ⟨keyed, waiting, silent, retiring, unanswered, done, draining, isSealed⟩ := fair
  simp only [guard] at ready
  constructor <;> simp only [effect, Answered] at * <;> grind

end State.Fair

/-- Every step of the protocol is fair. -/
theorem fair_invariant (reqId : Nat → UInt64) :
    (protocol reqId : GuardedSystem (State Answer) _).Invariant (State.Fair reqId) where
  start := fair_start reqId
  step := by
    intro state action _ fair ready
    cases action with
    | register call => exact fair.register ready
    | retire call => exact fair.retire ready
    | forfeit call => exact fair.forfeit ready
    | answer call answer => exact fair.answer ready
    | close => exact fair.close ready
    | drain id call answer => exact fair.drain ready
    | sealQueue => exact fair.sealQueue ready

end KtBridge.Request.Protocol
