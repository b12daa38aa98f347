import KtBridge.Delivery.Loop
import KtBridge.Exchange.Fates
import KtBridge.Runtime.Closing

/-! # From Core's polls to the streams of the workers

The poll loops of all workers push into the one queue of their runtime. Its pump thread polls that
queue, and stays in `onPushed` until a completion is handled; callers receive from the streams. This
machine runs the loops beside the pump with the bridge, and beside the runtime with its workers. They
meet where a loop pushes and where the pump thread calls `onPushed`. -/

namespace KtBridge.Delivery

open Foundation
open Pump (Completion Call)
open KtBridge.Runtime (KtTaskKind Worker)
open KtBridge.Worker (TaskKind taskKinds)

/-- What a completion tells one stream of a worker, if anything. -/
def told (worker : Worker) (kind : KtTaskKind) (completion : Completion) : Option Event :=
  if completion.reqId = 0 ∧ completion.aux0 = worker then
    match KtTaskKind.ofKind completion.kind with
    | some stream => if stream = kind then some (.task completion.payload) else none
    | none =>
        if KtTaskKind.fromAux completion.aux1 = some kind then
          if completion.kind = KtKind.taskStreamEnd.discriminant then some .ended
          else if completion.kind = KtKind.workerFailed.discriminant then
            some (.failed completion.status completion.payload)
          else none
        else none
  else none

/-- What completions tell it, in their order. -/
def story (worker : Worker) (kind : KtTaskKind) (completions : List Completion) : List Event :=
  completions.filterMap (told worker kind)

/-- Whether a step is of the pump thread. -/
def onThread : Pump.Action → Bool
  | .readTimeout | .poll _ _ _ | .readSize _ | .repeatLoop | .throw | .dispatch _ _ => true
  | .resume _ _ _ | .setDead | .countKeys _ | .listKeys _ _ _ | .findNone _ _ => true
  | .failNext _ _ | .failActive _ _ _ | .failResume _ _ _ | .failDone | .pollerFree => true
  | _ => false

/-- All of it. `opened` are the workers that `create` returned, and `delivery` is the call of
`onPushed` that the pump thread made last. -/
structure State where
  exchange : Exchange.State
  runtime : Runtime.State
  loops : Worker → TaskKind → Loop
  opened : Finset Worker
  delivery : Option Call

def start : State where
  exchange := Exchange.start
  runtime := Runtime.start
  loops := fun _ _ => Loop.absent
  opened := ∅
  delivery := none

/-- Whether the pump thread is in `onPushed`. -/
def State.busy (state : State) : Bool :=
  state.delivery.any fun call => state.runtime.phase call ≠ .returned

inductive Action where
  | exchange (action : Exchange.Action)
  | runtime (action : Runtime.Action)
  | loop (worker : Worker) (kind : TaskKind) (step : LoopStep)
  /-- `kt_worker_start`, by the caller that created the worker. -/
  | start (call : Call) (worker : Worker)
  /-- The pump thread takes an event from its batch, and calls `onPushed`. -/
  | deliver (call : Call) (completion : Completion) (rest : List Completion)

/-- When a step of the pump and the bridge may happen. Only the loops push events, only a closing
runtime drains, and a pump thread in `onPushed` makes no other step. -/
def ExchangeAllows (state : State) : Exchange.Action → Prop
  | .native (.event _) => False
  | .native .drainStart => state.runtime.closed
  | .pump (.dispatch completion _) => completion.reqId ≠ 0 ∧ state.busy = false
  | .pump action => onThread action → state.busy = false
  | _ => True

/-- When a step of the runtime may happen. A worker is closed by those who were given it. -/
def RuntimeAllows (state : State) : Runtime.Action → Prop
  | .push _ _ => False
  | .close _ worker => worker ∈ state.opened
  | _ => True

/-- A loop is aborted only where its worker or the runtime is being closed. -/
def LoopAllows (state : State) (worker : Worker) : LoopStep → Prop
  | .abort => worker ∉ state.runtime.handlers ∨ state.runtime.closed
  | _ => True

def guard (state : State) : Action → Prop
  | .exchange action => Exchange.guard state.exchange action ∧ ExchangeAllows state action
  | .runtime action => Runtime.guard state.runtime action ∧ RuntimeAllows state action
  | .loop worker kind step =>
      (state.loops worker kind).guard step ∧ LoopAllows state worker step
  | .start call worker => state.runtime.phase call = .created worker ∧
      ∀ kind ∈ taskKinds, (state.loops worker kind).phase = .absent
  | .deliver call completion rest =>
      Exchange.guard state.exchange (.pump (.dispatch completion rest)) ∧ state.busy = false ∧
        Runtime.guard state.runtime (.push call completion)

/-- The worker that a registration opens. -/
def opens (runtime : Runtime.State) : Runtime.Action → Finset Worker
  | .onWorkerEvents _ worker => if runtime.closed then ∅ else {worker}
  | _ => ∅

def effect (decode : ByteArray → String) (state : State) : Action → State
  | .exchange action => { state with exchange := Exchange.effect state.exchange action }
  | .runtime action =>
      { state with
        runtime := Runtime.effect decode state.runtime action
        opened := state.opened ∪ opens state.runtime action }
  | .loop worker kind step =>
      { state with
        loops := Function.update state.loops worker
          (Function.update (state.loops worker) kind ((state.loops worker kind).effect step))
        exchange := match Loop.pushes worker kind step with
          | some pending => Exchange.effect state.exchange (.native (.event pending))
          | none => state.exchange }
  | .start _ worker =>
      { state with
        loops := Function.update state.loops worker fun kind => (state.loops worker kind).spawn }
  | .deliver call completion rest =>
      { state with
        exchange := Exchange.effect state.exchange (.pump (.dispatch completion rest))
        runtime := Runtime.effect decode state.runtime (.push call completion)
        delivery := some call }

def system (decode : ByteArray → String) : GuardedSystem State Action where
  start := start
  guard := guard
  effect := effect decode

instance decidableExchangeAllows (state : State) (action : Exchange.Action) :
    Decidable (ExchangeAllows state action) := by
  unfold ExchangeAllows
  split <;> infer_instance

instance decidableRuntimeAllows (state : State) (action : Runtime.Action) :
    Decidable (RuntimeAllows state action) :=
  decidable_of_iff
    ((match action with
      | .push _ _ => false
      | .close _ worker => decide (worker ∈ state.opened)
      | _ => true) = true)
    (by
      unfold RuntimeAllows
      split <;> simp)

instance decidableLoopAllows (state : State) (worker : Worker) (step : LoopStep) :
    Decidable (LoopAllows state worker step) := by
  unfold LoopAllows
  split <;> infer_instance

instance decidableStep (decode : ByteArray → String) (state : State) (action : Action) :
    Decidable ((system decode).guard state action) :=
  match action with
  | .exchange action =>
      have := Exchange.decidableGuard state.exchange action
      inferInstanceAs (Decidable (Exchange.machine.guard state.exchange action ∧ _))
  | .runtime action => inferInstanceAs (Decidable (Runtime.guard state.runtime action ∧ _))
  | .loop worker kind step => inferInstanceAs (Decidable ((state.loops worker kind).guard step ∧ _))
  | .start call worker =>
      have : Decidable (∀ kind ∈ taskKinds, (state.loops worker kind).phase = .absent) :=
        List.decidableBAll _ taskKinds
      inferInstanceAs (Decidable (state.runtime.phase call = .created worker ∧ _))
  | .deliver call completion rest =>
      have := Exchange.decidableGuard state.exchange (.pump (.dispatch completion rest))
      inferInstanceAs (Decidable
        (Exchange.machine.guard state.exchange (.pump (.dispatch completion rest)) ∧
          state.busy = false ∧ Runtime.guard state.runtime (.push call completion)))

section Projections

variable {decode : ByteArray → String}

/-- What a loop pushes is an event that the bridge may push. -/
theorem pushes_event {worker : Worker} {kind : TaskKind} {step : LoopStep} {pending : Pending}
    (pushed : Loop.pushes worker kind step = some pending) :
    pending.reqId = 0 ∧ Exchange.pushable pending.kind := by
  cases step with
  | poll outcome =>
      cases outcome with
      | task bytes =>
          cases pushed
          cases kind <;> exact ⟨rfl, rfl⟩
      | shutDown =>
          cases pushed
          exact ⟨rfl, rfl⟩
      | error message => cases pushed
  | report message =>
      cases pushed
      exact ⟨rfl, rfl⟩
  | reportPanic message =>
      cases pushed
      exact ⟨rfl, rfl⟩
  | pushEnd =>
      cases pushed
      exact ⟨rfl, rfl⟩
  | _ => cases pushed

/-- The pump and the bridge take steps of their own machine only. -/
theorem exchange_projects : (system decode).Projects Exchange.machine State.exchange where
  start := rfl
  step := by
    intro state action ready
    cases action with
    | exchange action => exact .inr ⟨action, ready.1, rfl⟩
    | runtime action => exact .inl rfl
    | loop worker kind step =>
        cases pushed : Loop.pushes worker kind step with
        | none =>
            left
            simp [system, effect, pushed]
        | some pending =>
            right
            refine ⟨.native (.event pending), pushes_event pushed, ?_⟩
            simp only [system, effect, pushed]
            rfl
    | start call worker => exact .inl rfl
    | deliver call completion rest => exact .inr ⟨.pump (.dispatch completion rest), ready.1, rfl⟩

/-- The runtime takes steps of its own machine only. -/
theorem runtime_projects : (system decode).Projects (Runtime.system decode) State.runtime where
  start := rfl
  step := by
    intro state action ready
    cases action with
    | exchange action => exact .inl rfl
    | runtime action => exact .inr ⟨action, ready.1, rfl⟩
    | loop worker kind step => exact .inl rfl
    | start call worker => exact .inl rfl
    | deliver call completion rest => exact .inr ⟨.push call completion, ready.2.2, rfl⟩

/-- Every loop is sound. -/
theorem loops_sound {state : State} (reached : (system decode).Reachable state) :
    ∀ worker kind, (state.loops worker kind).Sound := by
  have invariant : (system decode).Invariant fun state =>
      ∀ worker kind, (state.loops worker kind).Sound := by
    refine ⟨fun _ _ => Loop.sound_absent, ?_⟩
    intro state action _ sound ready
    cases action with
    | loop worker kind step =>
        intro other this
        simp only [system, effect]
        by_cases same : other = worker
        · subst same
          rw [Function.update_self]
          by_cases own : this = kind
          · subst own
            rw [Function.update_self]
            exact (sound other this).step ready.1
          · rw [Function.update_of_ne own]
            exact sound other this
        · rw [Function.update_of_ne same]
          exact sound other this
    | start call worker =>
        intro other this
        simp only [system, effect]
        by_cases same : other = worker
        · subst same
          rw [Function.update_self]
          refine (sound other this).spawn (ready.2 this ?_)
          cases this <;> simp [taskKinds]
        · rw [Function.update_of_ne same]
          exact sound other this
    | _ => exact sound
  exact invariant.reachable reached

end Projections

end KtBridge.Delivery
