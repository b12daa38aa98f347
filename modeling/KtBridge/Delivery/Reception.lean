import KtBridge.Delivery.Pumping
import KtBridge.TaskStream.Delivery

/-! # A worker that nobody closes

In the runs in which nobody begins to close a worker or its runtime, the worker stays registered from
before its loops start, and no call is about to end its streams. -/

namespace KtBridge.Delivery

open Foundation
open Pump (Completion Call Throwable)
open KtBridge.Runtime (KtTaskKind Worker Phase)
open KtBridge.Worker (TaskKind)

/-- Whether a step begins to close the worker, or the runtime. -/
def Action.closes (worker : Worker) : Action → Bool
  | .runtime (.remove _ other _) => other = worker
  | .runtime (.shut _) => true
  | _ => false

/-- The runs in which the worker and its runtime stay open. -/
def keeping (decode : ByteArray → String) (worker : Worker) : GuardedSystem State Action :=
  (system decode).restrict fun _ action => action.closes worker = false

instance decidableKeeping (decode : ByteArray → String) (worker : Worker) (state : State)
    (action : Action) : Decidable ((keeping decode worker).guard state action) :=
  inferInstanceAs (Decidable ((system decode).guard state action ∧ action.closes worker = false))

/-- Whether a call is past the first step of closing the worker, or the runtime. -/
def harms (worker : Worker) : Phase → Bool
  | .freeing other _ | .closing other _ _ | .closingChannel other _ _ _ => other = worker
  | .sweeping _ | .endingStream _ _ _ | .endingFlag _ _ _ _ _ | .endingChannel _ _ _ _ _ => true
  | .stopping | .clearing => true
  | _ => false

namespace State

/-- What a call may be up to while the worker stays open. -/
structure Fits (state : State) (worker : Worker) (phase : Phase) : Prop where
  harmless : harms worker phase = false
  created : phase = .created worker → worker ∈ state.runtime.handlers

/-- Nobody closes the worker or the runtime, and its loops run once it is registered. -/
structure Undisturbed (worker : Worker) (state : State) : Prop where
  opened : state.runtime.closed = false
  fits : ∀ call, state.Fits worker (state.runtime.phase call)
  started : ∀ kind, (state.loops worker kind).phase ≠ .absent → worker ∈ state.runtime.handlers

end State

section Undisturbed

variable {decode : ByteArray → String} {worker : Worker} {state next : State}

/-- A call fits where the handler stays. -/
theorem State.Fits.keep {phase : Phase} (fits : state.Fits worker phase)
    (handlers : worker ∈ state.runtime.handlers → worker ∈ next.runtime.handlers) :
    next.Fits worker phase :=
  ⟨fits.harmless, fun created => handlers (fits.created created)⟩

/-- A call that neither closes nor has created fits anywhere. -/
theorem State.fits_of_harmless {phase : Phase} (harmless : harms worker phase = false)
    (created : phase ≠ .created worker) : state.Fits worker phase :=
  ⟨harmless, fun same => absurd same created⟩

/-- Where `onEvent` goes on, it closes nothing. -/
theorem onEvent_harmless (decode : ByteArray → String) (runtime : Runtime.State) (call : Call)
    (completion : Completion) (worker : Worker) :
    ∃ after, (Runtime.onEvent decode runtime call completion).phase =
        Function.update runtime.phase call after ∧
      harms worker after = false ∧ after ≠ .created worker := by
  unfold Runtime.onEvent
  split
  · split <;> exact ⟨_, rfl, rfl, by simp⟩
  · split
    · exact ⟨_, rfl, rfl, by simp⟩
    · split
      · exact ⟨_, rfl, rfl, by simp⟩
      · split <;> exact ⟨_, rfl, rfl, by simp⟩

/-- A worker that is not being closed stays registered. -/
theorem handlers_kept (undisturbed : state.Undisturbed worker) {action : Runtime.Action}
    (ready : guard state (.runtime action)) (open_ : Action.closes worker (.runtime action) = false)
    (registered : worker ∈ state.runtime.handlers) :
    worker ∈ (Runtime.effect decode state.runtime action).handlers := by
  cases action with
  | workerNew call handle => cases handle <;> exact registered
  | onWorkerEvents call other =>
      simp only [Runtime.effect]
      split
      · exact registered
      · exact Finset.mem_insert_of_mem registered
  | remove call other failed =>
      have different : other ≠ worker := by simpa [Action.closes] using open_
      exact Finset.mem_erase_of_ne_of_mem different.symm registered
  | flag call other failed kinds => cases kinds <;> exact registered
  | endStream call other kinds remaining => cases kinds <;> exact registered
  | onPushed call completion =>
      simp only [Runtime.effect]
      split <;> exact registered
  | onEvent call completion =>
      exact (Runtime.State.onEvent_handlers decode state.runtime call completion).1.symm ▸ registered
  | clear call =>
      have harmless := (undisturbed.fits call).harmless
      rw [show state.runtime.phase call = _ from ready.1] at harmless
      cases harmless
  | _ => exact registered

/-- Only the close of the runtime closes it. -/
theorem runtime_opened (undisturbed : state.Undisturbed worker) {action : Runtime.Action}
    (open_ : Action.closes worker (.runtime action) = false) :
    (Runtime.effect decode state.runtime action).closed = false := by
  have opened := undisturbed.opened
  cases action with
  | workerNew call handle => cases handle <;> exact opened
  | onWorkerEvents call other =>
      simp only [Runtime.effect]
      split <;> exact opened
  | flag call other failed kinds => cases kinds <;> exact opened
  | endStream call other kinds remaining => cases kinds <;> exact opened
  | onPushed call completion =>
      simp only [Runtime.effect]
      split <;> exact opened
  | onEvent call completion =>
      exact (Runtime.State.onEvent_handlers decode state.runtime call completion).2.trans opened
  | shut call => cases open_
  | _ => exact opened

/-- A step of the runtime leaves no call closing the worker. -/
theorem fits_runtime {action : Runtime.Action} (undisturbed : state.Undisturbed worker)
    (ready : guard state (.runtime action))
    (open_ : Action.closes worker (.runtime action) = false) :
    ∀ call, (effect decode state (.runtime action)).Fits worker
      ((effect decode state (.runtime action)).runtime.phase call) := by
  have keep : ∀ call, (effect decode state (.runtime action)).Fits worker
      (state.runtime.phase call) :=
    fun call => (undisturbed.fits call).keep (handlers_kept undisturbed ready open_)
  have moved : ∀ {call phase}, harms worker phase = false → phase ≠ .created worker →
      ∀ other, (effect decode state (.runtime action)).Fits worker
        (Function.update state.runtime.phase call phase other) :=
    fun harmless created => @forall_update
      (fun _ phase => (effect decode state (.runtime action)).Fits worker phase) _ _ _ keep
        (State.fits_of_harmless harmless created)
  have harmless : ∀ {call phase}, state.runtime.phase call = phase → harms worker phase = false := by
    intro call phase here
    exact here ▸ (undisturbed.fits call).harmless
  obtain ⟨ready, allowed⟩ := ready
  cases action with
  | ensureOpen call =>
      refine moved ?_ ?_
      · split <;> rfl
      · split <;> simp
  | workerNew call handle => cases handle <;> exact moved rfl (by simp)
  | validate call other accepted =>
      refine moved ?_ ?_
      · split <;> rfl
      · split <;> simp
  | onWorkerEvents call other =>
      simp only [effect, Runtime.effect, undisturbed.opened, Bool.false_eq_true, if_false] at keep ⊢
      refine @forall_update (fun _ phase => State.Fits _ worker phase) _ _ _ keep ⟨rfl, fun same => ?_⟩
      cases same
      exact Finset.mem_insert_self ..
  | remove call other failed =>
      have different : other ≠ worker := by simpa [Action.closes] using open_
      exact moved (decide_eq_false different) (by simp)
  | free call other failed =>
      have quiet := harmless ready
      exact moved quiet (by simp)
  | flag call other failed kinds =>
      cases kinds with
      | nil =>
          refine moved ?_ ?_
          · split <;> rfl
          · split <;> simp
      | cons kind kinds =>
          have quiet := harmless ready
          exact moved quiet (by simp)
  | channel call other failed kind kinds =>
      have quiet := harmless ready
      exact moved quiet (by simp)
  | shut call => cases open_
  | push call completion => exact allowed.elim
  | onPushed call completion =>
      by_cases taken : ¬Runtime.logs completion ∧ completion.aux0 ∈ state.runtime.handlers
      · simp only [effect, Runtime.effect, if_pos taken] at moved ⊢
        exact moved rfl (by simp)
      · simp only [effect, Runtime.effect, if_neg taken] at moved ⊢
        exact moved rfl (by simp)
  | onEvent call completion =>
      obtain ⟨after, phases, quiet, created⟩ :=
        onEvent_harmless decode state.runtime call completion worker
      intro other
      rw [show (effect decode state (.runtime (.onEvent call completion))).runtime.phase =
        Function.update state.runtime.phase call after from phases]
      exact moved quiet created other
  | receive other kind action => exact keep
  | visit call other remaining => cases harmless ready.1
  | pass call other remaining => cases harmless ready.1
  | endStream call other kinds remaining => cases harmless ready
  | endFlag call other kind cause kinds remaining => cases harmless ready
  | endChannel call other kind cause kinds remaining => cases harmless ready
  | stop call => cases harmless ready
  | runtimeFree call interrupted => cases harmless ready
  | clear call => cases harmless ready
  | _ => exact moved rfl (by simp)

/-- A loop that takes a step was spawned. -/
theorem Loop.spawned_of_guard {loop : Loop} {step : LoopStep} (ready : loop.guard step) :
    loop.phase ≠ .absent := by
  intro absent
  cases step <;> simp [Loop.guard, absent, LoopPhase.guarded, LoopPhase.awaits] at ready

/-- A step of a loop spawns no loop. -/
theorem spawned_before (decode : ByteArray → String) {other : Worker} {kind this : TaskKind} {step : LoopStep}
    (ready : guard state (.loop other kind step))
    (spawned : ((effect decode state (.loop other kind step)).loops worker this).phase ≠ .absent) :
    (state.loops worker this).phase ≠ .absent := by
  intro absent
  apply spawned
  simp only [effect]
  by_cases same : worker = other
  · subst same
    rw [Function.update_self]
    by_cases own : this = kind
    · subst own
      exact absurd absent (Loop.spawned_of_guard ready.1)
    · rwa [Function.update_of_ne own]
  · rwa [Function.update_of_ne same]

theorem undisturbed_invariant (decode : ByteArray → String) (worker : Worker) :
    (keeping decode worker).Invariant (State.Undisturbed worker) where
  start := by
    refine ⟨rfl, fun call => State.fits_of_harmless rfl fun impossible => ?_, ?_⟩
    · cases impossible
    · exact fun kind spawned => absurd rfl spawned
  step := by
    intro state action reached undisturbed ready
    obtain ⟨ready, open_⟩ := ready
    cases action with
    | exchange action =>
        exact ⟨undisturbed.opened, fun call => (undisturbed.fits call).keep id, undisturbed.started⟩
    | runtime action =>
        exact ⟨runtime_opened undisturbed open_, fits_runtime undisturbed ready open_,
          fun kind spawned => handlers_kept undisturbed ready open_ (undisturbed.started kind spawned)⟩
    | loop other kind step =>
        exact ⟨undisturbed.opened, fun call => (undisturbed.fits call).keep id,
          fun this spawned => undisturbed.started this (spawned_before decode ready spawned)⟩
    | start call other =>
        refine ⟨undisturbed.opened, fun call => (undisturbed.fits call).keep id, ?_⟩
        intro this spawned
        by_cases same : worker = other
        · subst same
          exact (undisturbed.fits call).created ready.1
        · refine undisturbed.started this fun absent => spawned ?_
          simp only [keeping, GuardedSystem.restrict, system, effect, Function.update_of_ne same]
          exact absent
    | deliver call completion rest =>
        refine ⟨undisturbed.opened, ?_, undisturbed.started⟩
        exact @forall_update (fun _ phase => State.Fits _ worker phase) _ _ _
          (fun other => (undisturbed.fits other).keep id)
          (State.fits_of_harmless rfl fun impossible => by cases impossible)

end Undisturbed

end KtBridge.Delivery
