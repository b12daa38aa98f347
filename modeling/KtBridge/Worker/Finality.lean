import KtBridge.Worker.Lifecycle

/-! # When a force-close is final

A force-closed worker stays `Finalized`, unless a `finalize` that still waits for the
last reference finds its deadline passed: the next thing it does is to store the Core
worker back.
-/

namespace KtBridge.Worker

open Foundation

/-- Whoever holds the shutdown lock has found its deadline passed. -/
def State.Restoring (state : State) : Prop :=
  state.shutdownLock.any fun held => held.2 = .restoring

instance (state : State) : Decidable state.Restoring := inferInstanceAs (Decidable (_ = true))

/-- No `finalize` finds its deadline passed once `free` has run, and `free` does not
run where one has just found it passed. -/
def Unrestored (state : State) : Action → Prop
  | .compareDeadline _ true => state.freed = false
  | .free => ¬ state.Restoring
  | _ => True

instance (state : State) (action : Action) : Decidable (Unrestored state action) := by
  unfold Unrestored
  split <;> infer_instance

instance (state : State) (action : Action) :
    Decidable ((machine.restrict Unrestored).guard state action) :=
  inferInstanceAs (Decidable (guard state action ∧ Unrestored state action))

/-- A force-closed worker is finalized, and nobody is about to store it back. -/
structure State.Closed (state : State) : Prop where
  freed : state.freed
  finalized : state.worker = .finalized
  settled : ¬ state.Restoring

/-- A step that leaves the worker alone and brings nobody to the assignment. -/
theorem State.Closed.same {state next : State} (closed : state.Closed)
    (freed : next.freed = state.freed) (worker : next.worker = state.worker)
    (lock : next.Restoring → state.Restoring) : next.Closed where
  freed := freed.trans closed.freed
  finalized := worker.trans closed.finalized
  settled := fun restoring => closed.settled (lock restoring)

/-- The holder of the lock goes on to anything but the assignment. -/
theorem State.Closed.goOn {state next : State} (closed : state.Closed) {job : Job} {step : Step}
    (freed : next.freed = state.freed) (worker : next.worker = .finalized)
    (lock : next.shutdownLock = some (job, step)) (other : step ≠ .restoring) : next.Closed where
  freed := freed.trans closed.freed
  finalized := worker
  settled := by
    intro restoring
    rw [State.Restoring, lock] at restoring
    exact other (of_decide_eq_true restoring)

/-- No step that meets the condition undoes a force-close. -/
theorem closed_step {state : State} {action : Action} (closed : state.Closed)
    (ready : guard state action) (unrestored : Unrestored state action) :
    (effect state action).Closed := by
  have finalized := closed.finalized
  cases action with
  | start call =>
      simp only [effect, finalized]
      exact closed.same rfl finalized.symm id
  | free => exact ⟨rfl, rfl, closed.settled⟩
  | acquire job => exact closed.goOn rfl finalized rfl (by simp)
  | readState call =>
      simp only [effect, finalized]
      exact closed.goOn rfl finalized rfl (by simp)
  | initiate job started =>
      refine closed.goOn rfl finalized rfl ?_
      cases started <;> simp
  | discard job => exact closed.goOn rfl rfl rfl (by simp)
  | dropCore job => exact closed.goOn rfl finalized rfl (by simp)
  | loadLivePumps job expired =>
      refine closed.goOn rfl finalized rfl ?_
      split
      · simp
      · cases expired <;> simp
  | wake job => exact closed.goOn rfl finalized rfl (by simp)
  | spawnBackground call => exact closed.goOn rfl finalized rfl (by simp)
  | check job =>
      refine closed.goOn rfl finalized rfl ?_
      simp [finalized]
  | close job => exact closed.goOn rfl rfl rfl (by simp)
  | tryUnwrap job =>
      simp only [effect]
      split
      · exact closed.goOn rfl finalized rfl (by simp)
      · exact closed.goOn rfl finalized rfl (by simp)
  | compareDeadline job expired =>
      cases expired with
      | false => exact closed.goOn rfl finalized rfl (by simp)
      | true =>
          have unfreed : state.freed = false := unrestored
          exact absurd (unfreed.symm.trans closed.freed) (by simp)
  | retry job => exact closed.goOn rfl finalized rfl (by simp)
  | restore job =>
      refine absurd ?_ closed.settled
      rw [State.Restoring, ready.1]
      rfl
  | finishFinalize job => exact closed.goOn rfl finalized rfl (by simp)
  | finish job result =>
      refine closed.same rfl rfl fun restoring => ?_
      cases restoring
  | observe call =>
      simp only [effect]
      split <;> exact closed.same rfl rfl id
  | takeCore call =>
      simp only [effect, finalized, ↓reduceIte]
      exact closed.goOn rfl finalized rfl (by simp)
  | cancel call =>
      simp only [effect]
      split
      · exact closed.same rfl rfl id
      · refine closed.same rfl rfl fun restoring => ?_
        cases restoring
  | _ => exact closed.same rfl rfl id

/-- Only `free` force-closes. -/
theorem freed_step {state : State} {action : Action} (now : (effect state action).freed) :
    state.freed ∨ action = .free := by
  cases action with
  | free => exact Or.inr rfl
  | start call =>
      simp only [effect] at now
      split at now <;> exact Or.inl now
  | readState call =>
      simp only [effect] at now
      split at now <;> exact Or.inl now
  | tryUnwrap job =>
      simp only [effect] at now
      split at now <;> exact Or.inl now
  | observe call =>
      simp only [effect] at now
      split at now <;> exact Or.inl now
  | takeCore call =>
      simp only [effect] at now
      split at now <;> exact Or.inl now
  | cancel call =>
      simp only [effect] at now
      split at now <;> exact Or.inl now
  | _ => exact Or.inl now

/-- `free` closes the worker, whatever it was. -/
theorem closed_of_freed {state : State} (reached : (machine.restrict Unrestored).Reachable state)
    (freed : state.freed) : state.Closed := by
  have invariant : (machine.restrict Unrestored).Invariant
      fun state => state.freed → state.Closed := by
    refine ⟨(by intros; contradiction), ?_⟩
    intro state action _ before ready now
    by_cases was : state.freed
    · exact closed_step (before was) ready.1 ready.2
    · obtain rfl := (freed_step now).resolve_left was
      exact ⟨rfl, rfl, ready.2⟩
  exact invariant.reachable reached freed

/-- Where no `finalize` finds its deadline passed after `free` has run, nor `free` runs
where one just has, the worker is `Finalized` and has no Core to give in every state
from the force-close on. -/
theorem force_close_is_final (state : State)
    (reached : (machine.restrict Unrestored).Reachable state) (freed : state.freed)
    (trace : List Action) (runs : (machine.restrict Unrestored).Runs state trace) :
    ((machine.restrict Unrestored).after state trace).worker = .finalized ∧
      ((machine.restrict Unrestored).after state trace).core = .error .workerShutDown := by
  have closed : ((machine.restrict Unrestored).after state trace).Closed :=
    reached.keeps (fun _ _ _ before ready => closed_step before ready.1 ready.2)
      (closed_of_freed reached freed) runs
  exact ⟨closed.finalized, by rw [State.core, closed.finalized]⟩

/-- A step that breaks the condition leaves a force-closed worker about to be stored back. -/
theorem restoring_of_not_unrestored {state : State} {action : Action} (ready : guard state action)
    (late : ¬ Unrestored state action) :
    (effect state action).freed ∧ (effect state action).Restoring := by
  cases action with
  | compareDeadline job expired =>
      cases expired with
      | false => exact absurd trivial late
      | true => exact ⟨Bool.eq_true_of_not_eq_false late, rfl⟩
  | free => exact ⟨rfl, not_not.mp late⟩
  | _ => exact absurd trivial late

/-- Nothing takes whoever is about to store the worker back off its course. -/
theorem restoring_step {state : State} {action : Action} (restoring : state.Restoring)
    (ready : guard state action) :
    (effect state action).Restoring ∨ (effect state action).worker = .draining := by
  obtain ⟨job, held⟩ : ∃ job, state.shutdownLock = some (job, .restoring) := by
    cases lock : state.shutdownLock with
    | none =>
        rw [State.Restoring, lock] at restoring
        cases restoring
    | some pair =>
        rw [State.Restoring, lock] at restoring
        exact ⟨pair.1, congrArg some (Prod.ext rfl (of_decide_eq_true restoring))⟩
  have others : ∀ {other : Job} {step : Step}, state.shutdownLock = some (other, step) →
      step = .restoring := by
    intro other step there
    rw [held] at there
    cases there
    rfl
  cases action with
  | restore job => exact Or.inr rfl
  | start call =>
      simp only [effect]
      split <;> exact Or.inl restoring
  | observe call =>
      simp only [effect]
      split <;> exact Or.inl restoring
  | acquire job => exact absurd (held.symm.trans ready.2) (by simp)
  | cancel call =>
      by_cases waiting : state.jobs (.shutdown call) = .waiting
      · simp only [effect, waiting, ↓reduceIte]
        exact Or.inl restoring
      · simp [guard, State.atAwait, waiting, held, Step.awaits] at ready
  | readState call => exact absurd (others ready.1) (by simp)
  | initiate job started => exact absurd (others ready) (by simp)
  | discard job => exact absurd (others ready.1) (by simp)
  | dropCore job => exact absurd (others ready) (by simp)
  | loadLivePumps job expired => exact absurd (others ready) (by simp)
  | wake job => exact absurd (others ready) (by simp)
  | spawnBackground call => exact absurd (others ready) (by simp)
  | check job => exact absurd (others ready.1) (by simp)
  | close job => exact absurd (others ready.1) (by simp)
  | tryUnwrap job => exact absurd (others ready) (by simp)
  | compareDeadline job expired => exact absurd (others ready) (by simp)
  | retry job => exact absurd (others ready) (by simp)
  | finishFinalize job => exact absurd (others ready) (by simp)
  | finish job result => exact absurd (others ready) (by simp)
  | takeCore call => exact absurd (others ready.1) (by simp)
  | _ => exact Or.inl restoring

/-- A worker that was started and whose pumps have all left while a shutdown waits. -/
def drainedTrace : List Action :=
  [.start 0, .storeLivePumps 0, .spawn 0 .workflowActivation [.activity, .nexus],
    .spawn 0 .activity [.nexus], .spawn 0 .nexus [], .startReturn 0,
    .shutdown 0, .acquire (.shutdown 0), .readState 0, .initiate (.shutdown 0) true,
    .exit 0 .shutDown, .leave 0, .exit 1 .shutDown, .leave 1, .exit 2 .shutDown, .leave 2]

/-- A heartbeat in flight holds the reference when `finalize` tries to unwrap it. -/
def sharedTrace : List Action :=
  drainedTrace ++ [.borrow 0, .loadLivePumps (.shutdown 0) false, .check (.shutdown 0),
    .close (.shutdown 0), .tryUnwrap (.shutdown 0)]

/-- A worker force-closed while `finalize` waits for a heartbeat; the heartbeat gives
its reference back in time and `finalize` goes through. -/
theorem force_close_is_final_drained :
    ((machine.restrict Unrestored).after start
      (sharedTrace ++ [.free, .abort 0 [1, 2], .abort 1 [2], .abort 2 [], .freeReturn,
        .compareDeadline (.shutdown 0) false, .giveBack 0, .retry (.shutdown 0),
        .tryUnwrap (.shutdown 0), .finishFinalize (.shutdown 0),
        .finish (.shutdown 0) (.ok ())])).worker = .finalized := by
  have runs : (machine.restrict Unrestored).Runs start
      (sharedTrace ++ [.free, .abort 0 [1, 2], .abort 1 [2], .abort 2 [], .freeReturn]) := by
    decide
  have later := force_close_is_final _ (GuardedSystem.Reachable.start.run runs) (by decide)
    [.compareDeadline (.shutdown 0) false, .giveBack 0, .retry (.shutdown 0),
      .tryUnwrap (.shutdown 0), .finishFinalize (.shutdown 0), .finish (.shutdown 0) (.ok ())]
    (by decide)
  rw [← GuardedSystem.after_append] at later
  exact later.1

/-- `free` runs while `finalize` waits for the heartbeat; then the deadline passes. -/
def restoredTrace : List Action :=
  sharedTrace ++ [.free, .abort 0 [1, 2], .abort 1 [2], .abort 2 [], .freeReturn,
    .compareDeadline (.shutdown 0) true, .restore (.shutdown 0)]

theorem restored_run :
    machine.Runs start restoredTrace ∧ (machine.after start restoredTrace).freed ∧
      (machine.after start restoredTrace).worker = .draining ∧
      (machine.after start restoredTrace).core = .ok () := by
  decide

/-- Without the condition a force-closed worker comes back. -/
theorem force_close_undone :
    ¬ ∀ state, machine.Reachable state → state.freed → state.worker = .finalized := by
  intro always
  have reached := GuardedSystem.Reachable.start.run restored_run.1
  have finalized := always _ reached restored_run.2.1
  exact absurd (restored_run.2.2.1.symm.trans finalized) (by simp)

end KtBridge.Worker
