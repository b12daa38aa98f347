import KtBridge.Worker.Finality

/-! # When a shutdown's answer is true

A successful shutdown means that Core was finalized, unless an earlier shutdown was
cancelled inside `finalize`, which drops the only reference. A shutdown that fails says
what is left to do.
-/

namespace KtBridge.Worker

open Foundation

/-- Somebody is inside `finalize`, past its first line. -/
def State.Finalizing (state : State) : Prop :=
  ∃ job step, state.shutdownLock = some (job, step) ∧ step.finalizes

theorem Step.busy_of_finalizes {step : Step} (inside : step.finalizes) : ¬ step.idle := by
  cases step with
  | returning result => cases inside
  | locked => cases inside
  | _ => (intro impossible; cases impossible)

/-- No shutdown is cancelled while it is inside `finalize`. -/
def Unabandoned (state : State) : Action → Prop
  | .cancel call => state.shutdownLock.all
      (fun held => held.1 = .shutdown call → held.2.finalizes = false)
  | _ => True

instance (state : State) (action : Action) : Decidable (Unabandoned state action) :=
  decidable_of_iff
    ((match action with
      | .cancel call => state.shutdownLock.all
          (fun held => held.1 = .shutdown call → held.2.finalizes = false)
      | _ => true) = true)
    (by
      unfold Unabandoned
      split
      · exact Iff.rfl
      · exact iff_of_true rfl trivial)

instance (state : State) (action : Action) :
    Decidable ((machine.restrict Unabandoned).guard state action) :=
  inferInstanceAs (Decidable (guard state action ∧ Unabandoned state action))

/-- A worker that was started and never force-freed is finalized only when Core's
shutdown is completed, or somebody is at it. -/
def State.Owed (state : State) : Prop :=
  state.started → state.freed = false → state.worker = .finalized →
    state.finalizeDone = 1 ∨ state.Finalizing

/-- A step that leaves the worker's state and the lock's holder as they are. -/
theorem State.Owed.same {state next : State} (owed : state.Owed)
    (worker : next.worker = state.worker) (lock : next.shutdownLock = state.shutdownLock)
    (started : next.started = state.started) (freed : next.freed = state.freed)
    (done : next.finalizeDone = state.finalizeDone) : next.Owed := by
  intro wasStarted unfreed finalized
  rw [started] at wasStarted
  rw [freed] at unfreed
  rw [worker] at finalized
  rcases owed wasStarted unfreed finalized with ended | ⟨job, step, held, inside⟩
  · exact Or.inl (done.trans ended)
  · exact Or.inr ⟨job, step, lock.trans held, inside⟩

/-- The holder of the lock goes on inside `finalize`. -/
theorem State.Owed.finalizing {next : State} {job : Job} {step : Step}
    (lock : next.shutdownLock = some (job, step)) (inside : step.finalizes) : next.Owed :=
  fun _ _ _ => Or.inr ⟨job, step, lock, inside⟩

/-- The holder of the lock goes on outside `finalize`. -/
theorem State.Owed.goOn {state next : State} (owed : state.Owed) {job : Job} {step : Step}
    (held : state.shutdownLock = some (job, step)) (outside : step.finalizes = false)
    (worker : next.worker = state.worker) (started : next.started = state.started)
    (freed : next.freed = state.freed) (done : next.finalizeDone = state.finalizeDone) :
    next.Owed := by
  intro wasStarted unfreed finalized
  rw [started] at wasStarted
  rw [freed] at unfreed
  rw [worker] at finalized
  rcases owed wasStarted unfreed finalized with ended | ⟨other, value, there, inside⟩
  · exact Or.inl (done.trans ended)
  · rw [held] at there
    cases there
    rw [outside] at inside
    cases inside

/-- Steps that do not abandon `finalize` keep what is owed. -/
theorem owed_step {state : State} {action : Action} (consistent : state.Consistent)
    (owed : state.Owed) (ready : guard state action) (unabandoned : Unabandoned state action) :
    (effect state action).Owed := by
  have facts := fun job step => consistent.progress.facts job step
  cases action with
  | start call =>
      cases worker : state.worker with
      | running started =>
          cases started <;> simp only [effect, worker] <;> (intro _ _ impossible; cases impossible)
      | draining =>
          simp only [effect, worker]
          (intro _ _ impossible; cases impossible)
      | finalized =>
          simp only [effect, worker]
          exact owed.same worker.symm rfl rfl rfl rfl
  | free => (intro _ impossible; cases impossible)
  | acquire job =>
      intro started unfreed finalized
      rcases owed started unfreed finalized with ended | ⟨other, value, held, _⟩
      · exact Or.inl ended
      · rw [ready.2] at held
        cases held
  | readState call =>
      cases worker : state.worker with
      | finalized =>
          simp only [effect, worker]
          exact owed.goOn ready.1 rfl rfl rfl rfl rfl
      | running started =>
          simp only [effect, worker]
          (intro _ _ impossible; cases impossible)
      | draining =>
          simp only [effect, worker]
          exact fun _ _ finalized => absurd (worker.symm.trans finalized) (by simp)
  | initiate job started => exact owed.goOn ready rfl rfl rfl rfl rfl
  | discard job =>
      intro started
      exact absurd (started.symm.trans (facts _ _ ready.1).1) (by simp)
  | dropCore job => exact owed.goOn ready rfl rfl rfl rfl rfl
  | loadLivePumps job expired => exact owed.goOn ready rfl rfl rfl rfl rfl
  | wake job => exact owed.goOn ready rfl rfl rfl rfl rfl
  | spawnBackground call => exact owed.goOn ready rfl rfl rfl rfl rfl
  | check job => exact owed.goOn ready.1 rfl rfl rfl rfl rfl
  | close job => exact State.Owed.finalizing rfl rfl
  | tryUnwrap job =>
      simp only [effect]
      split <;> exact State.Owed.finalizing rfl rfl
  | compareDeadline job expired =>
      cases expired <;> exact State.Owed.finalizing rfl rfl
  | retry job => exact State.Owed.finalizing rfl rfl
  | restore job => (intro _ _ impossible; cases impossible)
  | finishFinalize job =>
      intro _ _ _
      left
      simp only [effect, State.goOn, (consistent.shared.finishing job ready).2]
  | finish job result => exact owed.goOn ready rfl rfl rfl rfl rfl
  | observe call =>
      simp only [effect]
      split
      · exact owed.same rfl rfl rfl rfl rfl
      · exact owed
  | takeCore call =>
      simp only [effect]
      split <;> exact owed.goOn ready.1 rfl rfl rfl rfl rfl
  | cancel call =>
      by_cases waiting : state.jobs (.shutdown call) = .waiting
      · simp only [effect, waiting, ↓reduceIte]
        exact owed.same rfl rfl rfl rfl rfl
      · obtain ⟨step, held, _⟩ := State.Progress.atAwait_of_not_waiting ready waiting
        have outside : step.finalizes = false := by
          simpa [Unabandoned, held] using unabandoned
        simp only [effect, waiting, ↓reduceIte]
        exact owed.goOn held outside rfl rfl rfl rfl
  | _ => exact owed.same rfl rfl rfl rfl rfl

/-- In runs that do not abandon `finalize`, every state keeps what is owed. -/
theorem consistent_and_owed {state : State}
    (reached : (machine.restrict Unabandoned).Reachable state) : state.Consistent ∧ state.Owed := by
  refine ⟨consistent reached.of_restrict, ?_⟩
  have invariant : (machine.restrict Unabandoned).Invariant State.Owed := by
    refine ⟨(by intro impossible; cases impossible), ?_⟩
    intro state action reached before ready
    exact owed_step (consistent reached.of_restrict) before ready.1 ready.2
  exact invariant.reachable reached

/-- Whoever is inside `finalize` has not completed it. -/
theorem not_done_of_finalizing {state : State} (consistent : state.Consistent)
    (finalizing : state.Finalizing) : state.worker = .finalized ∧ state.finalizeDone = 0 := by
  obtain ⟨job, step, held, inside⟩ := finalizing
  have facts := consistent.progress.facts job step held
  have shared := consistent.shared
  have unrun : step.holds → state.finalizeDone = 0 := by
    intro holds
    have none := shared.unrun (shared.held job step held holds)
    have done := shared.done
    omega
  cases step with
  | unwrapping => exact ⟨facts.2, unrun rfl⟩
  | sharing => exact ⟨facts.2, unrun rfl⟩
  | resting => exact ⟨facts.2, unrun rfl⟩
  | restoring => exact ⟨facts.2, unrun rfl⟩
  | finishing => exact ⟨facts.2, (shared.finishing job held).2⟩
  | _ => cases inside

/-- Once started, always started. -/
theorem started_step {state : State} {action : Action} (started : state.started) :
    (effect state action).started := by
  cases action with
  | start call =>
      simp only [effect]
      split
      · rfl
      · exact started
      · exact started
  | readState call =>
      simp only [effect]
      split <;> exact started
  | tryUnwrap job =>
      simp only [effect]
      split <;> exact started
  | observe call =>
      simp only [effect]
      split <;> exact started
  | takeCore call =>
      simp only [effect]
      split <;> exact started
  | cancel call =>
      simp only [effect]
      split <;> exact started
  | _ => exact started

/-- What an error of a shutdown stands for: the pumps were not gone in time and a
background finalizer was left to it, or `finalize` gave the Core worker back. -/
def State.Excused (state : State) (call : Nat) (message : String) : Prop :=
  message = notDrained ∧ state.jobs (.background call) ≠ .idle ∨ message = notFinalized

/-- Every error a shutdown returns, or is about to, stands for one of the two. -/
structure State.Excuses (state : State) : Prop where
  returning : ∀ call message,
    state.shutdownLock = some (.shutdown call, .returning (.error message)) →
      state.Excused call message
  returned : ∀ call message, state.jobs (.shutdown call) = .returned (.error message) →
    state.Excused call message

namespace State.Excuses

variable {state next : State}

/-- No job starts over, and an error is new only where it is excused. -/
theorem move (excuses : state.Excuses)
    (busy : ∀ job, state.jobs job ≠ .idle → next.jobs job ≠ .idle)
    (lock : ∀ call message,
      next.shutdownLock = some (.shutdown call, .returning (.error message)) →
        state.shutdownLock = some (.shutdown call, .returning (.error message)) ∨
          next.Excused call message)
    (jobs : ∀ call message, next.jobs (.shutdown call) = .returned (.error message) →
      state.jobs (.shutdown call) = .returned (.error message) ∨
        state.shutdownLock = some (.shutdown call, .returning (.error message))) :
    next.Excuses := by
  have kept : ∀ call message, state.Excused call message → next.Excused call message :=
    fun call _ excused => excused.imp (And.imp_right (busy (.background call))) id
  refine ⟨fun call message there => ?_, fun call message done => ?_⟩
  · rcases lock call message there with before | excused
    · exact kept _ _ (excuses.returning call message before)
    · exact excused
  · rcases jobs call message done with before | before
    · exact kept _ _ (excuses.returned call message before)
    · exact kept _ _ (excuses.returning call message before)

/-- The holder of the lock goes on to something other than an error. -/
theorem goOn (excuses : state.Excuses) {job : Job} {step : Step}
    (jobs : next.jobs = state.jobs) (lock : next.shutdownLock = some (job, step))
    (other : ∀ message, step ≠ .returning (.error message)) : next.Excuses := by
  refine excuses.move (fun other busy => jobs ▸ busy) ?_ fun call message done => Or.inl (jobs ▸ done)
  intro call message there
  rw [lock] at there
  exact absurd (Prod.mk.inj (Option.some.inj there)).2 (other message)

/-- A job goes on to a phase that answers nothing, and leaves the lock. -/
theorem setJob (excuses : state.Excuses) {job : Job} {phase : JobPhase}
    (jobs : next.jobs = Function.update state.jobs job phase) (started : phase ≠ .idle)
    (silent : ∀ message, phase ≠ .returned (.error message))
    (lock : ∀ call message,
      next.shutdownLock = some (.shutdown call, .returning (.error message)) →
        state.shutdownLock = some (.shutdown call, .returning (.error message)) ∨
          next.Excused call message) : next.Excuses := by
  refine excuses.move ?_ lock ?_
  · intro other busy
    rw [jobs, Function.update_apply]
    split
    · exact started
    · exact busy
  · intro call message done
    rw [jobs, Function.update_apply] at done
    split at done
    · exact absurd done (silent message)
    · exact Or.inl done

end State.Excuses

/-- Every error is excused, step by step. -/
theorem excuses_step {state : State} {action : Action} (excuses : state.Excuses)
    (ready : guard state action) : (effect state action).Excuses := by
  have same : ∀ {next : State}, next.jobs = state.jobs →
      next.shutdownLock = state.shutdownLock → next.Excuses := by
    intro next jobs lock
    exact excuses.move (fun job busy => jobs ▸ busy) (fun call message there =>
      Or.inl (lock ▸ there)) fun call message done => Or.inl (jobs ▸ done)
  cases action with
  | start call =>
      simp only [effect]
      split <;> exact same rfl rfl
  | shutdown call =>
      exact excuses.setJob rfl (by simp) (by simp) fun _ _ there => Or.inl there
  | acquire job =>
      refine excuses.setJob rfl (by simp) (by simp) fun call message there => ?_
      simp [effect] at there
  | readState call =>
      simp only [effect]
      split <;> exact excuses.goOn rfl rfl (by simp)
  | initiate job started =>
      refine excuses.goOn rfl rfl fun message => ?_
      cases started <;> simp
  | discard job => exact excuses.goOn rfl rfl (by simp)
  | dropCore job => exact excuses.goOn rfl rfl (by simp)
  | loadLivePumps job expired =>
      refine excuses.goOn rfl rfl fun message => ?_
      split
      · simp
      · cases expired <;> simp
  | wake job => exact excuses.goOn rfl rfl (by simp)
  | spawnBackground call =>
      refine excuses.setJob rfl (by simp) (by simp) fun other message there => Or.inr (Or.inl ?_)
      obtain ⟨job, step⟩ := Prod.mk.inj (Option.some.inj there)
      obtain rfl := Job.shutdown.inj job
      refine ⟨(Except.error.inj (Step.returning.inj step)).symm, ?_⟩
      simp [effect, State.goOn, State.setJob]
  | check job =>
      refine excuses.goOn rfl rfl fun message => ?_
      split <;> simp
  | close job => exact excuses.goOn rfl rfl (by simp)
  | tryUnwrap job =>
      simp only [effect]
      split <;> exact excuses.goOn rfl rfl (by simp)
  | compareDeadline job expired =>
      refine excuses.goOn rfl rfl fun message => ?_
      cases expired <;> simp
  | retry job => exact excuses.goOn rfl rfl (by simp)
  | restore job =>
      refine excuses.move (fun _ busy => busy) (fun call message there => ?_)
        fun _ _ done => Or.inl done
      have step := (Prod.mk.inj (Option.some.inj there)).2
      exact Or.inr (Or.inr (Except.error.inj (Step.returning.inj step)).symm)
  | finishFinalize job => exact excuses.goOn rfl rfl (by simp)
  | finish job result =>
      refine excuses.move ?_ (fun call message there => ?_) fun call message done => ?_
      · intro other busy
        simp only [effect, State.setJob, Function.update_apply]
        split
        · simp
        · exact busy
      · simp [effect] at there
      · simp only [effect, State.setJob, Function.update_apply] at done
        split at done
        · next mine =>
            right
            rw [mine, ← JobPhase.returned.inj done]
            exact ready
        · exact Or.inl done
  | observe call =>
      simp only [effect]
      split
      · exact excuses.setJob rfl (by simp) (by simp) fun _ _ there => Or.inl there
      · exact excuses
  | takeCore call =>
      simp only [effect]
      split <;> exact excuses.goOn rfl rfl (by simp)
  | cancel call =>
      simp only [effect]
      split
      · exact excuses.setJob rfl (by simp) (by simp) fun _ _ there => Or.inl there
      · refine excuses.setJob rfl (by simp) (by simp) fun other message there => ?_
        cases there
  | _ => exact same rfl rfl

theorem excuses {state : State} (reached : machine.Reachable state) : state.Excuses := by
  have invariant : machine.Invariant State.Excuses :=
    ⟨⟨(by intro call message there; cases there), (by intro call message done; cases done)⟩,
      fun _ _ _ before ready => excuses_step before ready⟩
  exact invariant.reachable reached

/-- In runs where no shutdown is cancelled inside its own `finalize`, of a worker that was
started and never force-freed: right after a shutdown is cancelled, Core is reachable or
its shutdown completed, unless just then another job is inside `finalize`; a shutdown that
finds Core reachable takes the reference up again and, when it returns, has answered `Ok`
with Core's shutdown completed, or an error with a background finalizer left to it, or the
error of a Core worker still referenced elsewhere; and a shutdown has answered `Ok` only
if Core's shutdown is completed. -/
theorem shutdown_answers_truthfully (state : State)
    (reached : (machine.restrict Unabandoned).Reachable state) (started : state.started)
    (unfreed : state.freed = false) :
    (∀ call, (machine.restrict Unabandoned).guard state (.cancel call) →
      (((effect state (.cancel call)).core = .ok () ∨
        (effect state (.cancel call)).finalizeDone = 1) ↔ ¬ state.Finalizing)) ∧
    (∀ call, guard state (.readState call) → state.core = .ok () →
      (effect state (.readState call)).shutdownLock =
          some (.shutdown call, .initiating true) ∧
        .job ∈ (effect state (.readState call)).refs ∧
        ∀ trace, (machine.restrict Unabandoned).Runs state (.readState call :: trace) →
          ((machine.restrict Unabandoned).after state (.readState call :: trace)).freed = false →
          ∀ result, ((machine.restrict Unabandoned).after state
              (.readState call :: trace)).jobs (.shutdown call) = .returned result →
            result = .ok () ∧ ((machine.restrict Unabandoned).after state
              (.readState call :: trace)).finalizeDone = 1 ∨
            ∃ message, result = .error message ∧ ((machine.restrict Unabandoned).after state
              (.readState call :: trace)).Excused call message) ∧
    ∀ call, state.jobs (.shutdown call) = .returned (.ok ()) → state.finalizeDone = 1 := by
  have completed : ∀ {state : State}, (machine.restrict Unabandoned).Reachable state →
      state.started → state.freed = false →
      ∀ call, state.jobs (.shutdown call) = .returned (.ok ()) → state.finalizeDone = 1 := by
    intro state reached started unfreed call done
    obtain ⟨consistent, owed⟩ := consistent_and_owed reached
    obtain ⟨finalized, idle⟩ := consistent.progress.settled call done
    apply (owed started unfreed finalized).resolve_right
    intro finalizing
    obtain ⟨job, step, held, inside⟩ := finalizing
    exact absurd (idle job step held) (Step.busy_of_finalizes inside)
  obtain ⟨consistent, owed⟩ := consistent_and_owed reached
  refine ⟨?_, ?_, completed reached started unfreed⟩
  · intro call _
    have worker : (effect state (.cancel call)).worker = state.worker := by
      simp only [effect]
      split <;> rfl
    have done : (effect state (.cancel call)).finalizeDone = state.finalizeDone := by
      simp only [effect]
      split <;> rfl
    rw [State.core, worker, done]
    constructor
    · intro which finalizing
      obtain ⟨finalized, notDone⟩ := not_done_of_finalizing consistent finalizing
      rw [finalized, notDone] at which
      rcases which with reachable | ended
      · cases reachable
      · cases ended
    · intro idle
      cases finalized : state.worker with
      | running value => exact Or.inl rfl
      | draining => exact Or.inl rfl
      | finalized => exact Or.inr ((owed started unfreed finalized).resolve_right idle)
  · intro call ready reachable
    have taken : (effect state (.readState call)).shutdownLock =
          some (.shutdown call, .initiating true) ∧
        .job ∈ (effect state (.readState call)).refs := by
      cases worker : state.worker with
      | running value =>
          obtain rfl := (consistent.sound.running value worker).symm.trans started
          simp only [effect, worker]
          exact ⟨rfl, Finset.mem_insert_self ..⟩
      | draining =>
          simp only [effect, worker]
          exact ⟨rfl, Finset.mem_insert_self ..⟩
      | finalized =>
          rw [State.core, worker] at reachable
          cases reachable
    refine ⟨taken.1, taken.2, fun trace runs stillUnfreed result answered => ?_⟩
    have later := reached.run runs
    cases result with
    | ok value =>
        have still : ((machine.restrict Unabandoned).after state
            (.readState call :: trace)).started :=
          @GuardedSystem.Reachable.keeps _ _ _ (fun state => state.started) _ reached
            (fun _ _ _ before _ => started_step before) started _ runs
        exact Or.inl ⟨rfl, completed later still stillUnfreed call answered⟩
    | error message =>
        exact Or.inr ⟨message, rfl, (excuses later.of_restrict).returned call message answered⟩

/-- A shutdown cancelled while it waits for its pumps, and a second one that finishes. -/
def resumedTrace : List Action :=
  [.start 0, .storeLivePumps 0, .spawn 0 .workflowActivation [.activity, .nexus],
    .spawn 0 .activity [.nexus], .spawn 0 .nexus [], .startReturn 0,
    .shutdown 0, .acquire (.shutdown 0), .readState 0, .initiate (.shutdown 0) true,
    .loadLivePumps (.shutdown 0) false, .cancel 0,
    .exit 0 .shutDown, .leave 0, .exit 1 .shutDown, .leave 1, .exit 2 .shutDown, .leave 2,
    .shutdown 1, .acquire (.shutdown 1), .readState 1, .initiate (.shutdown 1) true,
    .loadLivePumps (.shutdown 1) false, .check (.shutdown 1), .close (.shutdown 1),
    .tryUnwrap (.shutdown 1), .finishFinalize (.shutdown 1), .finish (.shutdown 1) (.ok ())]

theorem shutdown_answers_truthfully_resumed :
    ((machine.restrict Unabandoned).after start resumedTrace).finalizeDone = 1 :=
  (shutdown_answers_truthfully _ (GuardedSystem.Reachable.start.run
    (show (machine.restrict Unabandoned).Runs start resumedTrace by decide)) (by decide)
    (by decide)).2.2 1 (by decide)

/-- A shutdown cancelled in its retry sleep, and a second one. -/
def abandonedTrace : List Action :=
  sharedTrace ++ [.compareDeadline (.shutdown 0) false, .cancel 0,
    .shutdown 1, .acquire (.shutdown 1), .readState 1, .finish (.shutdown 1) (.ok ())]

theorem abandoned_run :
    machine.Runs start abandonedTrace ∧ (machine.after start abandonedTrace).started ∧
      (machine.after start abandonedTrace).freed = false ∧
      (machine.after start abandonedTrace).jobs (.shutdown 1) = .returned (.ok ()) ∧
      (machine.after start abandonedTrace).finalizeDone = 0 := by
  decide

/-- Without the condition a shutdown answers `Ok` for a worker that was never finalized. -/
theorem shutdown_answers_falsely :
    ¬ ∀ state, machine.Reachable state → state.started → state.freed = false →
      ∀ call, state.jobs (.shutdown call) = .returned (.ok ()) → state.finalizeDone = 1 := by
  intro always
  obtain ⟨runs, started, unfreed, answered, notDone⟩ := abandoned_run
  have done := always _ (GuardedSystem.Reachable.start.run runs) started unfreed 1 answered
  exact absurd (notDone.symm.trans done) (by simp)

/-- A shutdown cancelled inside `finalize` leaves Core unfinalized in every later run. -/
theorem abandoned_forever {state : State} (reached : machine.Reachable state) {call : Nat}
    (abandoned : ¬ Unabandoned state (.cancel call)) {trace : List Action}
    (runs : machine.Runs (effect state (.cancel call)) trace) :
    (machine.after (effect state (.cancel call)) trace).worker = .finalized ∧
      (machine.after (effect state (.cancel call)) trace).finalizeDone = 0 := by
  obtain ⟨job, step, held, rfl, inside⟩ : ∃ job step, state.shutdownLock = some (job, step) ∧
      job = .shutdown call ∧ step.finalizes := by
    cases lock : state.shutdownLock with
    | none =>
        refine absurd ?_ abandoned
        simp only [Unabandoned, lock, Option.all_none]
    | some pair =>
        obtain ⟨job, step⟩ := pair
        refine ⟨job, step, rfl, ?_⟩
        simpa [Unabandoned, lock] using abandoned
  have notWaiting : state.jobs (.shutdown call) ≠ .waiting := by
    rw [((consistent reached).progress.inside _).mpr ⟨step, held⟩]
    simp
  obtain ⟨finalized, notDone⟩ :=
    not_done_of_finalizing (consistent reached) ⟨_, step, held, inside⟩
  have rest : (effect state (.cancel call)).AtRest := by
    simp only [effect, notWaiting, ↓reduceIte]
    exact ⟨finalized, (by simp)⟩
  have done : (effect state (.cancel call)).finalizeDone = 0 := by
    simp only [effect, notWaiting, ↓reduceIte]
    exact notDone
  obtain ⟨still, same⟩ := atRest_run rest runs
  exact ⟨still.1, same.trans done⟩

end KtBridge.Worker
