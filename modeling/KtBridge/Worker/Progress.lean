import KtBridge.Worker.Launch

/-! # What holds while the shutdown lock is held

The holder of the shutdown lock is the only one to move the worker between its states,
`free` apart. `Facts` says what holds at each of its steps, and `Progress` that it does,
together with what the other jobs rely on.
-/

namespace KtBridge.Worker

open Foundation

/-- Completions are still taken, or the worker was force-freed. -/
def State.Draining (state : State) : Prop := state.freed ∨ state.worker = .draining

/-- What holds at a step of the holder of the shutdown lock. -/
def Facts (state : State) : Step → Prop
  | .locked => True
  | .initiating true => state.Retiring ∧ state.Draining
  | .initiating false => state.started = false ∧ state.Draining
  | .discarding => state.started = false ∧ state.Draining
  | .dropping => state.started = false ∧ state.worker = .finalized
  | .polling => state.Retiring ∧ state.Draining
  | .pausing => state.Retiring ∧ state.Draining
  | .expired => state.Retiring ∧ state.Draining
  | .checking => state.Exited ∧ state.Draining
  | .closing => state.Exited ∧ state.Draining
  | .unwrapping => state.Exited ∧ state.worker = .finalized
  | .sharing => state.Exited ∧ state.worker = .finalized
  | .resting => state.Exited ∧ state.worker = .finalized
  | .restoring => state.Exited ∧ state.worker = .finalized
  | .finishing => state.Exited ∧ state.worker = .finalized
  | .returning (.ok _) => state.worker = .finalized
  | .returning (.error _) => state.Retiring ∧ state.Draining

theorem Facts.mono {state next : State} {step : Step} (facts : Facts state step)
    (started : next.started = state.started) (retiring : state.Retiring → next.Retiring)
    (exited : state.Exited → next.Exited) (draining : state.Draining → next.Draining)
    (finalized : state.worker = .finalized → next.worker = .finalized) : Facts next step := by
  cases step with
  | locked => trivial
  | initiating was =>
      cases was with
      | true => exact facts.imp retiring draining
      | false => exact facts.imp started.trans draining
  | discarding => exact facts.imp started.trans draining
  | dropping => exact facts.imp started.trans finalized
  | polling => exact facts.imp retiring draining
  | pausing => exact facts.imp retiring draining
  | expired => exact facts.imp retiring draining
  | checking => exact facts.imp exited draining
  | closing => exact facts.imp exited draining
  | returning result =>
      cases result with
      | ok value => exact finalized facts
      | error message => exact facts.imp retiring draining
  | _ => exact facts.imp exited finalized

/-- A worker that was not started yet is only looked at. -/
theorem Facts.locked_of_running {state : State} {step : Step} (facts : Facts state step)
    (sound : state.Sound) (running : state.worker = .running false) : step = .locked := by
  have notDraining : ¬ state.Draining := by
    intro draining
    rcases draining with freed | draining
    · exact sound.stopped freed false running
    · rw [running] at draining
      cases draining
  have notFinalized : state.worker ≠ .finalized := by
    rw [running]
    simp
  cases step with
  | locked => rfl
  | initiating was =>
      cases was with
      | true => exact absurd facts.2 notDraining
      | false => exact absurd facts.2 notDraining
  | returning result =>
      cases result with
      | ok value => exact absurd facts notFinalized
      | error message => exact absurd facts.2 notDraining
  | dropping => exact absurd facts.2 notFinalized
  | unwrapping => exact absurd facts.2 notFinalized
  | sharing => exact absurd facts.2 notFinalized
  | resting => exact absurd facts.2 notFinalized
  | restoring => exact absurd facts.2 notFinalized
  | finishing => exact absurd facts.2 notFinalized
  | _ => exact absurd facts.2 notDraining

/-- An unstarted worker is about to be discarded. -/
def Step.discards : Step → Bool
  | initiating started => !started
  | discarding => true
  | _ => false

/-- The worker is not touched from this step on. -/
def Step.idle : Step → Bool
  | locked => true
  | returning (.ok _) => true
  | _ => false

/-- What ties the jobs, the shutdown lock and the worker. -/
structure State.Progress (state : State) : Prop where
  inside : ∀ job, state.jobs job = .inside ↔ ∃ step, state.shutdownLock = some (job, step)
  facts : ∀ job step, state.shutdownLock = some (job, step) → Facts state step
  background : ∀ call, state.jobs (.background call) ≠ .idle → state.Retiring
  observed : ∀ call, state.jobs (.background call) = .waiting ∨
    state.jobs (.background call) = .inside → state.Exited
  draining : state.worker = .draining → state.Retiring ∨
    ∃ job step, state.shutdownLock = some (job, step) ∧ step.discards
  settled : ∀ call, state.jobs (.shutdown call) = .returned (.ok ()) →
    state.worker = .finalized ∧
      ∀ job step, state.shutdownLock = some (job, step) → step.idle

namespace State.Progress

variable {state next : State}

/-- A step of somebody else than the jobs. -/
theorem frame (progress : state.Progress) (lock : next.shutdownLock = state.shutdownLock)
    (jobs : next.jobs = state.jobs) (started : next.started = state.started)
    (retiring : state.Retiring → next.Retiring) (exited : state.Exited → next.Exited)
    (worker : next.worker = state.worker ∨ next.freed ∧ next.worker = .finalized)
    (freed : state.freed → next.freed) : next.Progress := by
  have draining : state.Draining → next.Draining := by
    intro before
    rcases before with wasFreed | was
    · exact Or.inl (freed wasFreed)
    · exact worker.elim (fun same => Or.inr (same.trans was)) (fun now => Or.inl now.1)
  have finalized : state.worker = .finalized → next.worker = .finalized :=
    fun was => worker.elim (fun same => same.trans was) And.right
  constructor
  · rw [jobs, lock]
    exact progress.inside
  · rw [lock]
    exact fun job step held =>
      (progress.facts job step held).mono started retiring exited draining finalized
  · rw [jobs]
    exact fun call busy => retiring (progress.background call busy)
  · rw [jobs]
    exact fun call busy => exited (progress.observed call busy)
  · intro now
    rw [lock]
    rcases worker with same | ⟨_, other⟩
    · exact (progress.draining (same.symm.trans now)).imp retiring id
    · rw [other] at now
      cases now
  · rw [jobs, lock]
    exact fun call done => (progress.settled call done).imp finalized id

/-- The holder of the lock goes on, from a step where nothing is settled. -/
theorem goOn (progress : state.Progress) {job : Job} {step after : Step}
    (held : state.shutdownLock = some (job, step)) (lock : next.shutdownLock = some (job, after))
    (jobs : next.jobs = state.jobs)
    (retiring : state.Retiring → next.Retiring) (exited : state.Exited → next.Exited)
    (facts : Facts next after) (draining : next.worker = .draining → next.Retiring ∨ after.discards)
    (settled : ∀ call, state.jobs (.shutdown call) = .returned (.ok ()) →
      next.worker = .finalized ∧ after.idle) : next.Progress := by
  constructor
  · intro other
    rw [jobs, lock, progress.inside other, held]
    constructor
    · intro here
      obtain ⟨_, same⟩ := here
      cases same
      exact ⟨after, rfl⟩
    · intro here
      obtain ⟨_, same⟩ := here
      cases same
      exact ⟨step, rfl⟩
  · intro other value there
    rw [lock] at there
    cases there
    exact facts
  · rw [jobs]
    exact fun call busy => retiring (progress.background call busy)
  · rw [jobs]
    exact fun call busy => exited (progress.observed call busy)
  · intro now
    exact (draining now).imp id fun discards => ⟨job, after, lock, discards⟩
  · intro call done
    rw [jobs] at done
    obtain ⟨finalized, idle⟩ := settled call done
    refine ⟨finalized, ?_⟩
    intro other value there
    rw [lock] at there
    cases there
    exact idle

/-- While the holder of the lock is at work, no shutdown has succeeded. -/
theorem unsettled (progress : state.Progress) {job : Job} {step : Step}
    (held : state.shutdownLock = some (job, step)) (busy : step.idle = false) {Claim : Prop}
    (call : Nat) (done : state.jobs (.shutdown call) = .returned (.ok ())) : Claim := by
  have idle := (progress.settled call done).2 job step held
  rw [busy] at idle
  cases idle

/-- A shutdown looks at the state. -/
theorem readState (progress : state.Progress) (sound : state.Sound) {call : Nat}
    (ready : guard state (.readState call)) : (effect state (.readState call)).Progress := by
  have held := ready.1
  have idle := State.Sound.idle_of_unlocked ready.2
  have retiring := State.Sound.retiring_step ready
  have exited := State.Sound.exited_step ready
  cases worker : state.worker with
  | running started =>
      have was := sound.running started worker
      simp only [effect, worker] at retiring exited ⊢
      refine progress.goOn held rfl rfl retiring exited ?_ ?_ ?_
      · cases started with
        | true => exact ⟨⟨was, idle, (by simp)⟩, Or.inr rfl⟩
        | false => exact ⟨was, Or.inr rfl⟩
      · intro _
        cases started with
        | true => exact Or.inl ⟨was, idle, (by simp)⟩
        | false => exact Or.inr rfl
      · intro other done
        have finalized := (progress.settled other done).1
        rw [worker] at finalized
        cases finalized
  | draining =>
      have before : state.Retiring := by
        apply (progress.draining worker).resolve_right
        intro which
        obtain ⟨job, step, there, discards⟩ := which
        rw [held] at there
        cases there
        cases discards
      simp only [effect, worker] at retiring exited ⊢
      refine progress.goOn held rfl rfl retiring exited ⟨retiring before, Or.inr worker⟩
        (fun _ => Or.inl (retiring before)) ?_
      intro other done
      have finalized := (progress.settled other done).1
      rw [worker] at finalized
      cases finalized
  | finalized =>
      simp only [effect, worker] at retiring exited ⊢
      refine progress.goOn held rfl rfl retiring exited worker ?_ (fun _ _ => ⟨worker, rfl⟩)
      intro now
      rw [show state.worker = .draining from now] at worker
      cases worker

/-- A job outside the lock changes its phase. -/
theorem outside (progress : state.Progress) {job : Job} {phase : JobPhase}
    (notInside : state.jobs job ≠ .inside) (target : phase ≠ .inside)
    (unreturned : phase ≠ .returned (.ok ()))
    (background : ∀ call, job = .background call → phase ≠ .idle → state.Retiring)
    (observed : ∀ call, job = .background call → phase = .waiting → state.Exited) :
    (state.setJob job phase).Progress := by
  have elsewhere : ∀ other, other ≠ job → (state.setJob job phase).jobs other = state.jobs other :=
    fun other differs => Function.update_of_ne differs _ _
  have here : (state.setJob job phase).jobs job = phase := Function.update_self ..
  constructor
  · intro other
    by_cases same : other = job
    · rw [same, here]
      refine iff_of_false target ?_
      intro holds
      exact notInside ((progress.inside job).mpr holds)
    · rw [elsewhere other same]
      exact progress.inside other
  · exact progress.facts
  · intro call busy
    by_cases same : Job.background call = job
    · rw [same, here] at busy
      exact background call same.symm busy
    · rw [elsewhere _ same] at busy
      exact progress.background call busy
  · intro call busy
    by_cases same : Job.background call = job
    · rw [same, here] at busy
      exact observed call same.symm (busy.resolve_right target)
    · rw [elsewhere _ same] at busy
      exact progress.observed call busy
  · exact progress.draining
  · intro call done
    by_cases same : Job.shutdown call = job
    · rw [same, here] at done
      exact absurd done unreturned
    · rw [elsewhere _ same] at done
      exact progress.settled call done

/-- A job that waited gets the shutdown lock. -/
theorem acquire (progress : state.Progress) {job : Job} (ready : guard state (.acquire job)) :
    (effect state (.acquire job)).Progress := by
  obtain ⟨waiting, unlocked⟩ := ready
  have free : ∀ other step, state.shutdownLock ≠ some (other, step) := by
    intro other step held
    rw [unlocked] at held
    cases held
  have elsewhere : ∀ other, other ≠ job →
      (effect state (.acquire job)).jobs other = state.jobs other :=
    fun other differs => Function.update_of_ne differs _ _
  have here : (effect state (.acquire job)).jobs job = .inside := Function.update_self ..
  constructor
  · intro other
    by_cases same : other = job
    · rw [same, here]
      exact iff_of_true rfl ⟨.locked, rfl⟩
    · rw [elsewhere other same, progress.inside other]
      constructor
      · intro holds
        obtain ⟨step, held⟩ := holds
        exact absurd held (free other step)
      · intro holds
        obtain ⟨step, held⟩ := holds
        cases held
        exact absurd rfl same
  · intro other step held
    cases held
    trivial
  · intro call busy
    by_cases same : Job.background call = job
    · apply progress.background call
      rw [same, waiting]
      simp
    · rw [elsewhere _ same] at busy
      exact progress.background call busy
  · intro call busy
    by_cases same : Job.background call = job
    · apply progress.observed call
      rw [same]
      exact Or.inl waiting
    · rw [elsewhere _ same] at busy
      exact progress.observed call busy
  · intro draining
    left
    apply (progress.draining draining).resolve_right
    intro which
    obtain ⟨other, step, held, _⟩ := which
    exact free other step held
  · intro call done
    by_cases same : Job.shutdown call = job
    · rw [same, here] at done
      cases done
    · rw [elsewhere _ same] at done
      refine ⟨(progress.settled call done).1, ?_⟩
      intro other step held
      cases held
      rfl

/-- The holder lets the shutdown lock go. -/
theorem unlock (progress : state.Progress) {job : Job} {step : Step} {phase : JobPhase}
    (held : state.shutdownLock = some (job, step)) (lock : next.shutdownLock = none)
    (jobs : next.jobs = Function.update state.jobs job phase) (target : phase ≠ .inside)
    (worker : next.worker = state.worker)
    (retiring : state.Retiring → next.Retiring) (exited : state.Exited → next.Exited)
    (discards : step.discards = false)
    (returned : phase = .returned (.ok ()) → state.worker = .finalized) : next.Progress := by
  have elsewhere : ∀ other, other ≠ job → next.jobs other = state.jobs other := by
    intro other differs
    rw [jobs]
    exact Function.update_of_ne differs _ _
  have here : next.jobs job = phase := by
    rw [jobs]
    exact Function.update_self ..
  have was := (progress.inside job).mpr ⟨step, held⟩
  constructor
  · intro other
    by_cases same : other = job
    · rw [same, here, lock]
      refine iff_of_false target ?_
      intro holds
      obtain ⟨_, absurdity⟩ := holds
      cases absurdity
    · rw [elsewhere other same, progress.inside other, held, lock]
      constructor
      · intro holds
        obtain ⟨_, equal⟩ := holds
        cases equal
        exact absurd rfl same
      · intro holds
        obtain ⟨_, absurdity⟩ := holds
        cases absurdity
  · intro other value there
    rw [lock] at there
    cases there
  · intro call busy
    apply retiring
    by_cases same : Job.background call = job
    · apply progress.background call
      rw [same, was]
      simp
    · rw [elsewhere _ same] at busy
      exact progress.background call busy
  · intro call busy
    apply exited
    by_cases same : Job.background call = job
    · apply progress.observed call
      rw [same]
      exact Or.inr was
    · rw [elsewhere _ same] at busy
      exact progress.observed call busy
  · intro draining
    left
    rw [worker] at draining
    apply retiring
    apply (progress.draining draining).resolve_right
    intro which
    obtain ⟨other, value, there, isDiscard⟩ := which
    rw [held] at there
    cases there
    rw [discards] at isDiscard
    cases isDiscard
  · intro call done
    refine ⟨?_, ?_⟩
    · rw [worker]
      by_cases same : Job.shutdown call = job
      · rw [same, here] at done
        exact returned done
      · rw [elsewhere _ same] at done
        exact (progress.settled call done).1
    · intro other value there
      rw [lock] at there
      cases there

/-- A shutdown call that waits, but not for the lock, holds it. -/
theorem atAwait_of_not_waiting {call : Nat} (await : state.atAwait call)
    (waiting : state.jobs (.shutdown call) ≠ .waiting) :
    ∃ step, state.shutdownLock = some (.shutdown call, step) ∧ step.awaits := by
  simp only [State.atAwait, waiting, decide_false, Bool.false_or, Option.any_eq_true_iff_get,
    Bool.and_eq_true, decide_eq_true_eq] at await
  obtain ⟨isSome, same, awaits⟩ := await
  refine ⟨(state.shutdownLock.get isSome).2, ?_, awaits⟩
  rw [← same]
  exact (Option.some_get isSome).symm

/-- A shutdown call is cancelled at a point where it waits. -/
theorem cancel (progress : state.Progress) {call : Nat} (ready : guard state (.cancel call)) :
    (effect state (.cancel call)).Progress := by
  have retiring := State.Sound.retiring_step ready
  have exited := State.Sound.exited_step ready
  by_cases waiting : state.jobs (.shutdown call) = .waiting
  · simp only [effect, waiting, ↓reduceIte]
    refine progress.outside ?_ (by simp) (by simp) (by simp) (by simp)
    rw [waiting]
    simp
  · simp only [effect, waiting, ↓reduceIte] at retiring exited ⊢
    obtain ⟨step, held, awaits⟩ := atAwait_of_not_waiting ready waiting
    refine progress.unlock held rfl rfl (by simp) rfl retiring exited ?_ (by simp)
    cases step <;> first | rfl | cases awaits

/-- A shutdown whose grace period is over leaves a background finalizer behind. -/
theorem spawnBackground (progress : state.Progress) {call : Nat}
    (ready : guard state (.spawnBackground call)) :
    (effect state (.spawnBackground call)).Progress := by
  have held : state.shutdownLock = some (.shutdown call, .expired) := ready
  have facts := progress.facts _ _ held
  have outside : (state.setJob (.background call) .observing).Progress := by
    refine progress.outside ?_ (by simp) (by simp) (fun _ _ _ => facts.1) (by simp)
    intro inside
    obtain ⟨step, there⟩ := (progress.inside _).mp inside
    rw [held] at there
    cases there
  refine outside.goOn held rfl rfl id id facts (fun _ => Or.inl facts.1) ?_
  intro other done
  exact outside.unsettled held rfl other done

end State.Progress

/-- Every step keeps what the holder of the shutdown lock and the jobs rely on. -/
theorem progress_step {state : State} {action : Action} (sound : state.Sound)
    (progress : state.Progress) (ready : guard state action) :
    (effect state action).Progress := by
  have retiring := State.Sound.retiring_step ready
  have exited := State.Sound.exited_step ready
  cases action with
  | start call =>
      cases worker : state.worker with
      | running started =>
          cases started with
          | true =>
              simp only [effect, worker] at retiring exited ⊢
              exact progress.frame rfl rfl rfl retiring exited (Or.inl worker.symm) id
          | false =>
              simp only [effect, worker]
              have past : ∀ {Claim : Prop}, state.Retiring → Claim :=
                fun retiring => absurd worker (retiring.2.2 false)
              refine ⟨progress.inside, ?_, fun call busy => past (progress.background call busy),
                fun call busy => past (progress.observed call busy).1, (by simp), ?_⟩
              · intro job step held
                obtain rfl := (progress.facts job step held).locked_of_running sound worker
                trivial
              · intro call done
                have finalized := (progress.settled call done).1
                rw [worker] at finalized
                cases finalized
      | _ =>
          simp only [effect, worker] at retiring exited ⊢
          exact progress.frame rfl rfl rfl retiring exited (Or.inl worker.symm) id
  | free => exact progress.frame rfl rfl rfl retiring exited (Or.inr ⟨rfl, rfl⟩) fun _ => rfl
  | shutdown call =>
      have idle : state.jobs (.shutdown call) = .idle := ready
      refine progress.outside ?_ (by simp) (by simp) (by simp) (by simp)
      rw [idle]
      simp
  | acquire job => exact progress.acquire ready
  | readState call => exact progress.readState sound ready
  | initiate job started =>
      have held : state.shutdownLock = some (job, .initiating started) := ready
      have facts := progress.facts _ _ held
      cases started with
      | true =>
          exact progress.goOn held rfl rfl retiring exited facts (fun _ => Or.inl facts.1)
            fun _ => progress.unsettled held rfl _
      | false =>
          exact progress.goOn held rfl rfl retiring exited facts (fun _ => Or.inr rfl)
            fun _ => progress.unsettled held rfl _
  | discard job =>
      have held := ready.1
      have facts := progress.facts _ _ held
      exact progress.goOn held rfl rfl retiring exited ⟨facts.1, rfl⟩ (by intros; contradiction)
        fun _ => progress.unsettled held rfl _
  | dropCore job =>
      have held : state.shutdownLock = some (job, .dropping) := ready
      have facts := progress.facts _ _ held
      exact progress.goOn held rfl rfl retiring exited facts.2
        (fun draining => absurd (facts.2.symm.trans draining) (by simp))
        fun _ => progress.unsettled held rfl _
  | loadLivePumps job expired =>
      have held : state.shutdownLock = some (job, .polling) := ready
      have facts := progress.facts _ _ held
      refine progress.goOn held rfl rfl retiring exited ?_ (fun _ => Or.inl facts.1)
        fun _ => progress.unsettled held rfl _
      by_cases zero : state.livePumps = 0
      · rw [if_pos zero]
        exact ⟨sound.exited facts.1 zero, facts.2⟩
      · rw [if_neg zero]
        cases expired with
        | true => exact facts
        | false => exact facts
  | wake job =>
      have held : state.shutdownLock = some (job, .pausing) := ready
      have facts := progress.facts _ _ held
      exact progress.goOn held rfl rfl retiring exited facts (fun _ => Or.inl facts.1)
        fun _ => progress.unsettled held rfl _
  | spawnBackground call => exact progress.spawnBackground ready
  | check job =>
      have held := ready.1
      have facts := progress.facts _ _ held
      refine progress.goOn held rfl rfl retiring exited ?_ (fun _ => Or.inl facts.1.1)
        fun _ => progress.unsettled held rfl _
      by_cases finalized : state.worker = .finalized
      · rw [if_pos finalized]
        exact finalized
      · rw [if_neg finalized]
        exact facts
  | close job =>
      have held := ready.1
      have facts := progress.facts _ _ held
      exact progress.goOn held rfl rfl retiring exited ⟨exited facts.1, rfl⟩ (by intros; contradiction)
        fun _ => progress.unsettled held rfl _
  | tryUnwrap job =>
      have held : state.shutdownLock = some (job, .unwrapping) := ready
      have facts := progress.facts _ _ held
      have elsewhere : state.worker ≠ .draining := fun draining =>
        absurd (facts.2.symm.trans draining) (by simp)
      by_cases unshared : state.refs = {.job}
      · simp only [effect, unshared, ↓reduceIte] at retiring exited ⊢
        exact progress.goOn held rfl rfl retiring exited ⟨exited facts.1, facts.2⟩
          (fun draining => absurd draining elsewhere) fun _ => progress.unsettled held rfl _
      · simp only [effect, unshared, ↓reduceIte] at retiring exited ⊢
        exact progress.goOn held rfl rfl retiring exited facts
          (fun draining => absurd draining elsewhere) fun _ => progress.unsettled held rfl _
  | compareDeadline job expired =>
      have held : state.shutdownLock = some (job, .sharing) := ready
      have facts := progress.facts _ _ held
      refine progress.goOn held rfl rfl retiring exited ?_
        (fun draining => absurd (facts.2.symm.trans draining) (by simp))
        fun _ => progress.unsettled held rfl _
      cases expired with
      | true => exact facts
      | false => exact facts
  | retry job =>
      have held : state.shutdownLock = some (job, .resting) := ready
      have facts := progress.facts _ _ held
      exact progress.goOn held rfl rfl retiring exited facts
        (fun draining => absurd (facts.2.symm.trans draining) (by simp))
        fun _ => progress.unsettled held rfl _
  | restore job =>
      have held := ready.1
      have facts := progress.facts _ _ held
      exact progress.goOn held rfl rfl retiring exited ⟨retiring facts.1.1, Or.inr rfl⟩
        (fun _ => Or.inl (retiring facts.1.1)) fun _ => progress.unsettled held rfl _
  | finishFinalize job =>
      have held : state.shutdownLock = some (job, .finishing) := ready
      have facts := progress.facts _ _ held
      exact progress.goOn held rfl rfl retiring exited facts.2
        (fun draining => absurd (facts.2.symm.trans draining) (by simp))
        fun _ => progress.unsettled held rfl _
  | finish job result =>
      have held : state.shutdownLock = some (job, .returning result) := ready
      have facts := progress.facts _ _ held
      refine progress.unlock held rfl rfl (by simp) rfl retiring exited rfl ?_
      intro same
      cases same
      exact facts
  | observe call =>
      have observing : state.jobs (.background call) = .observing := ready
      by_cases zero : state.livePumps = 0
      · have before : state.Retiring := progress.background call (by rw [observing]; simp)
        simp only [effect, zero, ↓reduceIte]
        refine progress.outside ?_ (by simp) (by simp) (fun _ _ _ => before)
          (fun _ _ _ => sound.exited before zero)
        rw [observing]
        simp
      · simp only [effect, zero, ↓reduceIte]
        exact progress
  | takeCore call =>
      have held := ready.1
      have before : state.Exited :=
        progress.observed call (Or.inr ((progress.inside _).mpr ⟨_, held⟩))
      by_cases finalized : state.worker = .finalized
      · simp only [effect, finalized, ↓reduceIte] at retiring exited ⊢
        exact progress.goOn held rfl rfl retiring exited finalized
          (fun draining => absurd (finalized.symm.trans draining) (by simp))
          fun _ _ => ⟨finalized, rfl⟩
      · simp only [effect, finalized, ↓reduceIte] at retiring exited ⊢
        have draining : state.worker = .draining := by
          cases worker : state.worker with
          | running started => exact absurd worker (before.1.2.2 started)
          | draining => rfl
          | finalized => exact absurd worker finalized
        refine progress.goOn held rfl rfl retiring exited ⟨exited before, Or.inr draining⟩
          (fun _ => Or.inl (retiring before.1)) ?_
        intro other done
        exact absurd (progress.settled other done).1 finalized
  | cancel call => exact progress.cancel ready
  | _ => exact progress.frame rfl rfl rfl retiring exited (Or.inl rfl) id

end KtBridge.Worker
