import KtBridge.Worker.Sharing

/-! # A worker's lifecycle, over all runs

What starts, shutdowns, force-closes, background finalizers, poll loops and calls in
flight may do to one worker in any order, cancelled shutdowns included.
-/

namespace KtBridge.Worker

open Foundation

theorem sound_start : start.Sound := by
  refine ⟨?_, nofun, nofun, nofun, fun _ => rfl, rfl, nofun, nofun, nofun⟩
  intro started running
  cases running
  rfl

theorem progress_start : start.Progress := by
  refine ⟨fun job => ?_, nofun, ?_, ?_, nofun, nofun⟩
  · refine iff_of_false nofun ?_
    intro held
    obtain ⟨step, absurdity⟩ := held
    cases absurdity
  · intro call busy
    exact absurd rfl busy
  · intro call busy
    cases busy with
    | inl waiting => cases waiting
    | inr inside => cases inside

theorem shared_start : start.Shared := by
  refine ⟨fun _ => Finset.mem_singleton_self _, nofun, nofun, Or.inl rfl, Nat.zero_le _, nofun⟩

/-- The invariants of a worker, together. -/
structure State.Consistent (state : State) : Prop where
  sound : state.Sound
  progress : state.Progress
  shared : state.Shared

theorem consistent_step {state : State} {action : Action} (consistent : state.Consistent)
    (ready : guard state action) : (effect state action).Consistent where
  sound := consistent.sound.step ready
  progress := progress_step consistent.sound consistent.progress ready
  shared := consistent.shared.step consistent.progress ready

theorem consistent {state : State} (reached : machine.Reachable state) : state.Consistent := by
  have invariant : machine.Invariant State.Consistent := by
    refine ⟨⟨sound_start, progress_start, shared_start⟩, ?_⟩
    intro state action _ before ready
    exact consistent_step before ready
  exact invariant.reachable reached

/-- A worker that is finalized with nobody at work on it. -/
def State.AtRest (state : State) : Prop :=
  state.worker = .finalized ∧ ∀ job step, state.shutdownLock = some (job, step) → step.idle

/-- A worker at rest stays at rest, and nothing more is done about Core. -/
theorem atRest_step {state : State} {action : Action} (rest : state.AtRest)
    (ready : guard state action) :
    (effect state action).AtRest ∧
      (effect state action).finalizeDone = state.finalizeDone := by
  obtain ⟨finalized, idle⟩ := rest
  have never : ∀ {job : Job} {step : Step} {Claim : Prop}, step.idle = false →
      state.shutdownLock = some (job, step) → Claim := by
    intro job step Claim busy held
    have isIdle := idle job step held
    rw [busy] at isIdle
    cases isIdle
  cases action with
  | start call =>
      simp only [effect, finalized]
      exact ⟨⟨rfl, idle⟩, trivial⟩
  | free => exact ⟨⟨rfl, idle⟩, rfl⟩
  | acquire job =>
      refine ⟨⟨finalized, ?_⟩, rfl⟩
      intro other step held
      cases held
      rfl
  | readState call =>
      simp only [effect, finalized]
      refine ⟨⟨finalized, ?_⟩, rfl⟩
      intro other step held
      cases held
      rfl
  | initiate job started => exact never rfl ready
  | discard job => exact never rfl ready.1
  | dropCore job => exact never rfl ready
  | loadLivePumps job expired => exact never rfl ready
  | wake job => exact never rfl ready
  | spawnBackground call => exact never rfl ready
  | check job => exact never rfl ready.1
  | close job => exact never rfl ready.1
  | tryUnwrap job => exact never rfl ready
  | compareDeadline job expired => exact never rfl ready
  | retry job => exact never rfl ready
  | restore job => exact never rfl ready.1
  | finishFinalize job => exact never rfl ready
  | finish job result => exact ⟨⟨finalized, (by intros; contradiction)⟩, rfl⟩
  | observe call =>
      simp only [effect]
      split <;> exact ⟨⟨finalized, idle⟩, rfl⟩
  | takeCore call =>
      simp only [effect, finalized, ↓reduceIte]
      refine ⟨⟨finalized, ?_⟩, rfl⟩
      intro other step held
      cases held
      rfl
  | cancel call =>
      simp only [effect]
      split
      · exact ⟨⟨finalized, idle⟩, rfl⟩
      · exact ⟨⟨finalized, (by simp)⟩, rfl⟩
  | _ => exact ⟨⟨finalized, idle⟩, rfl⟩

/-- A worker at rest stays at rest in every later run. -/
theorem atRest_run {state : State} (rest : state.AtRest) {trace : List Action}
    (runs : machine.Runs state trace) :
    (machine.after state trace).AtRest ∧
      (machine.after state trace).finalizeDone = state.finalizeDone := by
  induction trace generalizing state with
  | nil => exact ⟨rest, rfl⟩
  | cons action trace ih =>
      obtain ⟨next, same⟩ := atRest_step rest runs.1
      obtain ⟨last, equal⟩ := ih next runs.2
      exact ⟨last, equal.trans same⟩

/-- What a worker's lifecycle keeps to, in one state: at most three pumps are ever
spawned; outside of `start` the count is the number of pumps that have not left, and a
pump that leaves finds it positive; once `free` is through, every pump ever spawned has
been asked to abort; Core is finalized at most once, and only when three pumps were
spawned and have left; a shutdown that returned `Ok` leaves the worker `Finalized` in
every later state; and one about to return an error on an entry never force-freed
leaves Core reachable. -/
structure State.Lawful (state : State) : Prop where
  three : state.spawned.length ≤ taskKinds.length
  counted : state.launching = false → state.livePumps.toNat = state.live
  positive : ∀ pump, guard state (.leave pump) → 1 ≤ state.livePumps.toNat
  aborted : state.freed → state.stateLock ≠ some .freeing →
    ∀ pump ∈ state.spawned, pump.aborted
  once : state.finalizeRuns ≤ 1
  drained : ∀ job, guard state (.tryUnwrap job) → state.refs = {.job} →
    state.spawned.length = taskKinds.length ∧ ∀ pump ∈ state.spawned, pump.phase = .gone
  final : ∀ call, state.jobs (.shutdown call) = .returned (.ok ()) →
    ∀ trace, machine.Runs state trace → (machine.after state trace).worker = .finalized
  reported : ∀ call message, guard state (.finish (.shutdown call) (.error message)) →
    state.freed = false →
    (effect state (.finish (.shutdown call) (.error message))).worker = .draining ∧
      (effect state (.finish (.shutdown call) (.error message))).core = .ok ()

/-- Every reachable state of a worker is lawful. -/
theorem lawful (state : State) (reached : machine.Reachable state) : state.Lawful := by
  obtain ⟨sound, progress, shared⟩ := consistent reached
  have within : state.spawned.length ≤ taskKinds.length := by
    cases started : state.started with
    | true =>
        have count := sound.count started
        omega
    | false =>
        rw [sound.unstarted started]
        exact Nat.zero_le _
  constructor
  · exact within
  · intro idle
    have none : state.counted = 0 := by
      unfold State.counted
      unfold State.launching at idle
      split at idle <;> simp_all
    rw [sound.live, none, Nat.zero_add]
  · intro pump ready
    obtain ⟨loop, found, leaving⟩ := ready
    exact sound.livePumps_pos found (by rw [leaving]; nofun)
  · intro freed idle loop member
    obtain ⟨pump, found⟩ := List.mem_iff_getElem?.mp member
    have inside := (List.getElem?_eq_some_iff.mp found).1
    rcases sound.recorded pump inside with recorded | ⟨other, there, aborted⟩
    · rw [sound.drained freed idle] at recorded
      cases recorded
    · rw [found] at there
      cases there
      exact aborted
  · rcases shared.once with never | once <;> omega
  · intro job ready _
    have facts := progress.facts _ _ ready
    refine ⟨?_, facts.1.2⟩
    have count := sound.count facts.1.1.1
    have unspawned : state.unspawned = 0 := by
      have idle := facts.1.1.2.1
      unfold State.unspawned
      unfold State.launching at idle
      split at idle <;> simp_all
    rw [unspawned] at count
    exact count
  · intro call done trace runs
    exact (atRest_run (progress.settled call done) runs).1.1
  · intro call message ready unfreed
    have facts := progress.facts _ _ ready
    have draining : state.worker = .draining := by
      rcases facts.2 with freed | draining
      · rw [unfreed] at freed
        cases freed
      · exact draining
    refine ⟨draining, ?_⟩
    simp only [State.core, effect, State.setJob, draining]

/-- A worker is started, its pumps end, and a shutdown finalizes it. -/
def shutdownTrace : List Action :=
  [.start 0, .storeLivePumps 0, .spawn 0 .workflowActivation [.activity, .nexus],
    .spawn 0 .activity [.nexus], .spawn 0 .nexus [], .startReturn 0,
    .shutdown 0, .acquire (.shutdown 0), .readState 0, .initiate (.shutdown 0) true,
    .loadLivePumps (.shutdown 0) false, .exit 0 .shutDown, .leave 0, .exit 1 .panic, .leave 1,
    .exit 2 .shutDown, .leave 2, .wake (.shutdown 0), .loadLivePumps (.shutdown 0) false,
    .check (.shutdown 0), .close (.shutdown 0), .tryUnwrap (.shutdown 0),
    .finishFinalize (.shutdown 0), .finish (.shutdown 0) (.ok ())]

theorem lawful_of_shutdown :
    (machine.after start shutdownTrace).finalizeDone = 1 ∧
      (machine.after start shutdownTrace).Lawful :=
  ⟨by decide, lawful _ (GuardedSystem.Reachable.start.run (show machine.Runs start shutdownTrace
    by decide))⟩

end KtBridge.Worker
