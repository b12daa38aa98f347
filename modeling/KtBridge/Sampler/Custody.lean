import KtBridge.Foundation.Lifetime
import KtBridge.Sampler.Holding

/-! # Who has to free a worker

Whoever creates a worker has its handle alone, until `TemporalWorker.create` returns; from then on
it is the first call of `close` that frees it. -/

namespace KtBridge.Sampler

open Foundation Foundation.Lifetime

variable {K : Type}

/-- What a call has to do with a worker's handle. -/
def Phase.role : Phase K → Role Worker
  | registering worker _ | updating worker _ | starting worker => .creator worker
  | removing worker failed | freeing worker failed =>
      if failed then .creator worker else .closer worker
  | closing worker | entering worker => .asker worker
  | _ => .nobody

/-- The worker that a native call frees. -/
def Event.freed : Event K → Option Worker
  | workerFree worker => some worker
  | _ => none

/-- The lifetimes of the workers' handles. -/
def lifetimes (logged : State K × List (Event K)) : Lifetime.State Party Worker where
  born := logged.1.workers
  shared := logged.1.wrapped
  claimed := logged.1.workerClosed
  freed := logged.2.filterMap Event.freed
  role := fun party => (logged.1.phase party).role

/-- What is freed is in the log. -/
theorem mem_freed {state : State K} {log : List (Event K)} {worker : Worker} :
    worker ∈ (lifetimes (state, log)).freed ↔ .workerFree worker ∈ log := by
  constructor
  · intro member
    obtain ⟨event, there, frees⟩ := List.mem_filterMap.mp member
    cases event with
    | workerFree other =>
        cases frees
        exact there
    | _ => cases frees
  · exact fun there => List.mem_filterMap.mpr ⟨_, there, rfl⟩

section Steps

variable {state next : State K} {party : Party} (log : List (Event K)) {more : List (Event K)}

/-- A call that moves on changes its own role. -/
theorem lifetimes_role (others : ∀ other, other ≠ party → next.phase other = state.phase other)
    {role : Role Worker} (own : (next.phase party).role = role) :
    (fun other => (next.phase other).role) =
      Function.update (fun other => (state.phase other).role) party role := by
  funext other
  by_cases here : other = party
  · rw [here, Function.update_self, own]
  · rw [Function.update_of_ne here, others other here]

/-- A step that frees nothing is seen by the roles and the sets it changes. -/
theorem lifetimes_step (others : ∀ other, other ≠ party → next.phase other = state.phase other)
    {role : Role Worker} (own : (next.phase party).role = role)
    (unfreed : more.filterMap Event.freed = []) :
    lifetimes (next, log ++ more) =
      { (lifetimes (state, log)).setRole party role with
        born := next.workers, shared := next.wrapped, claimed := next.workerClosed } := by
  simp only [lifetimes, State.setRole, List.filterMap_append, unfreed, List.append_nil,
    lifetimes_role others own]

/-- A step that keeps the role and the sets is not seen. -/
theorem lifetimes_same (others : ∀ other, other ≠ party → next.phase other = state.phase other)
    (own : (next.phase party).role = (state.phase party).role)
    (unfreed : more.filterMap Event.freed = []) (workers : next.workers = state.workers)
    (wrapped : next.wrapped = state.wrapped) (claimed : next.workerClosed = state.workerClosed) :
    lifetimes (next, log ++ more) = lifetimes (state, log) := by
  rw [lifetimes_step log others own unfreed, workers, wrapped, claimed]
  have same : Function.update (fun other => (state.phase other).role) party
      (state.phase party).role = fun other => (state.phase other).role :=
    Function.update_eq_self ..
  simp only [lifetimes, State.setRole, same]

end Steps

/-- A step of one call moves one handle through its lifetime, or none. -/
theorem step_lifetimes [Field K] [LinearOrder K] [IsStrictOrderedRing K] {state : State K}
    {party : Party} {input : Input K} {log : List (Event K)}
    (fresh : ∀ worker ∈ input.handle, worker ∉ state.workers) :
    lifetimes (step state party input,
          log ++ (state.phase party).reports state.closed input) = lifetimes (state, log) ∨
      ∃ action, Lifetime.guard (lifetimes (state, log)) action ∧
        lifetimes (step state party input,
          log ++ (state.phase party).reports state.closed input) =
            Lifetime.effect (lifetimes (state, log)) action := by
  have others : ∀ other, other ≠ party → (step state party input).phase other = state.phase other :=
    fun _ => step_phase_of_ne
  have same (own : ((step state party input).phase party).role = (state.phase party).role)
      (unfreed : ((state.phase party).reports state.closed input).filterMap Event.freed = [])
      (workers : (step state party input).workers = state.workers)
      (wrapped : (step state party input).wrapped = state.wrapped)
      (claimed : (step state party input).workerClosed = state.workerClosed) :=
    lifetimes_same log others own unfreed workers wrapped claimed
  have moves {role : Role Worker} (own : ((step state party input).phase party).role = role)
      (unfreed : ((state.phase party).reports state.closed input).filterMap Event.freed = []) :=
    lifetimes_step log others own unfreed
  cases here : state.phase party with
  | idle | removing | shutting | draining | stopping | unregistering =>
      rw [here] at same
      refine .inl (same ?_ rfl ?_ ?_ ?_) <;> simp only [step, here] <;> first | rfl | skip
      all_goals simp [Phase.role, State.setPhase, State.leave]
  | opening | observing | ending | halting =>
      rw [here] at same
      refine .inl (same ?_ rfl ?_ ?_ ?_) <;> simp only [step, here] <;> split <;>
        simp [Phase.role, State.setPhase, State.enter, State.setResource]
  | registering worker suppliers =>
      rw [here] at same
      refine .inl (same ?_ ?_ ?_ ?_ ?_)
      · simp only [step, here]
        split
        · simp [Phase.role]
        split <;> simp [Phase.role]
      · rw [Phase.reports]
        split <;> rfl
      all_goals
        simp only [step, here]
        split
        · rfl
        split <;> rfl
  | updating worker resource =>
      rw [here] at same
      refine .inl (same ?_ rfl ?_ ?_ ?_) <;> simp only [step, here] <;> split <;>
        simp [Phase.role, State.setPhase, State.leave, State.tell, State.list, State.setResource]
  | creating suppliers =>
      cases born : input.handle with
      | none =>
          rw [here] at same
          refine .inl (same ?_ rfl ?_ ?_ ?_) <;> simp only [step, here, born] <;>
            simp [Phase.role, State.setPhase]
      | some worker =>
          rw [here] at moves
          refine .inr ⟨.bear party worker, ⟨?_, fresh worker born⟩, ?_⟩
          · simp [lifetimes, here, Phase.role]
          · rw [@moves (.creator worker)
              (by simp [step, here, born, Phase.role, State.setPhase]) rfl]
            simp only [step, here, born]
            rfl
  | starting worker =>
      cases started : input.started with
      | false =>
          rw [here] at same
          refine .inl (same ?_ rfl ?_ ?_ ?_) <;> simp only [step, here, started] <;>
            simp [Phase.role, State.setPhase]
      | true =>
          rw [here] at moves
          refine .inr ⟨.share party worker, ?_, ?_⟩
          · simp [Lifetime.guard, lifetimes, here, Phase.role]
          · rw [@moves .nobody (by simp [step, here, started, Phase.role, State.setPhase]) rfl]
            simp only [step, here, started]
            rfl
  | freeing worker failed =>
      refine .inr ⟨.free party worker, ?_, ?_⟩
      · cases failed <;> simp [Lifetime.guard, lifetimes, here, Phase.role, Role.keeps]
      · have own : ((step state party input).phase party).role = .nobody := by
          simp [step, here, Phase.role]
        simp only [lifetimes, Lifetime.effect, State.setRole, lifetimes_role others own,
          List.filterMap_append, Phase.reports]
        simp only [step, here]
        cases failed <;> rfl
  | closing worker =>
      cases closed : state.workerClosed worker with
      | false =>
          rw [here] at same
          refine .inl (same ?_ rfl ?_ ?_ ?_) <;> simp only [step, here, closed] <;>
            simp [Phase.role, State.setPhase]
      | true =>
          rw [here] at moves
          refine .inr ⟨.refuse party, ⟨worker, ?_⟩, ?_⟩
          · simp [lifetimes, here, Phase.role]
          · rw [@moves .nobody (by simp [step, here, closed, Phase.role]) rfl]
            simp only [step, here, closed]
            rfl
  | entering worker =>
      cases closed : state.workerClosed worker with
      | true =>
          rw [here] at moves
          refine .inr ⟨.refuse party, ⟨worker, ?_⟩, ?_⟩
          · simp [lifetimes, here, Phase.role]
          · rw [@moves .nobody (by simp [step, here, closed, Phase.role]) rfl]
            simp only [step, here, closed]
            rfl
      | false =>
          rw [here] at moves
          refine .inr ⟨.claim party worker, ⟨?_, closed⟩, ?_⟩
          · simp [lifetimes, here, Phase.role]
          · rw [@moves (.closer worker)
              (by simp [step, here, closed, Phase.role, State.setPhase]) rfl]
            simp only [step, here, closed]
            rfl

/-- A call that begins asks for a worker that was returned, or has nothing to do with any. -/
theorem begin_lifetimes {state : State K} {party : Party} {log : List (Event K)} {phase : Phase K}
    (begins : state.Begins party) :
    (phase.role = .nobody → lifetimes (state.setPhase party phase, log ++ []) =
        lifetimes (state, log)) ∧
      ∀ worker, phase.role = .asker worker → worker ∈ state.wrapped →
        Lifetime.guard (lifetimes (state, log)) (.ask party worker) ∧
          lifetimes (state.setPhase party phase, log ++ []) =
            Lifetime.effect (lifetimes (state, log)) (.ask party worker) := by
  have others : ∀ other, other ≠ party →
      (state.setPhase party phase).phase other = state.phase other :=
    fun _ different => State.setPhase_of_ne _ _ different
  have idle := idle_of_busy begins.1
  constructor
  · intro role
    refine lifetimes_same log others ?_ rfl rfl rfl rfl
    rw [State.setPhase_self, role, idle]
    rfl
  · intro worker role wrapped
    refine ⟨⟨?_, wrapped⟩, ?_⟩
    · simp only [lifetimes, idle]
      rfl
    · rw [@lifetimes_step K _ _ _ log _ others (.asker worker)
        (by rw [State.setPhase_self, role]) rfl]
      rfl

/-- The sampler frees no worker. -/
theorem sampling_unfreed (sampling : Sampling K) (closed : Bool) (input : Input K) :
    (sampling.reports closed input).filterMap Event.freed = [] := by
  unfold Sampling.reports
  split
  · rfl
  · split <;> rfl
  · rfl
  · rfl

section Runs

variable [Field K] [LinearOrder K] [IsStrictOrderedRing K]

/-- The sampler changes neither calls nor handles. -/
theorem advance_lifetimes (state : State K) (input : Input K) (log : List (Event K)) :
    lifetimes (advance state input, log ++ state.sampling.reports state.closed input) =
      lifetimes (state, log) := by
  simp only [lifetimes, List.filterMap_append, sampling_unfreed, List.append_nil]
  unfold advance
  split <;> (try split) <;> rfl

/-- Every run of the runtime moves the handles of its workers through their lifetimes. -/
theorem lifetimes_projects :
    ((system K).logged events).Projects (Lifetime.system Party Worker) lifetimes where
  start := rfl
  step := by
    rintro ⟨state, log⟩ action ready
    cases action with
    | create party suppliers => exact .inl ((begin_lifetimes ready).1 rfl)
    | observe party worker callback => exact .inl ((begin_lifetimes ready.1).1 rfl)
    | close party worker =>
        obtain ⟨guarded, same⟩ :=
          (@begin_lifetimes K state party log (.closing worker) ready.1).2 worker rfl ready.2
        exact .inr ⟨.ask party worker, guarded, same⟩
    | closeRuntime party => exact .inl ((begin_lifetimes ready).1 rfl)
    | step party input => exact step_lifetimes ready.2.2
    | sample =>
        refine .inl ?_
        simp only [GuardedSystem.logged, events, List.append_nil]
        rfl
    | advance input =>
        exact .inl (advance_lifetimes state input log)

/-- What is known of the workers' handles in every reachable state. -/
theorem lifetimes_kept {logged : State K × List (Event K)}
    (reached : ((system K).logged events).Reachable logged) : Lifetime.Kept (lifetimes logged) :=
  Lifetime.kept_invariant.reachable (lifetimes_projects.reachable reached)

end Runs

end KtBridge.Sampler
