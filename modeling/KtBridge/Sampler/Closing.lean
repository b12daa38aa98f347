import KtBridge.Sampler.Custody

/-! # The end of a runtime

The runtime is closed inside both of its monitors, so nobody is in the middle of an update then, and
the sampler is not in the middle of a pass. -/

namespace KtBridge.Sampler

open Foundation GuardedSystem

variable {K : Type}

/-- Where the sampler is inside `sampleLock`, and no callback may close the runtime. -/
def Sampling.steady : Sampling K → Bool
  | locking | updating .. | retrieving => true
  | _ => false

/-- Where a step of a call leads, and what it found. -/
inductive Flow [Field K] (state : State K) (input : Input K) : Phase K → Phase K → Prop where
  | refused (suppliers : Suppliers K) : Flow state input (.opening suppliers) .idle
  | opened (suppliers : Suppliers K) : Flow state input (.opening suppliers) (.creating suppliers)
  | failed (suppliers : Suppliers K) : Flow state input (.creating suppliers) .idle
  | created (suppliers : Suppliers K) (worker : Worker) (handle : input.handle = some worker) :
      Flow state input (.creating suppliers) (.registering worker suppliers)
  | late (worker : Worker) (suppliers : Suppliers K) (closed : state.closed) :
      Flow state input (.registering worker suppliers) (.removing worker true)
  | controlled (worker : Worker) (suppliers : Suppliers K) (opened : state.closed = false)
      (some : kinds.any fun kind => (suppliers kind).isSome) :
      Flow state input (.registering worker suppliers) (.updating worker (.new suppliers))
  | uncontrolled (worker : Worker) (suppliers : Suppliers K) :
      Flow state input (.registering worker suppliers) (.starting worker)
  | updated (worker : Worker) (resource : ResourceWorker K) :
      Flow state input (.updating worker resource) (.starting worker)
  | rejected (worker : Worker) (resource : ResourceWorker K) :
      Flow state input (.updating worker resource) (.removing worker true)
  | started (worker : Worker) : Flow state input (.starting worker) .idle
  | unstarted (worker : Worker) : Flow state input (.starting worker) (.removing worker true)
  | removed (worker : Worker) (failed : Bool) :
      Flow state input (.removing worker failed) (.freeing worker failed)
  | freed (worker : Worker) (failed : Bool) : Flow state input (.freeing worker failed) .idle
  | observed (worker : Worker) (callback : Option Callback) :
      Flow state input (.observing worker callback) .idle
  | asked (worker : Worker) : Flow state input (.closing worker) (.entering worker)
  | skipped (worker : Worker) : Flow state input (.closing worker) .idle
  | entered (worker : Worker) : Flow state input (.entering worker) (.removing worker false)
  | preceded (worker : Worker) : Flow state input (.entering worker) .idle
  | ending : Flow state input .ending .halting
  | ended : Flow state input .ending .idle
  | halted (opened : state.closed = false) : Flow state input .halting .shutting
  | outrun : Flow state input .halting .idle
  | shut : Flow state input .shutting .draining
  | drained : Flow state input .draining .stopping
  | stopped : Flow state input .stopping .unregistering
  | unregistered : Flow state input .unregistering .idle

section Steps

variable [Field K] [LinearOrder K] [IsStrictOrderedRing K] {state : State K} {party : Party}
  {input : Input K}

theorem step_flow (input : Input K) (busy : (state.phase party).busy) :
    Flow state input (state.phase party) ((step state party input).phase party) := by
  cases here : state.phase party with
  | idle =>
      rw [here] at busy
      cases busy
  | opening suppliers =>
      simp only [step, here, State.setPhase_self]
      split
      · exact .refused suppliers
      · exact .opened suppliers
  | creating suppliers =>
      cases handle : input.handle with
      | none =>
          simp only [step, here, handle, State.setPhase_self]
          exact .failed suppliers
      | some worker =>
          simp only [step, here, handle, State.setPhase_self]
          exact .created suppliers worker handle
  | registering worker suppliers =>
      simp only [step, here]
      split
      · next closed =>
          rw [State.setPhase_self]
          exact .late worker suppliers closed
      split
      · next opened some =>
          rw [State.setPhase_self]
          exact .controlled worker suppliers (Bool.not_eq_true _ ▸ opened) some
      · rw [State.setPhase_self]
        exact .uncontrolled worker suppliers
  | updating worker resource =>
      simp only [step, here]
      split <;> rw [State.setPhase_self]
      · exact .updated worker resource
      · exact .rejected worker resource
  | starting worker =>
      simp only [step, here]
      split <;> rw [State.setPhase_self]
      · exact .started worker
      · exact .unstarted worker
  | removing worker failed =>
      simp only [step, here, State.setPhase_self]
      exact .removed worker failed
  | freeing worker failed =>
      simp only [step, here, State.setPhase_self]
      exact .freed worker failed
  | observing worker callback =>
      simp only [step, here, State.setPhase_self]
      exact .observed worker callback
  | closing worker =>
      simp only [step, here, State.setPhase_self]
      split
      · exact .skipped worker
      · exact .asked worker
  | entering worker =>
      simp only [step, here]
      split <;> rw [State.setPhase_self]
      · exact .preceded worker
      · exact .entered worker
  | ending =>
      simp only [step, here, State.setPhase_self]
      split
      · exact .ended
      · exact .ending
  | halting =>
      simp only [step, here]
      split
      · rw [State.setPhase_self]
        exact .outrun
      · next opened =>
          rw [State.setPhase_self]
          exact .halted (Bool.not_eq_true _ ▸ opened)
  | shutting =>
      simp only [step, here, State.setPhase_self]
      exact .shut
  | draining =>
      simp only [step, here, State.setPhase_self]
      exact .drained
  | stopping =>
      simp only [step, here, State.setPhase_self]
      exact .stopped
  | unregistering =>
      simp only [step, here, State.setPhase_self]
      exact .unregistered

/-- A runtime is closed by a call that is shutting it. -/
theorem step_closed :
    (step state party input).closed = state.closed ∨
      state.phase party = .shutting ∧ (step state party input).closed ∧
        (step state party input).listed = [] := by
  by_cases shuts : state.phase party = .shutting
  · refine .inr ⟨shuts, ?_⟩
    simp [step, shuts]
  · refine .inl ?_
    unfold step
    split <;> (try split) <;> (try split) <;> first | rfl | contradiction

/-- The monitor stays. -/
theorem step_monitor (there : state.monitor) : (step state party input).monitor := by
  unfold step
  split <;> (try split) <;> (try split) <;> first | exact there | rfl

/-- Before the first update there is a monitor. -/
theorem step_updating {worker : Worker} {resource : ResourceWorker K}
    (busy : (state.phase party).busy)
    (now : (step state party input).phase party = .updating worker resource) :
    state.closed = false ∧ (step state party input).monitor := by
  have flow := step_flow input busy
  rw [now] at flow
  generalize here : state.phase party = phase at flow
  cases flow with
  | controlled _ suppliers opened some =>
      refine ⟨opened, ?_⟩
      simp only [step, here, opened, some, Bool.false_eq_true, ↓reduceIte]

/-- What a call does to the workers that are listed. -/
theorem step_listed (state : State K) (party : Party) (input : Input K) :
    (step state party input).listed = state.listed ∨
      (∃ worker resource, state.phase party = .updating worker resource ∧
        (step state party input).listed =
          if worker ∈ state.listed then state.listed else state.listed ++ [worker]) ∨
      (∃ worker failed, state.phase party = .removing worker failed ∧
        (step state party input).listed = state.listed.erase worker) ∨
      state.phase party = .shutting ∧ (step state party input).listed = [] := by
  cases here : state.phase party with
  | updating worker resource =>
      simp only [step, here]
      split
      · exact .inr (.inl ⟨worker, resource, rfl, rfl⟩)
      · exact .inl rfl
  | removing worker failed =>
      simp only [step, here]
      exact .inr (.inr (.inl ⟨worker, failed, rfl, rfl⟩))
  | shutting =>
      simp [step, here]
  | _ =>
      refine .inl ?_
      simp only [step, here] <;> (try split) <;> (try split) <;> rfl

end Steps

/-- What holds while a runtime is open, and from when it is closed. -/
structure Shut (logged : State K × List (Event K)) : Prop where
  call : ∀ party worker resource, logged.1.phase party = .updating worker resource →
    logged.1.closed = false ∧ logged.1.monitor
  sampler : logged.1.sampling.steady → logged.1.closed = false
  shutting : ∀ party, logged.1.phase party = .shutting → logged.1.closed = false
  stopping : ∀ party, logged.1.phase party = .draining ∨ logged.1.phase party = .stopping →
    logged.1.closed ∧ .runtimeFree ∉ logged.2
  unclosed : logged.1.closed = false → .close ∉ logged.2 ∧ .runtimeFree ∉ logged.2
  empty : logged.1.closed → logged.1.listed = []
  monitored : ∀ worker ∈ logged.1.listed, logged.1.monitor

/-- The sampler is inside `sampleLock` where it is steady. -/
theorem holds_of_steady {sampling : Sampling K} (steady : sampling.steady) :
    sampling.holds .sample := by
  cases sampling <;> first | rfl | cases steady

/-- No callback runs where the sampler is steady. -/
theorem not_inCallback_of_steady {sampling : Sampling K} (steady : sampling.steady) :
    sampling.inCallback = false := by
  cases sampling <;> first | rfl | cases steady

/-- When a call closes the runtime, nobody is in the middle of an update, or of closing it, and the
sampler is not in the middle of a pass. -/
theorem alone_of_shutting {state : State K} {party : Party} (accounted : state.Accounted)
    (hooked : state.Hooked) (shuts : state.phase party = .shutting)
    (passes : state.Passes party.thread (state.phase party).wants) :
    (∀ other worker resource, state.phase other ≠ .updating worker resource) ∧
      (∀ other, (state.phase other).holds .sample → other = party) ∧
      state.sampling.steady = false := by
  have holds : (state.phase party).holds .sample := by
    rw [shuts]
    rfl
  refine ⟨?_, fun other also => accounted.exclusive also holds, ?_⟩
  · intro other worker resource updates
    rw [shuts] at passes
    have inside : (state.phase other).holds .runtime := by
      rw [updates]
      rfl
    by_cases same : other.thread = party.thread
    · have own : other = party := by
        cases other <;> cases party <;> first | rfl | cases same
        rfl
      rw [own, shuts] at updates
      cases updates
    · have entered := accounted.inside inside
      rw [accounted, accounted.outside (passes .runtime rfl) same] at entered
      exact absurd entered (lt_irrefl 0)
  · cases steady : state.sampling.steady with
    | false => rfl
    | true =>
        cases party with
        | hook =>
            have inside := hooked (by rw [shuts]; rfl)
            rw [not_inCallback_of_steady steady] at inside
            cases inside
        | outside place =>
            have same := Monitor.exclusive (accounted.inside holds)
              (accounted.insideSampler (holds_of_steady steady))
            cases same

/-- What a call reports when it ends the runtime. -/
theorem mem_reports {phase : Phase K} {closed : Bool} {input : Input K} :
    (.close ∈ phase.reports closed input → phase = .shutting) ∧
      (.runtimeFree ∈ phase.reports closed input → phase = .stopping) := by
  cases phase with
  | registering worker suppliers =>
      rw [Phase.reports]
      split <;> simp
  | _ => simp [Phase.reports]

/-- The sampler does not end the runtime. -/
theorem mem_reports_sampling {sampling : Sampling K} {closed : Bool} {input : Input K} :
    .close ∉ sampling.reports closed input ∧ .runtimeFree ∉ sampling.reports closed input := by
  unfold Sampling.reports
  split
  · simp
  · split <;> simp
  · simp
  · simp

/-- Whoever begins a call ends nothing. -/
theorem Shut.begin {state : State K} {log : List (Event K)} (shut : Shut (state, log))
    (party : Party) {phase : Phase K} (outside : phase.holds = fun _ => false) :
    Shut (state.setPhase party phase, log) := by
  have known : ∀ other found, (state.setPhase party phase).phase other = found →
      found.holds ≠ (fun _ => false) → state.phase other = found := by
    intro other found there holds
    by_cases own : other = party
    · rw [own, State.setPhase_self] at there
      rw [← there] at holds
      exact absurd outside holds
    · rwa [State.setPhase_of_ne _ _ own] at there
  have away {found : Phase K} (lock : Lock) (holds : found.holds lock) :
      found.holds ≠ fun _ => false := by
    intro none
    rw [none] at holds
    cases holds
  refine { shut with call := ?_, shutting := ?_, stopping := ?_ }
  · intro other worker resource updates
    exact shut.call other worker resource (known other _ updates (away .runtime rfl))
  · intro other shuts
    exact shut.shutting other (known other _ shuts (away .sample rfl))
  · intro other ends
    exact shut.stopping other (ends.imp (fun drains => known other _ drains (away .sample rfl))
      fun stops => known other _ stops (away .sample rfl))

section Runs

variable [Field K] [LinearOrder K] [IsStrictOrderedRing K]

/-- The sampler begins a pass, and looks for the telemetry, only while the runtime is open. -/
theorem advance_steady {state : State K} {input : Input K}
    (steady : (advance state input).sampling.steady) :
    state.sampling.steady ∨ state.closed = false := by
  cases here : state.sampling with
  | idle =>
      simp only [advance, here] at steady
      cases steady
  | stopped =>
      simp only [advance, here] at steady
      cases steady
  | entering =>
      cases closed : state.closed with
      | false => exact .inr rfl
      | true =>
          simp only [advance, here, closed, ↓reduceIte] at steady
          cases steady
  | locking => exact .inl rfl
  | updating left deliveries => exact .inl rfl
  | delivering deliveries =>
      cases closed : state.closed with
      | false => exact .inr rfl
      | true =>
          cases deliveries <;> simp only [advance, here, closed, ↓reduceIte] at steady <;>
            cases steady
  | calling delivery deliveries =>
      simp only [advance, here] at steady
      split at steady <;> cases steady
  | retrieving => exact .inl rfl

theorem advance_frame (state : State K) (input : Input K) :
    (advance state input).closed = state.closed ∧ (advance state input).listed = state.listed ∧
      (advance state input).monitor = state.monitor := by
  unfold advance
  split <;> (try split) <;> exact ⟨rfl, rfl, rfl⟩

section Calls

variable {state : State K} {log : List (Event K)} {party : Party} {input : Input K}

/-- Closing the runtime. -/
theorem Shut.close (shut : Shut (state, log)) (accounted : state.Accounted)
    (hooked : state.Hooked) (shuts : state.phase party = .shutting)
    (passes : state.Passes party.thread (state.phase party).wants) :
    Shut (Sampler.step state party input,
      log ++ (state.phase party).reports state.closed input) := by
  obtain ⟨quiet, sole, unsteady⟩ := alone_of_shutting accounted hooked shuts passes
  have next : Sampler.step state party input =
      { state.setPhase party .draining with closed := true, listed := [] } := by
    simp only [Sampler.step, shuts]
  have unheld {other : Party} {phase : Phase K} (different : phase ≠ .draining)
      (holds : phase.holds .sample)
      (there : (state.setPhase party .draining).phase other = phase) : False := by
    by_cases own : other = party
    · rw [own, State.setPhase_self] at there
      exact different there.symm
    · rw [State.setPhase_of_ne _ _ own] at there
      exact own (sole other (there ▸ holds))
  rw [next]
  refine
    { call := ?_
      sampler := fun steady => ?_
      shutting := fun other there =>
        absurd there (unheld (fun impossible => by cases impossible) rfl)
      stopping := ?_
      unclosed := fun opened => by cases opened
      empty := fun _ => rfl
      monitored := fun _ member => absurd member List.not_mem_nil }
  · intro other worker resource updates
    by_cases own : other = party
    · rw [own] at updates
      cases (State.setPhase_self state party .draining).symm.trans updates
    · have before := (State.setPhase_of_ne state _ own).symm.trans updates
      exact absurd before (quiet other worker resource)
  · cases unsteady.symm.trans steady
  · intro other there
    refine ⟨rfl, fun member => ?_⟩
    rcases List.mem_append.mp member with before | now
    · exact (shut.unclosed (shut.shutting party shuts)).2 before
    · rw [shuts] at now
      cases mem_reports.2 now

/-- A step of a call that does not close the runtime. -/
theorem Shut.step (shut : Shut (state, log)) (accounted : state.Accounted)
    (busy : (state.phase party).busy) (spared : state.phase party ≠ .shutting) :
    Shut (Sampler.step state party input,
      log ++ (state.phase party).reports state.closed input) := by
  have flow := step_flow input busy
  have still : (Sampler.step state party input).closed = state.closed :=
    step_closed.resolve_right fun shuts => spared shuts.1
  have others {other : Party} (different : other ≠ party) :
      (Sampler.step state party input).phase other = state.phase other :=
    step_phase_of_ne different
  have unended : .close ∉ (state.phase party).reports state.closed input :=
    fun reported => spared (mem_reports.1 reported)
  refine
    { call := ?_
      sampler := ?_
      shutting := ?_
      stopping := ?_
      unclosed := ?_
      empty := ?_
      monitored := ?_ }
  · intro other worker resource updates
    rw [still]
    by_cases own : other = party
    · rw [own] at updates
      exact step_updating busy updates
    · have known := shut.call other worker resource ((others own).symm.trans updates)
      exact ⟨known.1, step_monitor known.2⟩
  · intro steady
    rw [still]
    rw [step_sampling] at steady
    exact shut.sampler steady
  · intro other shuts
    rw [still]
    by_cases own : other = party
    · rw [own] at shuts
      rw [shuts] at flow
      generalize state.phase party = phase at flow
      cases flow with
      | halted opened => exact opened
    · exact shut.shutting other ((others own).symm.trans shuts)
  · intro other ends
    rw [still]
    by_cases own : other = party
    · rw [own] at ends
      have drains : state.phase party = .draining := by
        generalize state.phase party = phase at flow spared
        rcases ends with ends | ends
        · rw [ends] at flow
          cases flow
          exact absurd rfl spared
        · rw [ends] at flow
          cases flow
          rfl
      have known := shut.stopping party (.inl drains)
      refine ⟨known.1, fun member => ?_⟩
      rcases List.mem_append.mp member with before | now
      · exact known.2 before
      · cases drains.symm.trans (mem_reports.2 now)
    · rw [others own] at ends
      have known := shut.stopping other ends
      refine ⟨known.1, fun member => ?_⟩
      rcases List.mem_append.mp member with before | now
      · exact known.2 before
      · -- Two calls are not both inside `sampleLock`.
        have stops := mem_reports.2 now
        have inside : (state.phase other).holds .sample := by
          rcases ends with ends | ends <;> rw [ends] <;> rfl
        have also : (state.phase party).holds .sample := by
          rw [stops]
          rfl
        exact own (accounted.exclusive inside also)
  · intro opened
    rw [still] at opened
    have known := shut.unclosed opened
    refine ⟨fun member => ?_, fun member => ?_⟩
    · exact (List.mem_append.mp member).elim known.1 unended
    · rcases List.mem_append.mp member with before | now
      · exact known.2 before
      · cases opened.symm.trans (shut.stopping party (.inr (mem_reports.2 now))).1
  · intro closed
    rw [still] at closed
    have none := shut.empty closed
    rcases step_listed state party input with same | ⟨worker, resource, updates, _⟩ |
        ⟨worker, failed, _, listed⟩ | ⟨shuts, _⟩
    · exact same.trans none
    · cases closed.symm.trans (shut.call party worker resource updates).1
    · rw [listed, none]
      rfl
    · exact absurd shuts spared
  · intro worker member
    rcases step_listed state party input with same | ⟨updated, resource, updates, _⟩ |
        ⟨removed, failed, _, listed⟩ | ⟨shuts, _⟩
    · rw [same] at member
      exact step_monitor (shut.monitored worker member)
    · exact step_monitor (shut.call party updated resource updates).2
    · rw [listed] at member
      exact step_monitor (shut.monitored worker (List.mem_of_mem_erase member))
    · exact absurd shuts spared

/-- A step of the sampler. -/
theorem Shut.advance (shut : Shut (state, log)) :
    Shut (Sampler.advance state input, log ++ state.sampling.reports state.closed input) := by
  obtain ⟨closed, listed, monitor⟩ := advance_frame state input
  have kept {event : Event K} (before : event ∉ log)
      (now : event ∉ state.sampling.reports state.closed input) :
      event ∉ log ++ state.sampling.reports state.closed input :=
    fun member => (List.mem_append.mp member).elim before now
  refine
    { call := ?_
      sampler := ?_
      shutting := ?_
      stopping := ?_
      unclosed := ?_
      empty := ?_
      monitored := ?_ }
  · rw [advance_phase, closed, monitor]
    exact shut.call
  · intro steady
    rw [closed]
    exact (advance_steady steady).elim shut.sampler id
  · rw [advance_phase, closed]
    exact shut.shutting
  · rw [advance_phase, closed]
    intro party ends
    have known := shut.stopping party ends
    exact ⟨known.1, kept known.2 mem_reports_sampling.2⟩
  · rw [closed]
    intro opened
    have known := shut.unclosed opened
    exact ⟨kept known.1 mem_reports_sampling.1, kept known.2 mem_reports_sampling.2⟩
  · rw [closed, listed]
    exact shut.empty
  · rw [listed, monitor]
    exact shut.monitored

end Calls

theorem shut_invariant : ((system K).logged events).Invariant Shut where
  start :=
    { call := fun _ _ _ holds => by cases holds
      sampler := fun holds => by cases holds
      shutting := fun _ holds => by cases holds
      stopping := fun _ holds => by rcases holds with holds | holds <;> cases holds
      unclosed := fun _ => ⟨List.not_mem_nil, List.not_mem_nil⟩
      empty := fun _ => rfl
      monitored := fun _ member => absurd member List.not_mem_nil }
  step := by
    rintro ⟨state, log⟩ action reached shut ready
    have accounted := accounted_invariant.reachable reached.of_logged
    have hooked := hooked_invariant.reachable reached.of_logged
    cases action with
    | create party | observe party | close party | closeRuntime party =>
        rw [effect_logged_of_silent log rfl]
        exact shut.begin party rfl
    | step party input =>
        by_cases shuts : state.phase party = .shutting
        · exact shut.close accounted hooked shuts ready.2.1
        · exact shut.step accounted ready.1 shuts
    | sample =>
        rw [effect_logged_of_silent log rfl]
        exact { shut with sampler := fun steady => by cases steady }
    | advance input =>
        exact shut.advance

end Runs

end KtBridge.Sampler
