import KtBridge.Sampler.Closing

/-! # The order of the calls

The sampler, the calls that create and close workers and those that close the runtime interleave in
any way, and may come from callbacks. No native call is made on what was freed before, and when the
runtime is closed no update, no callback and no registration follows. -/

namespace KtBridge.Sampler

open Foundation GuardedSystem

variable {K : Type}

/-- What does not happen after an event. -/
def Event.Forbids : Event K → Event K → Prop
  | register worker _, register other _ => worker = other
  | workerFree worker, register other _ => worker = other
  | workerFree worker, updateResource other _ _ => worker = other
  | workerFree worker, workerFree other => worker = other
  | close, register .. | close, updateResource .. | close, callback _ | close, close => True
  | runtimeFree, register .. | runtimeFree, updateResource .. | runtimeFree, callback _ => True
  | runtimeFree, retrieveMetrics | runtimeFree, runtimeFree => True
  | _, _ => False

/-- What is known of the workers that are listed. -/
structure Listing (logged : State K × List (Event K)) : Prop where
  unfreed : ∀ worker ∈ logged.1.listed, .workerFree worker ∉ logged.2
  gone : ∀ party worker failed, logged.1.phase party = .freeing worker failed →
    worker ∉ logged.1.listed
  distinct : logged.1.listed.Nodup
  left : ∀ left deliveries, logged.1.sampling = .updating left deliveries →
    ∀ worker ∈ left, worker ∈ logged.1.listed
  given : ∀ worker ∈ logged.1.listed, worker ∈ logged.1.workers
  registered : ∀ worker suppliers, .register worker suppliers ∈ logged.2 →
    worker ∈ logged.1.workers
  fresh : ∀ party worker suppliers, logged.1.phase party = .registering worker suppliers →
    ∀ earlier, .register worker earlier ∉ logged.2

/-- What the next step of a call may report, and when. -/
theorem of_mem_reports {phase : Phase K} {closed : Bool} {input : Input K} {event : Event K}
    (reported : event ∈ phase.reports closed input) :
    (∃ worker suppliers, phase = .registering worker suppliers ∧ closed = false ∧
        event = .register worker suppliers) ∨
      (∃ worker resource, phase = .updating worker resource ∧
        event = .updateResource worker input.reading input.stats.isSome) ∨
      (∃ worker failed, phase = .freeing worker failed ∧ event = .workerFree worker) ∨
      phase = .shutting ∧ event = .close ∨ phase = .draining ∧ event = .retrieveMetrics ∨
      phase = .stopping ∧ event = .runtimeFree := by
  cases phase with
  | registering worker suppliers =>
      rw [Phase.reports] at reported
      split at reported
      · next opened =>
          rw [Bool.and_eq_true, Bool.not_eq_true'] at opened
          exact .inl ⟨worker, suppliers, rfl, opened.1, List.mem_singleton.mp reported⟩
      · cases reported
  | updating worker resource =>
      exact .inr (.inl ⟨worker, resource, rfl, List.mem_singleton.mp reported⟩)
  | freeing worker failed =>
      exact .inr (.inr (.inl ⟨worker, failed, rfl, List.mem_singleton.mp reported⟩))
  | shutting => exact .inr (.inr (.inr (.inl ⟨rfl, List.mem_singleton.mp reported⟩)))
  | draining => exact .inr (.inr (.inr (.inr (.inl ⟨rfl, List.mem_singleton.mp reported⟩))))
  | stopping => exact .inr (.inr (.inr (.inr (.inr ⟨rfl, List.mem_singleton.mp reported⟩))))
  | _ => cases reported

/-- What the next step of the sampler may report, and when. -/
theorem of_mem_sampling {sampling : Sampling K} {closed : Bool} {input : Input K} {event : Event K}
    (reported : event ∈ sampling.reports closed input) :
    (∃ worker left deliveries, sampling = .updating (worker :: left) deliveries ∧
        event = .updateResource worker input.reading input.stats.isSome) ∨
      (∃ delivery deliveries, sampling = .delivering (delivery :: deliveries) ∧ closed = false ∧
        event = .callback delivery) ∨
      sampling = .retrieving ∧ event = .retrieveMetrics := by
  unfold Sampling.reports at reported
  split at reported
  · next worker left deliveries =>
      exact .inl ⟨worker, left, deliveries, rfl, List.mem_singleton.mp reported⟩
  · next delivery deliveries =>
      split at reported
      · cases reported
      · next opened =>
          exact .inr (.inl ⟨delivery, deliveries, rfl, Bool.not_eq_true _ ▸ opened,
            List.mem_singleton.mp reported⟩)
  · exact .inr (.inr ⟨rfl, List.mem_singleton.mp reported⟩)
  · cases reported

/-- While the sampler updates, no call is inside the runtime's monitor, or enters it. -/
theorem locked_of_updating {state : State K} {party : Party} {left : List Worker}
    {deliveries : List (Delivery K)} (accounted : state.Accounted) (hooked : state.Hooked)
    (updates : state.sampling = .updating left deliveries) (busy : (state.phase party).busy)
    (passes : state.Passes party.thread (state.phase party).wants) :
    (state.phase party).holds .runtime = false ∧ (state.phase party).wants ≠ some .runtime := by
  have holds : state.sampling.holds .runtime := by
    rw [updates]
    rfl
  have quiet : (state.phase .hook).busy = false := by
    by_contra calls
    have inside := hooked (Bool.not_eq_false _ |>.mp calls)
    rw [updates] at inside
    cases inside
  have outside : (state.phase .hook).holds .runtime = false := by
    rw [idle_of_busy quiet]
    rfl
  refine ⟨accounted.alone holds outside, fun wants => ?_⟩
  cases party with
  | hook =>
      rw [busy] at quiet
      cases quiet
  | outside place =>
      have inside := accounted.insideSampler holds
      rw [accounted, accounted.outside (passes .runtime wants) (by simp [Party.thread])] at inside
      exact absurd inside (lt_irrefl 0)

section Roles

variable {state : State K} {log : List (Event K)} {party : Party}

/-- A call that creates a worker has it alone: it is not freed. -/
theorem creator_unfreed {worker : Worker} (kept : Lifetime.Kept (lifetimes (state, log)))
    (creates : (state.phase party).role = .creator worker) :
    worker ∈ state.workers ∧ .workerFree worker ∉ log := by
  have known := kept.creator party worker creates
  exact ⟨known.1, fun freed => known.2.2 (mem_freed.mpr freed)⟩

/-- Two calls do not keep the same worker. -/
theorem keepers_same {worker : Worker} {other : Party}
    (kept : Lifetime.Kept (lifetimes (state, log)))
    (one : (state.phase party).role.keeps = some worker)
    (two : (state.phase other).role.keeps = some worker) : party = other :=
  kept.one party other worker one two

theorem freeing_keeps {worker : Worker} {failed : Bool} :
    (Phase.freeing worker failed : Phase K).role.keeps = some worker := by
  cases failed <;> rfl

end Roles

section Calls

variable [Field K] [LinearOrder K] [IsStrictOrderedRing K] {state : State K}
  {log : List (Event K)} {party : Party} {input : Input K}

/-- Handles stay given out. -/
theorem step_workers {worker : Worker} (member : worker ∈ state.workers) :
    worker ∈ (Sampler.step state party input).workers := by
  unfold Sampler.step
  split <;> (try split) <;> (try split) <;>
    first | exact member | exact Finset.mem_insert_of_mem member

theorem advance_workers : (Sampler.advance state input).workers = state.workers := by
  unfold Sampler.advance
  split <;> (try split) <;> rfl

/-- The sampler updates all that are listed, one after the other. -/
theorem advance_updating {left : List Worker} {deliveries : List (Delivery K)}
    (now : (Sampler.advance state input).sampling = .updating left deliveries) :
    left = state.listed ∨
      ∃ worker earlier, state.sampling = .updating (worker :: left) earlier := by
  cases here : state.sampling with
  | idle | stopped =>
      simp only [Sampler.advance, here] at now
      cases now
  | locking =>
      simp only [Sampler.advance, here] at now
      cases now
      exact .inl rfl
  | updating remaining earlier =>
      cases remaining with
      | nil =>
          simp only [Sampler.advance, here] at now
          cases now
      | cons worker rest =>
          simp only [Sampler.advance, here] at now
          split at now <;> cases now <;> exact .inr ⟨worker, _, rfl⟩
  | delivering deliveries =>
      cases deliveries <;> simp only [Sampler.advance, here] at now <;> split at now <;> cases now
  | entering | calling delivery deliveries =>
      simp only [Sampler.advance, here] at now
      split at now <;> cases now
  | retrieving =>
      simp only [Sampler.advance, here] at now
      cases now

/-- A worker that is removed is not listed. -/
theorem step_removing (input : Input K) {worker : Worker} {failed : Bool}
    (removes : state.phase party = .removing worker failed) :
    (Sampler.step state party input).listed = state.listed.erase worker := by
  simp only [Sampler.step, removes]

/-- A step of a call keeps the list in order. -/
theorem Listing.step (listing : Listing (state, log))
    (kept : Lifetime.Kept (lifetimes (state, log)))
    (accounted : state.Accounted) (hooked : state.Hooked) (busy : (state.phase party).busy)
    (passes : state.Passes party.thread (state.phase party).wants)
    (unused : ∀ worker ∈ input.handle, worker ∉ state.workers) :
    Listing (Sampler.step state party input,
      log ++ (state.phase party).reports state.closed input) := by
  have flow := step_flow input busy
  have others {other : Party} (different : other ≠ party) :
      (Sampler.step state party input).phase other = state.phase other :=
    step_phase_of_ne different
  have members : ∀ worker ∈ (Sampler.step state party input).listed, worker ∈ state.listed ∨
      ∃ resource, state.phase party = .updating worker resource := by
    intro worker member
    rcases step_listed state party input with same | ⟨updated, resource, updates, listed⟩ |
        ⟨removed, failed, _, listed⟩ | ⟨_, listed⟩
    · exact .inl (same ▸ member)
    · rw [listed] at member
      split at member
      · exact .inl member
      · refine (List.mem_append.mp member).imp id fun last => ?_
        rw [List.mem_singleton.mp last]
        exact ⟨resource, updates⟩
    · rw [listed] at member
      exact .inl (List.mem_of_mem_erase member)
    · rw [listed] at member
      cases member
  refine
    { unfreed := ?_
      gone := ?_
      distinct := ?_
      left := ?_
      given := ?_
      registered := ?_
      fresh := ?_ }
  · intro worker member freed
    rcases List.mem_append.mp freed with before | now
    · rcases members worker member with old | ⟨resource, updates⟩
      · exact listing.unfreed worker old before
      · exact (creator_unfreed kept (by rw [updates]; rfl)).2 before
    · rcases of_mem_reports now with ⟨_, _, _, _, ⟨⟩⟩ | ⟨_, _, _, ⟨⟩⟩ | ⟨_, failed, frees, ⟨⟩⟩ |
        ⟨_, ⟨⟩⟩ | ⟨_, ⟨⟩⟩ | ⟨_, ⟨⟩⟩
      rcases members worker member with old | ⟨resource, updates⟩
      · exact listing.gone party worker failed frees old
      · cases frees.symm.trans updates
  · intro other worker failed frees member
    by_cases own : other = party
    · rw [own] at frees
      rw [frees] at flow
      generalize here : state.phase party = phase at flow
      cases flow with
      | removed =>
          have listed := step_removing input here
          rw [listed] at member
          exact listing.distinct.not_mem_erase member
    · rw [others own] at frees
      rcases members worker member with old | ⟨resource, updates⟩
      · exact listing.gone other worker failed frees old
      · exact own (keepers_same kept (by rw [frees]; exact freeing_keeps) (by rw [updates]; rfl))
  · rcases step_listed state party input with same | ⟨updated, resource, updates, listed⟩ |
        ⟨removed, failed, _, listed⟩ | ⟨_, listed⟩
    · exact same.symm ▸ listing.distinct
    · rw [listed]
      split
      · exact listing.distinct
      · next absent =>
          exact List.nodup_append.mpr ⟨listing.distinct, List.nodup_singleton _,
            fun worker member other last same => absent
              (List.mem_singleton.mp last ▸ same ▸ member)⟩
    · rw [listed]
      exact listing.distinct.erase _
    · rw [listed]
      exact List.nodup_nil
  · rw [step_sampling]
    intro left deliveries updates worker member
    have locked := locked_of_updating accounted hooked updates busy passes
    rcases step_listed state party input with same | ⟨_, _, here, _⟩ | ⟨_, _, here, _⟩ | ⟨here, _⟩
    · exact same.symm ▸ listing.left left deliveries updates worker member
    · rw [here] at locked
      cases locked.1
    · rw [here] at locked
      exact absurd rfl locked.2
    · rw [here] at locked
      exact absurd rfl locked.2
  · intro worker member
    refine step_workers ?_
    rcases members worker member with old | ⟨resource, updates⟩
    · exact listing.given worker old
    · exact (creator_unfreed kept (by rw [updates]; rfl)).1
  · intro worker suppliers member
    refine step_workers ?_
    rcases List.mem_append.mp member with before | now
    · exact listing.registered worker suppliers before
    · rcases of_mem_reports now with ⟨_, _, registers, _, ⟨⟩⟩ | ⟨_, _, _, ⟨⟩⟩ | ⟨_, _, _, ⟨⟩⟩ |
        ⟨_, ⟨⟩⟩ | ⟨_, ⟨⟩⟩ | ⟨_, ⟨⟩⟩
      exact (creator_unfreed kept (by rw [registers]; rfl)).1
  · intro other worker suppliers registers earlier member
    by_cases own : other = party
    · rw [own] at registers
      rw [registers] at flow
      generalize here : state.phase party = phase at flow member
      cases flow with
      | created _ _ handle =>
          rcases List.mem_append.mp member with before | now
          · exact unused worker handle (listing.registered worker earlier before)
          · cases now
    · rw [others own] at registers
      rcases List.mem_append.mp member with before | now
      · exact listing.fresh other worker suppliers registers earlier before
      · rcases of_mem_reports now with ⟨_, _, registering, _, ⟨⟩⟩ | ⟨_, _, _, ⟨⟩⟩ | ⟨_, _, _, ⟨⟩⟩ |
          ⟨_, ⟨⟩⟩ | ⟨_, ⟨⟩⟩ | ⟨_, ⟨⟩⟩
        exact own (keepers_same kept (by rw [registers]; rfl) (by rw [registering]; rfl))

/-- A step of the sampler keeps the list in order. -/
theorem Listing.advance (listing : Listing (state, log)) :
    Listing (Sampler.advance state input,
      log ++ state.sampling.reports state.closed input) := by
  obtain ⟨_, listed, _⟩ := advance_frame state input
  have unreported : ∀ worker, .workerFree worker ∉ state.sampling.reports state.closed input := by
    intro worker reported
    rcases of_mem_sampling reported with ⟨_, _, _, _, ⟨⟩⟩ | ⟨_, _, _, _, ⟨⟩⟩ | ⟨_, ⟨⟩⟩
  have unregistered : ∀ worker suppliers,
      .register worker suppliers ∉ state.sampling.reports state.closed input := by
    intro worker suppliers reported
    rcases of_mem_sampling reported with ⟨_, _, _, _, ⟨⟩⟩ | ⟨_, _, _, _, ⟨⟩⟩ | ⟨_, ⟨⟩⟩
  refine
    { unfreed := ?_
      gone := ?_
      distinct := ?_
      left := ?_
      given := ?_
      registered := ?_
      fresh := ?_ }
  · rw [listed]
    intro worker member freed
    exact (List.mem_append.mp freed).elim (listing.unfreed worker member) (unreported worker)
  · rw [advance_phase, listed]
    exact listing.gone
  · rw [listed]
    exact listing.distinct
  · rw [listed]
    intro left deliveries updates worker member
    rcases advance_updating updates with rfl | ⟨first, earlier, before⟩
    · exact member
    · exact listing.left _ earlier before worker (List.mem_cons_of_mem _ member)
  · rw [listed, advance_workers]
    exact listing.given
  · intro worker suppliers member
    rw [advance_workers]
    exact (List.mem_append.mp member).elim (listing.registered worker suppliers)
      fun now => absurd now (unregistered worker suppliers)
  · rw [advance_phase]
    intro party worker suppliers registers earlier member
    exact (List.mem_append.mp member).elim (listing.fresh party worker suppliers registers earlier)
      (unregistered worker earlier)

end Calls

/-- Whoever begins a call changes nothing that is listed. -/
theorem Listing.begin {state : State K} {log : List (Event K)} (listing : Listing (state, log))
    (party : Party) {phase : Phase K} (idle : phase.role.keeps = none) :
    Listing (state.setPhase party phase, log) := by
  have known : ∀ other found, (state.setPhase party phase).phase other = found →
      found.role.keeps ≠ none → state.phase other = found := by
    intro other found there keeps
    by_cases own : other = party
    · rw [own, State.setPhase_self] at there
      rw [← there] at keeps
      exact absurd idle keeps
    · rwa [State.setPhase_of_ne _ _ own] at there
  refine { listing with gone := ?_, fresh := ?_ }
  · intro other worker failed frees
    refine listing.gone other worker failed (known other _ frees ?_)
    rw [freeing_keeps]
    exact Option.some_ne_none worker
  · intro other worker suppliers registers
    exact listing.fresh other worker suppliers
      (known other _ registers (Option.some_ne_none worker))

section Runs

variable [Field K] [LinearOrder K] [IsStrictOrderedRing K]

theorem listing_invariant : ((system K).logged events).Invariant Listing where
  start :=
    { unfreed := fun _ member => absurd member List.not_mem_nil
      gone := fun _ _ _ holds => by cases holds
      distinct := List.nodup_nil
      left := fun _ _ holds => by cases holds
      given := fun _ member => absurd member List.not_mem_nil
      registered := fun _ _ member => absurd member List.not_mem_nil
      fresh := fun _ _ _ holds => by cases holds }
  step := by
    rintro ⟨state, log⟩ action reached listing ready
    cases action with
    | create party | observe party | close party | closeRuntime party =>
        rw [effect_logged_of_silent log rfl]
        exact listing.begin party rfl
    | step party input =>
        exact listing.step (lifetimes_kept reached)
          (accounted_invariant.reachable reached.of_logged)
          (hooked_invariant.reachable reached.of_logged) ready.1 ready.2.1 ready.2.2
    | sample =>
        rw [effect_logged_of_silent log rfl]
        exact { listing with left := fun _ _ holds => by cases holds }
    | advance input => exact listing.advance

/-- What a step reports is not forbidden by what was reported before. -/
theorem unforbidden {state : State K} {log : List (Event K)} {action : Action K}
    (reached : ((system K).logged events).Reachable (state, log)) :
    ∀ earlier ∈ log, ∀ event ∈ events state action, ¬earlier.Forbids event := by
  have kept := lifetimes_kept reached
  have shut := shut_invariant.reachable reached
  have listing := listing_invariant.reachable reached
  have opened : state.closed = false → ∀ event ∈ log, event ≠ .close ∧ event ≠ .runtimeFree := by
    intro opened event member
    have known := shut.unclosed opened
    exact ⟨fun same => known.1 (same ▸ member), fun same => known.2 (same ▸ member)⟩
  intro earlier member event reported forbids
  cases action with
  | create | observe | close | closeRuntime | sample => cases reported
  | step party input =>
      rcases of_mem_reports reported with ⟨worker, suppliers, registers, free, rfl⟩ |
          ⟨worker, resource, updates, rfl⟩ | ⟨worker, failed, frees, rfl⟩ | ⟨shuts, rfl⟩ |
          ⟨drains, rfl⟩ | ⟨stops, rfl⟩
      · cases earlier with
        | register other before =>
            obtain rfl : other = worker := forbids
            exact listing.fresh party other suppliers registers before member
        | workerFree other =>
            obtain rfl : other = worker := forbids
            exact (creator_unfreed kept (by rw [registers]; rfl)).2 member
        | close => exact (opened free _ member).1 rfl
        | runtimeFree => exact (opened free _ member).2 rfl
        | _ => exact forbids
      · have free := (shut.call party worker resource updates).1
        cases earlier with
        | workerFree other =>
            obtain rfl : other = worker := forbids
            exact (creator_unfreed kept (by rw [updates]; rfl)).2 member
        | close => exact (opened free _ member).1 rfl
        | runtimeFree => exact (opened free _ member).2 rfl
        | _ => exact forbids
      · cases earlier with
        | workerFree other =>
            obtain rfl : other = worker := forbids
            have keeps : ((lifetimes (state, log)).role party).keeps = some other := by
              simp only [lifetimes, frees, freeing_keeps]
            exact (kept.kept keeps).2 (mem_freed.mpr member)
        | _ => exact forbids
      · cases earlier with
        | close => exact (opened (shut.shutting party shuts) _ member).1 rfl
        | _ => exact forbids
      · cases earlier with
        | runtimeFree => exact (shut.stopping party (.inl drains)).2 member
        | _ => exact forbids
      · cases earlier with
        | runtimeFree => exact (shut.stopping party (.inr stops)).2 member
        | _ => exact forbids
  | advance input =>
      rcases of_mem_sampling reported with ⟨worker, left, deliveries, updates, rfl⟩ |
          ⟨delivery, deliveries, delivers, free, rfl⟩ | ⟨retrieves, rfl⟩
      · have free := shut.sampler (by rw [updates]; rfl)
        cases earlier with
        | workerFree other =>
            obtain rfl : other = worker := forbids
            have there := listing.left _ deliveries updates other List.mem_cons_self
            exact listing.unfreed other there member
        | close => exact (opened free _ member).1 rfl
        | runtimeFree => exact (opened free _ member).2 rfl
        | _ => exact forbids
      · cases earlier with
        | close => exact (opened free _ member).1 rfl
        | runtimeFree => exact (opened free _ member).2 rfl
        | _ => exact forbids
      · have free := shut.sampler (by rw [retrieves]; rfl)
        cases earlier with
        | runtimeFree => exact (opened free _ member).2 rfl
        | _ => exact forbids

omit [Field K] [LinearOrder K] [IsStrictOrderedRing K] in
/-- A step reports one event at most. -/
theorem events_pairwise (state : State K) (action : Action K) (order : Event K → Event K → Prop) :
    (events state action).Pairwise order := by
  cases action with
  | step party input =>
      simp only [events, Phase.reports]
      split <;> (try split) <;> simp
  | advance input =>
      simp only [events, Sampling.reports]
      split <;> (try split) <;> simp
  | _ => exact .nil

/-- Over every run, whoever creates, observes and closes workers and closes the runtime meanwhile: a
worker is registered once, freed once, and not updated once it is freed; once the runtime is closed,
no worker is registered or updated and no callback begins; and the native runtime is freed once,
with no telemetry retrieved after it. -/
theorem calls_are_in_order {trace : List (Action K)} (runs : (system K).Runs start trace) :
    ((system K).log events start trace).Pairwise fun earlier later => ¬earlier.Forbids later := by
  have ordered : ((system K).logged events).Invariant fun logged =>
      logged.2.Pairwise fun earlier later => ¬earlier.Forbids later :=
    { start := List.Pairwise.nil
      step := by
        rintro ⟨state, log⟩ action reached ordered _
        exact List.pairwise_append.mpr ⟨ordered, events_pairwise .., unforbidden reached⟩ }
  exact ordered.reachable (reachable_log runs)

end Runs

/-- Answers that refuse nothing. -/
def willing : Input ℚ where
  handle := none
  reading := ⟨1 / 5, 1 / 5, fun _ => 0⟩
  stats := some fun _ => 0
  started := true
  error := false

/-- Workers with one controller, for their workflow slots. -/
def tuned : Suppliers ℚ := fun kind =>
  if kind = .workflow then some Resource.JvmResourceController.ramped else none

/-- A worker is created and observed, and the first callback closes it, and then the runtime. -/
def closingCallback : List (Action ℚ) :=
  .create (.outside 0) tuned :: .step (.outside 0) willing ::
    .step (.outside 0) { willing with handle := some 7 } ::
    List.replicate 3 (.step (.outside 0) willing) ++
    [.observe (.outside 0) 7 (some 1), .step (.outside 0) willing, .sample] ++
    List.replicate 5 (.advance willing) ++
    .close .hook 7 :: List.replicate 4 (.step .hook willing) ++
    .closeRuntime .hook :: List.replicate 6 (.step .hook willing) ++
    List.replicate 2 (.advance willing)

theorem calls_are_in_order_callback :
    ((system ℚ).log events start closingCallback).length = 8 ∧
      ((system ℚ).log events start closingCallback).Pairwise fun earlier later =>
        ¬earlier.Forbids later :=
  ⟨by decide +kernel, calls_are_in_order (by decide +kernel)⟩

end KtBridge.Sampler
