import KtBridge.Sampler.Order
import Mathlib.Algebra.BigOperators.Group.Finset.Basic

/-! # Whatever has begun ends

`sampleLock` is entered before a worker's monitor, and that before the runtime's own, also from
callbacks. So whatever waits, somebody can go on; and each step is one of a bounded number. -/

namespace KtBridge.Sampler

open Foundation GuardedSystem

variable {K : Type}

/-- The order in which the monitors are entered. -/
def Lock.rank : Lock → Nat
  | sample => 0
  | worker _ => 1
  | runtime => 2

/-- A call enters monitors in the order of the ranks. -/
theorem Phase.rank_lt {phase : Phase K} {wanted held : Lock} (wants : phase.wants = some wanted)
    (holds : phase.holds held) : held.rank < wanted.rank := by
  cases phase with
  | removing worker failed =>
      cases wants
      simp only [Phase.holds, Bool.and_eq_true, decide_eq_true_eq] at holds
      rw [holds.2]
      exact Nat.one_lt_two
  | shutting =>
      cases wants
      rw [of_decide_eq_true holds]
      exact Nat.two_pos
  | registering | observing | entering | halting => cases holds
  | _ => cases wants

/-- The sampler enters monitors in the order of the ranks. -/
theorem Sampling.rank_lt {sampling : Sampling K} {wanted held : Lock}
    (wants : sampling.wants = some wanted) (holds : sampling.holds held) :
    held.rank < wanted.rank := by
  cases sampling with
  | locking =>
      cases wants
      rw [of_decide_eq_true holds]
      exact Nat.two_pos
  | entering => cases holds
  | _ => cases wants

/-- A callback runs inside `sampleLock`, and nothing else. -/
theorem holds_of_inCallback {sampling : Sampling K} (inside : sampling.inCallback) (lock : Lock) :
    sampling.holds lock = (lock = .sample : Bool) := by
  cases sampling <;> first | rfl | cases inside

namespace State

/-- Whether something has begun on a thread, and not ended. -/
def Pending (state : State K) : Thread → Prop
  | .sampler => state.sampling.busy
  | .caller place => (state.phase (.outside place)).busy

/-- The monitor that a thread enters next. A callback's call comes before the rest of the pass. -/
def waits (state : State K) : Thread → Option Lock
  | .sampler =>
      if (state.phase .hook).busy then (state.phase .hook).wants else state.sampling.wants
  | .caller place => (state.phase (.outside place)).wants

/-- The next step of a thread. -/
def next (state : State K) (input : Input K) : Thread → Action K
  | .sampler => if (state.phase .hook).busy then .step .hook input else .advance input
  | .caller place => .step (.outside place) input

variable {state : State K}

/-- The sampler's thread is inside what the pass or a callback has entered. -/
theorem holds_of_entries {lock : Lock} (inside : 0 < state.entries .sampler lock) :
    state.sampling.holds lock ∨ (state.phase .hook).holds lock := by
  cases pass : state.sampling.holds lock with
  | true => exact .inl rfl
  | false =>
      cases calls : (state.phase .hook).holds lock with
      | true => exact .inr rfl
      | false =>
          rw [entries, pass, calls] at inside
          cases inside

/-- What a thread is inside of, it has entered in the order of the ranks. -/
theorem ranked (accounted : state.Accounted) (hooked : state.Hooked) {thread other : Thread}
    {wanted held : Lock} (waits : state.waits thread = some wanted)
    (taken : (state.lock wanted).owner = some other) (different : other ≠ thread)
    (holds : (state.lock held).owner = some thread) : held.rank < wanted.rank := by
  have inside : 0 < state.entries thread held := by
    rw [← accounted]
    exact Monitor.entries_of_owner holds
  have outside : state.entries thread wanted = 0 := by
    rw [← accounted]
    by_contra entered
    have owner := Monitor.owner_of_entries (Nat.pos_of_ne_zero entered)
    exact different (Option.some.inj (taken.symm.trans owner))
  cases thread with
  | caller place =>
      cases calls : (state.phase (.outside place)).holds held with
      | true => exact Phase.rank_lt waits calls
      | false =>
          rw [entries, calls] at inside
          cases inside
  | sampler =>
      rw [State.waits] at waits
      rw [entries, Nat.add_eq_zero_iff] at outside
      split at waits
      · next calls =>
          have runs := holds_of_inCallback (hooked calls)
          by_cases own : (state.phase .hook).holds held
          · exact Phase.rank_lt waits own
          · -- The callback is inside `sampleLock`, and its call wants another monitor.
            have passing := (holds_of_entries inside).resolve_right own
            rw [runs] at passing outside
            have sample := of_decide_eq_true passing
            have other : wanted ≠ .sample := by simpa using outside.1
            rw [sample]
            cases wanted with
            | sample => exact absurd rfl other
            | worker => exact Nat.one_pos
            | runtime => exact Nat.two_pos
      · next rests =>
          refine Sampling.rank_lt waits ((holds_of_entries inside).resolve_right ?_)
          rw [idle_of_busy ((Bool.not_eq_true _).mp rests)]
          exact Bool.false_ne_true

/-- A thread that is inside a monitor has not ended. -/
theorem pending_of_owner (accounted : state.Accounted) (hooked : state.Hooked) {thread : Thread}
    {lock : Lock} (owns : (state.lock lock).owner = some thread) : state.Pending thread := by
  have inside := Monitor.entries_of_owner owns
  rw [accounted] at inside
  cases thread with
  | caller place =>
      rw [Pending]
      cases here : state.phase (.outside place) with
      | idle =>
          rw [entries, here] at inside
          cases inside
      | _ => rfl
  | sampler =>
      rw [Pending]
      cases here : state.sampling with
      | idle | stopped =>
          rw [entries, here] at inside
          cases calls : (state.phase .hook).busy with
          | true =>
              have runs := hooked calls
              rw [here] at runs
              cases runs
          | false =>
              rw [idle_of_busy calls] at inside
              exact absurd inside (lt_irrefl 0)
      | _ => rfl

/-- A thread that is not blocked can go on. -/
theorem guard_next {thread : Thread} {input : Input K}
    (pending : state.Pending thread)
    (free : ¬Blocked (fun lock => (state.lock lock).owner) state.waits thread)
    (unused : input.handle = none) : guard state (state.next input thread) := by
  have passes : ∀ wants, state.waits thread = wants → state.Passes thread wants := by
    intro wants waits lock wanted other owns
    by_contra different
    exact free ⟨lock, other, waits.trans wanted, owns, different⟩
  have fresh : ∀ worker ∈ input.handle, worker ∉ state.workers := by
    intro worker given
    cases unused.symm.trans given
  cases thread with
  | caller place => exact ⟨pending, passes _ rfl, fresh⟩
  | sampler =>
      rw [next]
      split
      · next calls =>
          exact ⟨calls, passes _ (if_pos calls), fresh⟩
      · next rests =>
          exact ⟨pending, Bool.not_eq_true _ ▸ rests, passes _ (if_neg rests)⟩

end State

/-- How many steps are left of a call. A worker that it obtains may have to be sampled. -/
def Phase.distance : Phase K → Nat
  | idle => 0
  | opening _ => 16
  | creating _ => 15
  | registering .. => 5
  | updating .. => 4
  | starting _ => 3
  | removing .. => 2
  | freeing .. => 1
  | observing .. => 1
  | closing _ => 4
  | entering _ => 3
  | ending => 6
  | halting => 5
  | shutting => 4
  | draining => 3
  | stopping => 2
  | unregistering => 1

/-- How many steps are left of a pass, with so many workers: each has an update, and for each of its
kinds a callback that begins and ends. -/
def Sampling.distance (workers : Nat) : Sampling K → Nat
  | idle | stopped => 0
  | entering => 9 * workers + 5
  | locking => 9 * workers + 4
  | updating left deliveries => 9 * left.length + 2 * deliveries.length + 3
  | delivering deliveries => 2 * deliveries.length + 2
  | calling _ deliveries => 2 * deliveries.length + 3
  | retrieving => 1

/-- How many steps are left of what these parties and the sampler have begun. -/
def State.distance (parties : Finset Party) (state : State K) : Nat :=
  ∑ party ∈ parties, (state.phase party).distance + state.sampling.distance state.workers.card

/-- Nobody else calls. -/
def State.Calls (state : State K) (parties : Finset Party) : Prop :=
  ∀ party, (state.phase party).busy → party ∈ parties

/-- Whether an action begins something. -/
def Action.begins : Action K → Bool
  | create .. | observe .. | close .. | closeRuntime _ | sample => true
  | step .. | advance _ => false

theorem Sampling.distance_mono {sampling : Sampling K} {workers more : Nat}
    (fewer : workers ≤ more) (few : more ≤ workers + 1) :
    sampling.distance more ≤ sampling.distance workers + 9 := by
  cases sampling <;> simp only [distance] <;> omega

/-- A worker has one record for each kind at most. -/
theorem ResourceWorker.deliveries_length (worker : ResourceWorker K) (reading : Reading K)
    (stats : Stats) : (worker.deliveries reading stats).length ≤ 4 := by
  unfold deliveries
  split
  · exact Nat.zero_le _
  · rw [List.length_map]
    exact List.length_filterMap_le ..

/-- A call gets nearer to its end. -/
theorem Flow.distance_lt [Field K] {state : State K} {input : Input K} {old new : Phase K}
    (flow : Flow state input old new) :
    new.distance < old.distance := by
  cases flow <;> simp only [Phase.distance] <;> omega

/-- There are no more workers listed than handles given out. -/
theorem listed_le {logged : State K × List (Event K)} (listing : Listing logged) :
    logged.1.listed.length ≤ logged.1.workers.card := by
  rw [← List.toFinset_card_of_nodup listing.distinct]
  exact Finset.card_le_card fun worker member => listing.given worker (List.mem_toFinset.mp member)

/-- Whoever begins a call is one party more. -/
theorem State.Calls.begin {state : State K} {parties : Finset Party} (calls : state.Calls parties)
    (party : Party) (phase : Phase K) :
    (state.setPhase party phase).Calls (insert party parties) := by
  intro other busy
  by_cases own : other = party
  · rw [own]
    exact Finset.mem_insert_self ..
  · rw [State.setPhase_of_ne _ _ own] at busy
    exact Finset.mem_insert_of_mem (calls other busy)

section Runs

variable [Field K] [LinearOrder K] [IsStrictOrderedRing K] {state : State K} {party : Party}
  {input : Input K} {parties : Finset Party}

/-- Only `KtWorker.create` gives out a handle. -/
theorem step_workers_eq (state : State K) (party : Party) (input : Input K) :
    (step state party input).workers = state.workers ∨
      ∃ suppliers worker, state.phase party = .creating suppliers ∧
        (step state party input).phase party = .registering worker suppliers ∧
        (step state party input).workers = insert worker state.workers := by
  cases here : state.phase party with
  | creating suppliers =>
      cases handle : input.handle with
      | none =>
          refine .inl ?_
          simp only [step, here, handle]
          rfl
      | some worker =>
          refine .inr ⟨suppliers, worker, rfl, ?_⟩
          simp only [step, here, handle, State.setPhase_self]
          exact ⟨trivial, trivial⟩
  | _ =>
      refine .inl ?_
      simp only [step, here] <;> (try split) <;> (try split) <;> rfl

/-- A step of a call brings everything nearer to its end. -/
theorem step_distance (busy : (state.phase party).busy) (calls : party ∈ parties) :
    (step state party input).distance parties < state.distance parties := by
  have own := Finset.add_sum_erase parties (fun party => (state.phase party).distance) calls
  have new := Finset.add_sum_erase parties
    (fun other => ((step state party input).phase other).distance) calls
  have others : ∑ other ∈ parties.erase party, ((step state party input).phase other).distance =
      ∑ other ∈ parties.erase party, (state.phase other).distance :=
    Finset.sum_congr rfl fun other member => by
      rw [step_phase_of_ne (Finset.ne_of_mem_erase member)]
  simp only [State.distance, step_sampling]
  rcases step_workers_eq state party input with
      same | ⟨suppliers, worker, creates, registers, workers⟩
  · have nearer := (step_flow input busy).distance_lt
    rw [same]
    omega
  · have more := Finset.card_insert_le worker state.workers
    have fewer := Finset.card_le_card (Finset.subset_insert worker state.workers)
    have longer := state.sampling.distance_mono fewer more
    have before : (state.phase party).distance = 15 := by
      rw [creates]
      rfl
    have after : ((step state party input).phase party).distance = 5 := by
      rw [registers]
      rfl
    rw [workers]
    omega

theorem advance_distance (input : Input K) (busy : state.sampling.busy)
    (listed : state.listed.length ≤ state.workers.card) :
    (advance state input).sampling.distance state.workers.card + 1 ≤
      state.sampling.distance state.workers.card := by
  cases here : state.sampling with
  | idle | stopped =>
      rw [here] at busy
      cases busy
  | entering =>
      simp only [advance, here]
      split <;> simp only [State.setSampling, Sampling.distance] <;> omega
  | locking =>
      simp only [advance, here, State.setSampling, Sampling.distance, List.length_nil]
      omega
  | updating left deliveries =>
      cases left with
      | nil =>
          simp only [advance, here, State.setSampling, Sampling.distance, List.length_nil]
          omega
      | cons worker left =>
          simp only [advance, here]
          split
          · simp only [State.setSampling, Sampling.distance, List.length_cons]
            omega
          · next stats _ =>
              have few := ((state.resource worker).update input.reading).deliveries_length
                input.reading stats
              simp only [State.setSampling, Sampling.distance, List.length_cons, List.length_append]
              omega
  | delivering deliveries =>
      cases deliveries <;> simp only [advance, here] <;> split <;>
        simp only [State.setSampling, Sampling.distance, List.length_cons, List.length_nil] <;>
          omega
  | calling delivery deliveries =>
      simp only [advance, here]
      split <;> simp only [State.setSampling, Sampling.distance] <;> omega
  | retrieving =>
      simp only [advance, here, State.setSampling, Sampling.distance]
      omega

/-- A step of the sampler brings everything nearer to its end. -/
theorem advance_nearer (busy : state.sampling.busy)
    (listed : state.listed.length ≤ state.workers.card) :
    (advance state input).distance parties < state.distance parties := by
  have nearer := advance_distance input busy listed
  simp only [State.distance, advance_phase, advance_workers]
  omega

/-- What goes on begins no other call. -/
theorem State.Calls.step (calls : state.Calls parties) (busy : (state.phase party).busy) :
    (Sampler.step state party input).Calls parties := by
  intro other busyThen
  by_cases own : other = party
  · exact own ▸ calls party busy
  · rw [step_phase_of_ne own] at busyThen
    exact calls other busyThen

theorem State.Calls.advance (calls : state.Calls parties) :
    (Sampler.advance state input).Calls parties := by
  intro other busy
  rw [advance_phase] at busy
  exact calls other busy

/-- Only finitely many parties have begun something. -/
theorem exists_calls (reached : (system K).Reachable state) : ∃ parties, state.Calls parties := by
  induction reached with
  | start => exact ⟨∅, fun _ busy => by cases busy⟩
  | step _ action ready ih =>
      obtain ⟨parties, calls⟩ := ih
      cases action with
      | create party | observe party | close party | closeRuntime party =>
          exact ⟨_, calls.begin party _⟩
      | step party input => exact ⟨parties, calls.step ready.1⟩
      | sample => exact ⟨parties, calls⟩
      | advance input => exact ⟨parties, calls.advance⟩

/-- A step that begins nothing is one of the steps that are left. -/
theorem nearer (reached : (system K).Reachable state) (calls : state.Calls parties)
    {action : Action K} (ready : (system K).guard state action) (goes : action.begins = false) :
    ((system K).effect state action).distance parties < state.distance parties ∧
      ((system K).effect state action).Calls parties := by
  obtain ⟨log, known⟩ := reached.exists_log events
  cases action with
  | create | observe | close | closeRuntime | sample => cases goes
  | step party input => exact ⟨step_distance ready.1 (calls party ready.1), calls.step ready.1⟩
  | advance input =>
      exact ⟨advance_nearer ready.1 (listed_le (listing_invariant.reachable known)), calls.advance⟩

/-- A run in which nothing begins is no longer than what is left. -/
theorem length_le_distance {trace : List (Action K)} :
    ∀ {state : State K}, (system K).Reachable state → state.Calls parties →
      (system K).Runs state trace → (∀ action ∈ trace, action.begins = false) →
        trace.length ≤ state.distance parties := by
  induction trace with
  | nil => exact fun _ _ _ _ => Nat.zero_le _
  | cons action rest ih =>
      intro state reached calls runs goes
      obtain ⟨ready, later⟩ := runs
      obtain ⟨now, others⟩ := List.forall_mem_cons.mp goes
      obtain ⟨less, still⟩ := nearer reached calls ready now
      have left := ih (reached.step action ready) still later others
      rw [List.length_cons]
      omega

/-- Behind a thread that has not ended there is one that can go on. -/
theorem exists_goes (reached : (system K).Reachable state) {thread : Thread}
    (pending : state.Pending thread) :
    ∃ goes, (goes = thread ∨ ∃ lock, (state.lock lock).owner = some goes) ∧
      ∀ input : Input K, input.handle = none → guard state (state.next input goes) := by
  have accounted := accounted_invariant.reachable reached
  have hooked := hooked_invariant.reachable reached
  have bounded : ∀ lock : Lock, lock.rank ≤ 2 := by
    intro lock
    cases lock <;> simp [Lock.rank]
  obtain ⟨goes, found, free⟩ := exists_unblocked bounded
    (fun _ _ _ _ waits taken different holds =>
      State.ranked accounted hooked waits taken different holds) thread
  refine ⟨goes, found, fun input unused => State.guard_next ?_ free unused⟩
  rcases found with rfl | ⟨lock, owns⟩
  · exact pending
  · exact State.pending_of_owner accounted hooked owns

/-- In every reachable state there is a bound on the steps that what has begun still takes, whatever
the schedule and the answers; and as long as a call or a pass of the sampler has not ended, one of
them can go on: the thread itself, or one that is inside a monitor. -/
theorem whatever_has_begun_ends (reached : (system K).Reachable state) :
    ∃ most, ∀ trace, (system K).Runs state trace → (∀ action ∈ trace, action.begins = false) →
      trace.length ≤ most ∧ ∀ thread, ((system K).after state trace).Pending thread →
        ∃ goes, (goes = thread ∨
            ∃ lock, (((system K).after state trace).lock lock).owner = some goes) ∧
          ∀ input : Input K, input.handle = none →
            guard ((system K).after state trace)
              (((system K).after state trace).next input goes) := by
  obtain ⟨parties, calls⟩ := exists_calls reached
  refine ⟨state.distance parties, fun trace runs goes => ?_⟩
  exact ⟨length_le_distance reached calls runs goes, fun _ => exists_goes (reached.run runs)⟩

end Runs

/-- A callback of a worker runs, and closes the worker, while another thread closes the runtime. -/
def closingBoth : List (Action ℚ) :=
  closingCallback.take 17 ++ .closeRuntime (.outside 1) :: [.step (.outside 1) willing]

/-- Steps are bounded from there, and behind the waiting caller a thread can go on. -/
theorem whatever_has_begun_ends_both :
    ((system ℚ).after start closingBoth).waits (.caller 1) = some .sample ∧
      ∃ most, (∀ trace, (system ℚ).Runs ((system ℚ).after start closingBoth) trace →
        (∀ action ∈ trace, action.begins = false) → trace.length ≤ most) ∧
      ∃ goes, (goes = .caller 1 ∨
          ∃ lock, (((system ℚ).after start closingBoth).lock lock).owner = some goes) ∧
        ∀ input : Input ℚ, input.handle = none →
          guard ((system ℚ).after start closingBoth)
            (((system ℚ).after start closingBoth).next input goes) := by
  have runs : (system ℚ).Runs start closingBoth := by decide +kernel
  have waits : ((system ℚ).after start closingBoth).waits (.caller 1) = some .sample := by
    decide +kernel
  have pending : ((system ℚ).after start closingBoth).Pending (.caller 1) :=
    show (((system ℚ).after start closingBoth).phase (.outside 1)).busy = true by decide +kernel
  have reached : (system ℚ).Reachable ((system ℚ).after start closingBoth) :=
    GuardedSystem.Reachable.start.run runs
  generalize (system ℚ).after start closingBoth = state at waits pending reached ⊢
  obtain ⟨most, ends⟩ := whatever_has_begun_ends reached
  refine ⟨waits, most, fun trace runs goes => (ends trace runs goes).1, ?_⟩
  exact (ends [] trivial (by simp)).2 (.caller 1) pending

end KtBridge.Sampler
