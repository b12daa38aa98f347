import KtBridge.Config.Bridge
import KtBridge.Slots.Ramp

/-! # No queue is starved

A sticky supplier keeps its last slot for the queue that holds none, so neither queue
ever takes every slot (`State.Shared`). With room for both, which `tuner` checks when it
makes a supplier sticky, a queue without a permit gets one whatever the pressure and the
ramp, and so does every reservation below the minimum that is not about to take that
last slot (`queues_are_not_starved`).
-/

namespace KtBridge.Slots

open Foundation

variable (slots : SlotKind → JvmSlots)

/-- Neither queue of a sticky supplier with room for both takes every slot. -/
def State.Shared (state : State) : Prop :=
  ∀ kind, (slots kind).sticky → 2 ≤ (slots kind).maximum → ∀ queue,
    (state.supplier kind).issued queue < (slots kind).maximum

theorem shared_start : start.Shared slots := by
  intro kind _ enough queue
  exact Nat.lt_of_lt_of_le Nat.zero_lt_two enough

variable {slots} {state : State} {place : Nat} {call : Reservation}

namespace JvmSlots

variable {slots : JvmSlots} {supplier : Supplier} {queue : Bool}

/-- A permit that has room leaves a slot to the other queue. -/
theorem issued_lt_of_room (room : slots.noRoom supplier queue = none) (sticky : slots.sticky) :
    supplier.issued queue + 1 < slots.maximum := by
  have total := supplier.total_eq queue
  have below := total_lt_of_room room
  by_cases alone : supplier.issued (!queue) = 0
  · unfold noRoom at room
    rw [if_neg (Nat.not_le_of_lt below)] at room
    split at room
    · cases room
    · next last =>
        have more : supplier.total + 1 ≠ slots.maximum := fun same => last ⟨sticky, alone, same⟩
        omega
  · omega

end JvmSlots

namespace State.Shared

/-- The counts of one supplier change. -/
theorem setSupplier (shared : state.Shared slots) (next : State) (kind : SlotKind)
    (supplier : Supplier) (changed : next.supplier = Function.update state.supplier kind supplier)
    (below : (slots kind).sticky → ∀ queue, (state.supplier kind).issued queue < (slots kind).maximum →
      supplier.issued queue < (slots kind).maximum) : next.Shared slots := by
  intro other sticky enough queue
  rw [changed, Function.update_apply]
  split
  · next same =>
      subst same
      exact below sticky queue (shared other sticky enough queue)
  · exact shared other sticky enough queue

theorem step (shared : state.Shared slots) (decided : state.Decided slots) (action : Action)
    (ready : (machine slots).guard state action) :
    ((machine slots).effect state action).Shared slots := by
  cases action with
  | test place call =>
      simp only [machine, effect]
      split
      · exact shared
      · split <;> exact shared
  | readGate place call =>
      simp only [machine, effect]
      split <;> exact shared
  | readClock place call allowed =>
      simp only [machine, effect]
      split <;> exact shared
  | issue place call decision =>
      obtain ⟨room, -⟩ := decided.at_ ready
      apply shared.setSupplier _ call.kind _ rfl
      intro sticky queue below
      simp only [Supplier.issue, Function.update_apply]
      split
      · exact JvmSlots.issued_lt_of_room room sticky
      · exact below
  | stamp place call decision =>
      exact shared.setSupplier _ call.kind _ rfl fun _ _ below => below
  | drop place call =>
      apply shared.setSupplier _ call.kind _ rfl
      intro _ queue below
      simp only [Supplier.release, Function.update_apply]
      split
      · next same =>
          rw [same] at below
          omega
      · exact below
  | _ => exact shared

end State.Shared

theorem shared_invariant : (machine slots).Invariant (State.Shared slots) where
  start := shared_start slots
  step := fun _ action reached shared ready =>
    shared.step (decided_invariant.reachable reached) action ready

/-! ## A grant without a look at the gate or the clock -/

/-- The steps of a reservation that has the mutex and is granted its slot at once. -/
def ownSteps (place : Nat) (call : Reservation) (decision : Decision) : List Action :=
  [.test place call,
    .issue place { call with phase := .issuing decision } decision,
    .reserve place { call with phase := .counting decision } decision,
    .stamp place { call with phase := .stamping decision } decision]

/-- By its own steps, and without a look at the gate or the clock, the reservation gets its
permit. -/
def State.Grants (slots : SlotKind → JvmSlots) (state : State) (place : Nat) (call : Reservation) :
    Prop :=
  ∃ decision : Decision, decision.reading = none ∧
    (machine slots).Runs state (ownSteps place call decision) ∧
    let granted : Phase := if call.blocking then .returning else .live
    ((machine slots).after state (ownSteps place call decision)).At place
      { call with phase := granted } granted

theorem State.At.move {old : Phase} (here : state.At place call old) (new : Phase) :
    (state.move place call new).At place { call with phase := new } new :=
  ⟨List.getElem?_set_self (place_lt here.1), rfl⟩

/-- A required slot is granted at once. -/
theorem grants_of_required (here : state.At place call .testing)
    (room : (slots call.kind).noRoom (state.supplier call.kind) (queueOf slots call) = none)
    (required : (slots call.kind).required (state.supplier call.kind) (queueOf slots call)) :
    state.Grants slots place call := by
  let decision : Decision :=
    { total := (state.supplier call.kind).total
      held := (state.supplier call.kind).issued (queueOf slots call)
      reading := none }
  have tested : (machine slots).effect state (.test place call) =
      state.move place call (.issuing decision) := by
    simp only [machine, effect, room, required, if_true]
    rfl
  have issuing := here.move (.issuing decision)
  have counting := issuing.move (.counting decision)
  have stamping := counting.move (.stamping decision)
  refine ⟨decision, rfl, ⟨here, ?_⟩, ?_⟩
  · rw [tested]
    exact ⟨issuing, counting, stamping, trivial⟩
  · rw [ownSteps, GuardedSystem.after_cons, tested]
    exact stamping.move _

/-- A reservation that no pressure and no ramp can refuse is required. -/
theorem required_of_granted {slots : JvmSlots} {kind : SlotKind} {supplier : Supplier}
    {queue : Bool} (granted : ∀ allowed now, slots.refusal kind supplier queue allowed now = none) :
    slots.noRoom supplier queue = none ∧ slots.required supplier queue := by
  have pressed := granted 0 0
  have closed : allows 0 kind = false := by
    rw [allows_eq_testBit]
    exact Nat.zero_testBit _
  unfold JvmSlots.refusal at pressed
  split at pressed
  · cases pressed
  · next room =>
      refine ⟨room, ?_⟩
      by_contra optional
      rw [if_neg optional, closed] at pressed
      cases pressed

/-- Which reservations of a kind are granted whatever the pressure and the ramp. -/
structure Unstarved (slots : SlotKind → JvmSlots) (state : State) (kind : SlotKind) : Prop where
  /-- Those for a queue of a sticky supplier that holds no permit. -/
  empty : (slots kind).sticky → ∀ queue, (state.supplier kind).issued queue = 0 →
    ∀ allowed now, (slots kind).refusal kind (state.supplier kind) queue allowed now = none
  /-- Those below the minimum, unless it is the last slot and the other queue holds none. -/
  minimum : ∀ queue, (state.supplier kind).total < (slots kind).minimum →
    ¬ ((slots kind).sticky ∧ (state.supplier kind).issued (!queue) = 0 ∧
      (state.supplier kind).total + 1 = (slots kind).maximum) →
    ∀ allowed now, (slots kind).refusal kind (state.supplier kind) queue allowed now = none
  /-- Such a reservation gets its permit by its own steps. -/
  taken : ∀ place call, state.At place call .testing → call.kind = kind →
    (∀ allowed now, (slots kind).refusal kind (state.supplier kind) (queueOf slots call)
      allowed now = none) → state.Grants slots place call

namespace JvmSlots

variable {slots : JvmSlots} {kind : SlotKind} {supplier : Supplier} {queue : Bool}

/-- What is required and has room is not refused. -/
theorem refusal_of_required (room : slots.noRoom supplier queue = none)
    (required : slots.required supplier queue) (allowed : UInt32) (now : Nat) :
    slots.refusal kind supplier queue allowed now = none := by
  simp only [refusal, room, required, if_true]

end JvmSlots

/-- With bounds in order, and room for both queues of a sticky supplier, no queue is
starved. -/
theorem unstarved_of_shared {kind : SlotKind}
    (shared : state.Shared slots) (bounds : (slots kind).minimum ≤ (slots kind).maximum)
    (both : (slots kind).sticky → 2 ≤ (slots kind).maximum) : Unstarved slots state kind where
  empty := by
    intro sticky queue none_ allowed now
    have total := (state.supplier kind).total_eq queue
    have other := shared kind sticky (both sticky) (!queue)
    have enough := both sticky
    apply JvmSlots.refusal_of_required
    · rw [JvmSlots.noRoom, if_neg (by omega), if_neg]
      rintro ⟨-, alone, last⟩
      omega
    · simp [JvmSlots.required, sticky, none_]
  minimum := by
    intro queue less free allowed now
    apply JvmSlots.refusal_of_required
    · rw [JvmSlots.noRoom, if_neg (by omega), if_neg free]
    · simp [JvmSlots.required, less]
  taken := by
    rintro place call here rfl granted
    obtain ⟨room, required⟩ := required_of_granted granted
    exact grants_of_required here room required

open Config

variable {Gate : Type}

/-- For all options that `tuner` accepts with a JVM tuner, every resource-based kind gets a
supplier that starves no queue, in every state of every run. -/
theorem queues_are_not_starved (core : Core Gate) (options : WorkerOptions)
    (resourceGate : Option Gate) (fresh : Gate) (result : core.Tuner)
    (jvm : options.jvmResourceBased)
    (accepted : tuner core options resourceGate fresh = .ok result) (kind : SlotKind)
    (limits : ResourceSlotLimits) (limited : options.resourceLimits kind = some limits) :
    ∃ (holder : TunerHolderOptions Gate) (supplier : JvmSlots),
      tunerHolderOptions options resourceGate fresh = .ok holder ∧
      holder.supplier kind = .custom (resourceGate.getD fresh) kind supplier ∧
      ∀ slots : SlotKind → JvmSlots, slots kind = supplier → ∀ trace,
        (machine slots).Runs start trace → Unstarved slots ((machine slots).after start trace) kind := by
  obtain ⟨holder, held, -⟩ := (Checks.bind_eq_ok ..).mp accepted
  obtain ⟨custom, bounds, both⟩ := supplier_of_limits jvm held limited
  refine ⟨holder, jvmSupplier limits (options.sticky kind), held, custom, ?_⟩
  intro slots own trace runs
  have reached : (machine slots).Reachable ((machine slots).after start trace) :=
    GuardedSystem.Reachable.start.run runs
  apply unstarved_of_shared (shared_invariant.reachable reached)
  · rw [own]
    exact UInt32.le_iff_toNat_le.mp bounds
  · rw [own]
    intro sticky
    exact UInt32.le_iff_toNat_le.mp (both sticky)

/-- Workflow slots from the JVM, two at most. -/
def twoWorkflowSlots : WorkerOptions where
  nameSpace := "default"
  taskQueue := "queue"
  identity := ""
  maxCachedWorkflows := 10
  maxConcurrentWorkflowTasks := none
  maxConcurrentActivities := some 4
  maxConcurrentLocalActivities := some 4
  noRemoteActivities := false
  buildId := ""
  resourceTuner := some
    { jvmResourceBased := true, targetMemoryUsage := 0.8, targetCpuUsage := 0.8
      memoryPGain := 5.0, memoryIGain := 0.0, memoryDGain := 1.0, memoryOutputThreshold := 0.25
      cpuPGain := 5.0, cpuIGain := 0.0, cpuDGain := 1.0, cpuOutputThreshold := 0.05 }
  workflowResourceLimits := some { minimumSlots := 1, maximumSlots := 2, rampThrottleMillis := 50 }
  activityResourceLimits := none
  localActivityResourceLimits := none
  noWorkflows := false
  noLocalActivities := false
  deploymentOptions := none
  workflowPollerBehavior := none
  activityPollerBehavior := none
  nexusPollerBehavior := none
  maxHeartbeatThrottleIntervalMillis := none
  defaultHeartbeatThrottleIntervalMillis := none
  maxActivitiesPerSecond := none
  maxTaskQueueActivitiesPerSecond := none
  nonstickyToStickyPollRatio := none
  stickyQueueScheduleToStartTimeoutMillis := none
  gracefulShutdownPeriodMillis := none
  nondeterminismAsWorkflowFail := false
  nondeterminismAsWorkflowFailForTypes := []
  maxEagerActivityReservationsPerWorkflowTask := none
  disablePayloadErrorLimit := false
  enableNexus := false
  maxConcurrentNexusTasks := some 4
  nexusResourceLimits := none

theorem queues_are_not_starved_cached :
    ∃ (holder : TunerHolderOptions Unit) (supplier : JvmSlots),
      tunerHolderOptions twoWorkflowSlots none () = .ok holder ∧
      holder.supplier .workflow = .custom () .workflow supplier ∧
      ∀ slots : SlotKind → JvmSlots, slots .workflow = supplier → ∀ trace,
        (machine slots).Runs start trace →
          Unstarved slots ((machine slots).after start trace) .workflow :=
  queues_are_not_starved Core.lenient twoWorkflowSlots none () () rfl rfl .workflow
    { minimumSlots := 1, maximumSlots := 2, rampThrottleMillis := 50 } rfl

/-- With one slot for both queues, each would be kept out for the other. -/
example (queue : Bool) :
    JvmSlots.noRoom { minimum := 1, maximum := 1, ramp := 0, sticky := true } ⟨fun _ => 0, 0⟩ queue =
      some .lastSlot := by
  cases queue <;> decide

end KtBridge.Slots
