import KtBridge.Config.Bridge
import KtBridge.Config.Encode

/-! # Both sides of the encoding agree

What Core is to be given for a configuration is said by `WorkerConfig.holder` and
`WorkerConfig.values`. Whatever the JVM encodes, the bridge hands exactly this to Core's
builders, if it can read the names: to the JVM the control character U+0085 is no white
space, to the bridge it is, and a name that only this character keeps from being blank
is accepted by the one and refused by the other.
-/

namespace KtBridge.Config

open Foundation Slots

variable {Gate : Type}

namespace Kotlin

/-! ## What the configuration means to Core -/

/-- A signed number that is not negative, as a natural one. -/
abbrev nat32 (value : Int32) : Nat := value.toNatClampNeg

abbrev nat64 (value : Int64) : Nat := value.toNatClampNeg

def CorePollerBehavior.core : CorePollerBehavior → CorePoller
  | simpleMaximum maximum => .simpleMaximum (nat32 maximum)
  | autoscaling minimum maximum initial =>
      .autoscaling (nat32 minimum) (nat32 maximum) (nat32 initial)

def VersioningBehavior.core : VersioningBehavior → Option CoreVersioningBehavior
  | unspecified => none
  | pinned => some .pinned
  | autoUpgrade => some .autoUpgrade

namespace SlotSupplier

/-- One supplier for a kind, with its own bounds and ramp. -/
def core (supplier : SlotSupplier) (gate : Gate) (kind : SlotKind) (sticky : Bool) :
    SlotSupplierOptions Gate :=
  match supplier with
  | fixedSize slots => .fixedSize (nat32 slots)
  | jvmResourceBased options => .custom gate kind
      { minimum := nat32 options.minimumSlots
        maximum := nat32 options.maximumSlots
        ramp := fromMillis (nat64 options.rampThrottleMs)
        sticky := sticky }
  | cGroupResourceBased options =>
      .resourceBased (nat32 options.minimumSlots) (nat32 options.maximumSlots)
        (fromMillis (nat64 options.rampThrottleMs))

/-- The targets of a system supplier. Its tuning is Core's own. -/
def systemTargets : SlotSupplier → Option ResourceBasedSlotsOptions
  | cGroupResourceBased options =>
      some
        { targetMemUsage := options.targetMemoryUsage, targetCpuUsage := options.targetCpuUsage
          memPGain := 5.0, memIGain := 0.0, memDGain := 1.0, memOutputThreshold := 0.25
          cpuPGain := 5.0, cpuIGain := 0.0, cpuDGain := 1.0, cpuOutputThreshold := 0.05 }
  | _ => none

end SlotSupplier

namespace WorkerConfig

variable (config : WorkerConfig)

def suppliers : List SlotSupplier :=
  [config.workflowSlotSupplier, config.activitySlotSupplier, config.localActivitySlotSupplier,
    config.nexusSlotSupplier]

/-- Workflows are enabled and cached. -/
def caches : Bool := config.enableWorkflows && 0 < nat32 config.maxCachedWorkflows

/-- The suppliers of a worker. Only the one for cached workflows is sticky. -/
def holder (gate : Gate) : TunerHolderOptions Gate where
  resourceBasedConfig := config.suppliers.findSome? SlotSupplier.systemTargets
  workflowSlotOptions := config.workflowSlotSupplier.core gate .workflow config.caches
  activitySlotOptions := config.activitySlotSupplier.core gate .activity false
  localActivitySlotOptions := config.localActivitySlotSupplier.core gate .localActivity false
  nexusSlotOptions := config.nexusSlotSupplier.core gate .nexus false

/-- A rate of zero, of either sign, is no limit. -/
def limit (rate : Float) : Option Float := if rate == 0.0 then none else some rate

/-- Everything else a worker is given. -/
def values (taskQueue nameSpace : String) : WorkerConfigValues where
  nameSpace := nameSpace
  taskQueue := taskQueue
  maxCachedWorkflows := nat32 config.maxCachedWorkflows
  taskTypes :=
    { enableWorkflows := config.enableWorkflows
      enableLocalActivities := config.enableLocalActivities
      enableRemoteActivities := config.enableActivities
      enableNexus := config.enableNexus }
  versioningStrategy :=
    match config.deploymentOptions with
    | none => .none config.buildId
    | some deployment => .workerDeploymentBased deployment.version.deploymentName
        deployment.version.buildId deployment.useWorkerVersioning
        deployment.defaultVersioningBehavior.core
  clientIdentityOverride := config.workerIdentity.filter (!·.isEmpty)
  workflowTaskPollerBehavior := config.workflowPollerBehavior.map CorePollerBehavior.core
  activityTaskPollerBehavior := config.activityPollerBehavior.map CorePollerBehavior.core
  nexusTaskPollerBehavior := config.nexusPollerBehavior.map CorePollerBehavior.core
  maxHeartbeatThrottleInterval := fromMillis (nat64 config.maxHeartbeatThrottleIntervalMs)
  defaultHeartbeatThrottleInterval := fromMillis (nat64 config.defaultHeartbeatThrottleIntervalMs)
  maxWorkerActivitiesPerSecond := limit config.maxActivitiesPerSecond
  maxTaskQueueActivitiesPerSecond := limit config.maxTaskQueueActivitiesPerSecond
  nonstickyToStickyPollRatio := config.nonstickyToStickyPollRatio
  stickyQueueScheduleToStartTimeout :=
    fromMillis (nat64 config.stickyQueueScheduleToStartTimeoutMs)
  gracefulShutdownPeriod := config.gracefulShutdownPeriodMs.map fun period =>
    fromMillis (nat64 period)
  workflowFailureErrors := if config.nondeterminismAsWorkflowFail then {.nondeterminism} else ∅
  workflowTypesToFailureErrors := fun name =>
    if name ∈ config.nondeterminismAsWorkflowFailForTypes then some {.nondeterminism} else none
  maxEagerActivityReservationsPerWorkflowTask :=
    nat32 config.maxEagerActivityReservationsPerWorkflowTask
  disablePayloadErrorLimit := config.disablePayloadErrorLimit

end WorkerConfig

end Kotlin

/-! ## What the JVM has checked -/

namespace Kotlin

theorem nat32_of_nonneg {value : Int32} (nonneg : 0 ≤ value) :
    value.toUInt32.toNat = nat32 value :=
  Int32.toNat_toUInt32_of_le nonneg

theorem nat64_of_nonneg {value : Int64} (nonneg : 0 ≤ value) :
    value.toUInt64.toNat = nat64 value :=
  Int64.toNat_toUInt64_of_le nonneg

/-- A duration that is not negative is accepted, and is the same. -/
theorem durationMillis_of_nonneg {value : Int64} (nonneg : 0 ≤ value) :
    durationMillis value.toUInt64 = .ok (fromMillis (nat64 value)) := by
  have bounded : nat64 value < 2 ^ 63 := value.toNatClampNeg_lt
  rw [durationMillis, Checks.reject_bind, nat64_of_nonneg nonneg]
  · rfl
  · rw [decide_eq_false_iff_not, nat64_of_nonneg nonneg]
    have greatest : Int64.maxValue.toInt = 2 ^ 63 - 1 := rfl
    omega

/-- A rate that is finite and not negative is accepted, and zero is no limit. -/
theorem rate_of_nonneg {value : Float} (finite : value.isFinite) (nonneg : 0.0 ≤ value) :
    rate (some value) = .ok (WorkerConfig.limit value) := by
  rw [rate, Checks.reject_bind]
  · have strict := lt_iff_of_le nonneg
    simp only [Option.filter_some, WorkerConfig.limit, strict]
    cases value == 0.0 <;> rfl
  · simp [finite, not_lt_of_le nonneg]

/-- An encoded poller is read back. -/
theorem CorePollerBehavior.poller_of_toProto {behavior : CorePollerBehavior}
    {message : PollerBehavior} (encoded : behavior.toProto = .ok message) :
    poller (some message) = .ok (some behavior.core) := by
  cases behavior with
  | simpleMaximum maximum =>
      obtain ⟨positive, encoded⟩ := (Checks.require_bind_eq_ok ..).mp encoded
      obtain rfl := Except.ok.inj encoded
      have nonneg : 0 ≤ maximum := Int32.le_of_lt (of_decide_eq_true positive)
      simp only [poller, Strategy.behavior, CorePollerBehavior.core, nat32_of_nonneg nonneg]
      rfl
  | autoscaling minimum maximum initial =>
      obtain ⟨bounds, encoded⟩ := (Checks.require_bind_eq_ok ..).mp encoded
      obtain rfl := Except.ok.inj encoded
      simp only [Bool.and_eq_true, decide_eq_true_eq] at bounds
      have least : 0 ≤ minimum := Int32.le_of_lt bounds.1.1
      simp only [poller, Strategy.behavior, CorePollerBehavior.core, nat32_of_nonneg least,
        nat32_of_nonneg (Int32.le_trans least bounds.1.2),
        nat32_of_nonneg (Int32.le_trans least bounds.2.1)]
      rfl

/-- An encoded option is read back if its values are. -/
theorem poller_of_encodeOption {encode : CorePollerBehavior → Except String PollerBehavior}
    (read : ∀ behavior message, encode behavior = .ok message →
      poller (some message) = .ok (some behavior.core))
    {behavior : Option CorePollerBehavior} {message : Option PollerBehavior}
    (encoded : WorkerOptionsProto.encodeOption encode behavior = .ok message) :
    poller message = .ok (behavior.map CorePollerBehavior.core) := by
  cases behavior with
  | none =>
      obtain rfl := Except.ok.inj encoded
      rfl
  | some behavior =>
      obtain ⟨inner, inside, same⟩ := (Checks.bind_eq_ok ..).mp encoded
      obtain rfl := Except.ok.inj same
      exact read behavior inner inside

theorem poller_of_workflowPoller (config : WorkerConfig) (behavior : CorePollerBehavior)
    (message : PollerBehavior)
    (encoded : WorkerOptionsProto.workflowPoller config behavior = .ok message) :
    poller (some message) = .ok (some behavior.core) := by
  apply CorePollerBehavior.poller_of_toProto
  cases behavior with
  | simpleMaximum maximum => exact ((Checks.require_bind_eq_ok ..).mp encoded).2
  | autoscaling minimum maximum initial => exact encoded

/-! ## The suppliers -/

namespace SlotSupplier

/-- The count that is set for a fixed supplier. -/
def fixed : SlotSupplier → Option UInt32
  | fixedSize slots => some slots.toUInt32
  | _ => none

/-- The options of a resource supplier, as `asResource` gives them. -/
def resource : SlotSupplier → Option JvmResourceBased
  | fixedSize _ => none
  | jvmResourceBased options => some options
  | cGroupResourceBased options => some
      { targetMemoryUsage := options.targetMemoryUsage
        targetCpuUsage := options.targetCpuUsage
        minimumSlots := options.minimumSlots
        maximumSlots := options.maximumSlots
        rampThrottleMs := options.rampThrottleMs }

/-- The bounds that are set for a resource supplier. -/
def limits (supplier : SlotSupplier) : Option ResourceSlotLimits :=
  supplier.resource.map JvmResourceBased.limits

/-- The targets of a resource supplier. -/
def targets (supplier : SlotSupplier) : Option ResourceBasedTuner :=
  supplier.resource.map (·.tuner supplier.isJvm)

end SlotSupplier

/-- The bounds of a resource supplier are in order. -/
structure JvmResourceBased.Bounded (resource : JvmResourceBased) : Prop where
  minimum : 0 ≤ resource.minimumSlots
  maximum : 0 < resource.maximumSlots
  ordered : resource.minimumSlots ≤ resource.maximumSlots
  ramp : 0 ≤ resource.rampThrottleMs

/-- The JVM has accepted the counts of a supplier. -/
structure SlotSupplier.Sound (supplier : SlotSupplier) : Prop where
  fixed : ∀ slots, supplier = .fixedSize slots → 0 < slots
  bounded : ∀ resource, supplier.resource = some resource → resource.Bounded

/-- The JVM has accepted a resource tuner's numbers, and so will the bridge. -/
def Acceptable (tuner : ResourceBasedTuner) : Prop :=
  resourceBasedConfig tuner = .ok tuner.config

namespace SlotSupplier

theorem bounded_of_resourceLimits {supplier : SlotSupplier} {resource : JvmResourceBased}
    (asResource : supplier.asResource = .ok resource) {limits : ResourceSlotLimits}
    (accepted : supplier.resourceLimits = .ok limits) :
    resource.Bounded ∧ limits = resource.limits := by
  rw [resourceLimits, asResource] at accepted
  obtain ⟨bounds, accepted⟩ := (Checks.require_bind_eq_ok ..).mp accepted
  obtain ⟨ramp, accepted⟩ := (Checks.require_bind_eq_ok ..).mp accepted
  simp only [Bool.and_eq_true, decide_eq_true_eq] at bounds ramp
  exact ⟨⟨bounds.1.1, bounds.1.2, bounds.2, ramp⟩, (Except.ok.inj accepted).symm⟩

theorem acceptable_of_resourceTargets {supplier : SlotSupplier} {resource : JvmResourceBased}
    (asResource : supplier.asResource = .ok resource) {targets : ResourceBasedTuner}
    (accepted : supplier.resourceTargets = .ok targets) :
    Acceptable targets ∧ targets = resource.tuner supplier.isJvm := by
  rw [resourceTargets, asResource] at accepted
  obtain ⟨memory, accepted⟩ := (Checks.require_bind_eq_ok ..).mp accepted
  obtain ⟨cpu, accepted⟩ := (Checks.require_bind_eq_ok ..).mp accepted
  obtain ⟨gains, accepted⟩ := (Checks.require_bind_eq_ok ..).mp accepted
  obtain rfl := Except.ok.inj accepted
  refine ⟨?_, rfl⟩
  rw [Bool.and_eq_true] at memory cpu
  have finite : (resource.tuner supplier.isJvm).gains.any (fun v => !v.isFinite) = false := by
    rw [← Bool.not_eq_true, List.any_eq_true]
    rintro ⟨gain, member, infinite⟩
    rw [List.all_eq_true.mp gains gain member] at infinite
    cases infinite
  rw [Acceptable, resourceBasedConfig, Checks.reject_bind, Checks.reject_bind _ _ _ finite]
  · rfl
  · simp only [JvmResourceBased.tuner, memory.1, memory.2, cpu.1, cpu.2]
    rfl

end SlotSupplier

/-- The shared targets are those of the resource suppliers so far, the last one's, and all of
them are of one kind. -/
structure Building.Tracks (building : Building) (seen : List SlotSupplier) : Prop where
  shared : ∀ supplier ∈ seen, ∀ targets, supplier.targets = some targets →
    ∃ shared, building.sharedTargets = some shared ∧
      shared.jvmResourceBased = targets.jvmResourceBased ∧
      (targets.jvmResourceBased = false → shared = targets)
  source : ∀ shared, building.sharedTargets = some shared →
    Acceptable shared ∧ ∃ supplier ∈ seen, supplier.targets = some shared
  sound : ∀ supplier ∈ seen, supplier.Sound

namespace Building.Tracks

variable {building : Building} {seen : List SlotSupplier} {supplier : SlotSupplier}

/-- Without a supplier there are no shared targets. -/
theorem none (options : WorkerOptions) :
    Building.Tracks { options := options, sharedTargets := .none } [] where
  shared := fun _ impossible => by cases impossible
  source := fun _ impossible => by cases impossible
  sound := fun _ impossible => by cases impossible

/-- Only who has been seen matters. -/
theorem same (tracks : building.Tracks seen) {others : List SlotSupplier}
    (members : ∀ supplier, supplier ∈ others ↔ supplier ∈ seen) : building.Tracks others where
  shared := fun supplier member => tracks.shared supplier ((members supplier).mp member)
  source := by
    intro shared current
    obtain ⟨acceptable, supplier, member, own⟩ := tracks.source shared current
    exact ⟨acceptable, supplier, (members supplier).mpr member, own⟩
  sound := fun supplier member => tracks.sound supplier ((members supplier).mp member)

/-- A fixed supplier joins. -/
theorem fixed (tracks : building.Tracks seen) (options : WorkerOptions) {slots : Int32}
    (positive : 0 < slots) :
    Building.Tracks { building with options := options } (.fixedSize slots :: seen) where
  shared := by
    intro supplier member targets own
    rcases List.mem_cons.mp member with rfl | member
    · cases own
    · exact tracks.shared supplier member targets own
  source := by
    intro shared current
    obtain ⟨acceptable, supplier, member, own⟩ := tracks.source shared current
    exact ⟨acceptable, supplier, List.mem_cons_of_mem _ member, own⟩
  sound := by
    intro supplier member
    rcases List.mem_cons.mp member with rfl | member
    · refine ⟨?_, fun _ impossible => by cases impossible⟩
      rintro other same
      cases same
      exact positive
    · exact tracks.sound supplier member

/-- A resource supplier joins, and its targets become the shared ones. -/
theorem resource (tracks : building.Tracks seen) (options : WorkerOptions)
    {targets : ResourceBasedTuner} (own : supplier.targets = some targets)
    (acceptable : Acceptable targets) (sound : supplier.Sound)
    (unmixed : ∀ shared, building.sharedTargets = some shared →
      shared.jvmResourceBased = targets.jvmResourceBased)
    (agreed : targets.jvmResourceBased = false → ∀ shared, building.sharedTargets = some shared →
      shared = targets) :
    Building.Tracks { options := options, sharedTargets := some targets } (supplier :: seen) where
  shared := by
    intro other member others found
    refine ⟨targets, rfl, ?_⟩
    rcases List.mem_cons.mp member with rfl | member
    · obtain rfl := Option.some.inj (own.symm.trans found)
      exact ⟨rfl, fun _ => rfl⟩
    · obtain ⟨shared, current, kind, same⟩ := tracks.shared other member others found
      have mixed := unmixed shared current
      refine ⟨mixed.symm.trans kind, ?_⟩
      intro system
      have agreed := agreed (mixed.symm.trans (kind.trans system)) shared current
      exact agreed.symm.trans (same system)
  source := by
    intro shared current
    obtain rfl := Option.some.inj current
    exact ⟨acceptable, supplier, List.mem_cons_self, own⟩
  sound := by
    intro other member
    rcases List.mem_cons.mp member with rfl | member
    · exact sound
    · exact tracks.sound other member

end Building.Tracks

namespace WorkerOptionsProto

variable {building next : Building} {seen : List SlotSupplier} {added : SlotSupplier}
  {setResource : WorkerOptions → ResourceSlotLimits → WorkerOptions}

/-- An accepted resource supplier sets its bounds. -/
theorem resourceSupplier_accepted (tracks : building.Tracks seen) {resource : JvmResourceBased}
    (asResource : added.asResource = .ok resource) (own : added.resource = some resource)
    (accepted : resourceSupplier building added setResource = .ok next) :
    next.options = setResource building.options resource.limits ∧ next.Tracks (added :: seen) := by
  obtain ⟨targets, checked, accepted⟩ := (Checks.bind_eq_ok ..).mp accepted
  obtain ⟨unmixed, accepted⟩ := (Checks.require_bind_eq_ok ..).mp accepted
  obtain ⟨agreed, accepted⟩ := (Checks.require_bind_eq_ok ..).mp accepted
  obtain ⟨limits, bounds, accepted⟩ := (Checks.bind_eq_ok ..).mp accepted
  obtain rfl := Except.ok.inj accepted
  obtain ⟨acceptable, rfl⟩ := SlotSupplier.acceptable_of_resourceTargets asResource checked
  obtain ⟨bounded, rfl⟩ := SlotSupplier.bounded_of_resourceLimits asResource bounds
  refine ⟨rfl, tracks.resource _ ?_ acceptable ⟨?_, ?_⟩ ?_ ?_⟩
  · rw [SlotSupplier.targets, own]
    rfl
  · rintro slots rfl
    cases own
  · intro other same
    obtain rfl := Option.some.inj (own.symm.trans same)
    exact bounded
  · intro shared current
    rw [current] at unmixed
    exact beq_iff_eq.mp unmixed
  · intro system shared current
    rw [current, system] at agreed
    exact of_decide_eq_true agreed

/-- An accepted supplier sets its count or its bounds. -/
theorem supplier_accepted {setFixed : WorkerOptions → UInt32 → WorkerOptions}
    (accepted : supplier building added setFixed setResource = .ok next)
    (tracks : building.Tracks seen)
    (put : Option UInt32 → Option ResourceSlotLimits → WorkerOptions)
    (fixed : ∀ slots, setFixed building.options slots = put (some slots) none)
    (resource : ∀ limits, setResource building.options limits = put none (some limits)) :
    next.options = put added.fixed added.limits ∧ next.Tracks (added :: seen) := by
  cases added with
  | fixedSize slots =>
      obtain ⟨positive, accepted⟩ := (Checks.require_bind_eq_ok ..).mp accepted
      obtain rfl := Except.ok.inj accepted
      exact ⟨fixed _, tracks.fixed _ (of_decide_eq_true positive)⟩
  | jvmResourceBased options =>
      obtain ⟨set, joined⟩ := resourceSupplier_accepted tracks rfl rfl accepted
      exact ⟨set.trans (resource _), joined⟩
  | cGroupResourceBased options =>
      obtain ⟨set, joined⟩ := resourceSupplier_accepted tracks rfl rfl accepted
      exact ⟨set.trans (resource _), joined⟩

end WorkerOptionsProto

/-! ## The bridge's tuner -/

namespace SlotSupplier

variable {supplier : SlotSupplier}

/-- The bounds of a resource supplier pass the bridge's check. -/
theorem bounds_pass {resource : JvmResourceBased} (bounded : resource.Bounded) :
    (decide (resource.limits.maximumSlots = 0) ||
      decide (resource.limits.maximumSlots < resource.limits.minimumSlots)) = false := by
  have positive := Int32.lt_iff_toInt_lt.mp bounded.maximum
  have ordered := Int32.le_iff_toInt_le.mp bounded.ordered
  have maximum := nat32_of_nonneg (Int32.le_of_lt bounded.maximum)
  have minimum := nat32_of_nonneg bounded.minimum
  simp only [nat32, Int32.toNatClampNeg] at maximum minimum
  rw [Bool.or_eq_false_iff, decide_eq_false_iff_not, decide_eq_false_iff_not,
    ← UInt32.toNat_inj, UInt32.lt_iff_toNat_lt]
  simp only [JvmResourceBased.limits, maximum, minimum, UInt32.toNat_zero, Int32.toInt_zero] at positive ⊢
  omega

/-- The bridge makes the supplier that the configuration asks for. -/
theorem slot_accepted (sound : supplier.Sound) (gate : Option Gate) (own : Gate)
    (jvm : supplier.isJvm → gate = some own)
    (system : supplier.systemTargets.isSome → gate = none) (kind : SlotKind) (sticky : Bool) :
    slot supplier.fixed supplier.limits gate kind sticky = .ok (supplier.core own kind sticky) := by
  cases supplier with
  | fixedSize slots =>
      have positive := sound.fixed slots rfl
      have same := nat32_of_nonneg (Int32.le_of_lt positive)
      simp only [slot, fixed, limits, SlotSupplier.resource, Option.map_none, core]
      rw [Checks.reject_bind, same]
      · rfl
      · rw [decide_eq_false_iff_not, ← UInt32.toNat_inj, same]
        have above := Int32.lt_iff_toInt_lt.mp positive
        simp only [nat32, Int32.toNatClampNeg, UInt32.toNat_zero, Int32.toInt_zero] at above ⊢
        omega
  | jvmResourceBased options =>
      have bounded := sound.bounded options rfl
      simp only [slot, fixed, limits, SlotSupplier.resource, Option.map_some, core, jvm rfl]
      rw [Checks.reject_bind _ _ _ (bounds_pass bounded), JvmResourceBased.limits,
        durationMillis_of_nonneg bounded.ramp]
      simp only [jvmSupplier, nat32_of_nonneg bounded.minimum, nat64_of_nonneg bounded.ramp,
        nat32_of_nonneg (Int32.le_of_lt bounded.maximum)]
      rfl
  | cGroupResourceBased options =>
      have bounded := sound.bounded _ rfl
      simp only [slot, fixed, limits, SlotSupplier.resource, Option.map_some, core, system rfl]
      rw [Checks.reject_bind _ _ _ (bounds_pass bounded), JvmResourceBased.limits,
        durationMillis_of_nonneg bounded.ramp]
      simp only [nat32_of_nonneg bounded.minimum,
        nat32_of_nonneg (Int32.le_of_lt bounded.maximum)]
      rfl

/-- The targets of a system supplier are those of its message. -/
theorem systemTargets_eq_some {targets : ResourceBasedSlotsOptions} :
    supplier.systemTargets = some targets ↔
      ∃ tuner, supplier.targets = some tuner ∧ tuner.jvmResourceBased = false ∧
        tuner.config = targets := by
  cases supplier with
  | fixedSize slots =>
      constructor
      · intro impossible
        cases impossible
      · rintro ⟨tuner, impossible, -⟩
        cases impossible
  | jvmResourceBased options =>
      constructor
      · intro impossible
        cases impossible
      · rintro ⟨tuner, own, system, -⟩
        obtain rfl := Option.some.inj own
        cases system
  | cGroupResourceBased options =>
      constructor
      · intro own
        exact ⟨_, rfl, rfl, Option.some.inj own⟩
      · rintro ⟨tuner, own, -, rfl⟩
        obtain rfl := Option.some.inj own
        rfl

end SlotSupplier

namespace Building.Tracks

variable {building : Building} {seen : List SlotSupplier}

/-- With a JVM supplier, all shared targets are the JVM's. -/
theorem jvm (tracks : building.Tracks seen) {supplier : SlotSupplier} (member : supplier ∈ seen)
    (own : supplier.isJvm) : building.sharedTargets.any (·.jvmResourceBased) := by
  cases supplier with
  | fixedSize slots => cases own
  | cGroupResourceBased options => cases own
  | jvmResourceBased options =>
      obtain ⟨shared, current, kind, -⟩ := tracks.shared _ member _ rfl
      rw [current]
      exact kind

/-- The targets of every system supplier are the shared ones. -/
theorem system (tracks : building.Tracks seen) {supplier : SlotSupplier} (member : supplier ∈ seen)
    {targets : ResourceBasedSlotsOptions} (own : supplier.systemTargets = some targets) :
    building.sharedTargets.any (·.jvmResourceBased) = false ∧
      building.sharedTargets.map ResourceBasedTuner.config = some targets := by
  obtain ⟨tuner, given, system, rfl⟩ := SlotSupplier.systemTargets_eq_some.mp own
  obtain ⟨shared, current, kind, same⟩ := tracks.shared _ member tuner given
  rw [current, same system]
  exact ⟨system, rfl⟩

/-- The bridge reads the shared targets back. -/
theorem configured (tracks : building.Tracks seen) :
    building.sharedTargets.mapM resourceBasedConfig =
      .ok (building.sharedTargets.map ResourceBasedTuner.config) := by
  cases current : building.sharedTargets with
  | none => rfl
  | some shared =>
      have acceptable := (tracks.source shared current).1
      rw [Option.mapM_some, acceptable]
      rfl

/-- Core's own tuner is configured exactly with the targets of the system suppliers. -/
theorem coreTargets (tracks : building.Tracks seen) :
    (building.sharedTargets.map ResourceBasedTuner.config).filter
        (fun _ => !building.sharedTargets.any (·.jvmResourceBased)) =
      seen.findSome? SlotSupplier.systemTargets := by
  cases found : seen.findSome? SlotSupplier.systemTargets with
  | some targets =>
      obtain ⟨supplier, member, own⟩ := List.exists_of_findSome?_eq_some found
      obtain ⟨system, same⟩ := tracks.system member own
      rw [system, same]
      rfl
  | none =>
      cases current : building.sharedTargets with
      | none => rfl
      | some shared =>
          obtain ⟨-, supplier, member, own⟩ := tracks.source shared current
          cases kind : shared.jvmResourceBased with
          | true => simp [kind]
          | false =>
              have own := SlotSupplier.systemTargets_eq_some.mpr ⟨shared, own, kind, rfl⟩
              rw [List.findSome?_eq_none_iff.mp found supplier member] at own
              cases own

end Building.Tracks

namespace WorkerOptionsProto

/-- The message that `encode` returns. -/
def message (taskQueue nameSpace : String) (config : WorkerConfig)
    (deployment : Option Config.WorkerDeploymentOptions)
    (workflowPoller activityPoller nexusPoller : Option PollerBehavior)
    (shared : Option ResourceBasedTuner) : WorkerOptions :=
  { beforeSuppliers taskQueue nameSpace config deployment workflowPoller activityPoller nexusPoller with
    maxConcurrentWorkflowTasks := config.workflowSlotSupplier.fixed
    maxConcurrentActivities := config.activitySlotSupplier.fixed
    maxConcurrentLocalActivities := config.localActivitySlotSupplier.fixed
    maxConcurrentNexusTasks := config.nexusSlotSupplier.fixed
    workflowResourceLimits := config.workflowSlotSupplier.limits
    activityResourceLimits := config.activitySlotSupplier.limits
    localActivityResourceLimits := config.localActivitySlotSupplier.limits
    nexusResourceLimits := config.nexusSlotSupplier.limits
    resourceTuner := shared }

/-- What `encode` has checked of a configuration, and what it has written. -/
structure Encoded (taskQueue nameSpace : String) (config : WorkerConfig) (options : WorkerOptions) :
    Prop where
  checked : check taskQueue nameSpace config = .ok ()
  enough : 0 < config.maxCachedWorkflows → config.enableWorkflows →
    2 ≤ config.workflowSlotSupplier.maxConcurrent
  written : ∃ (deployment' : Option Config.WorkerDeploymentOptions)
      (workflowPoller' activityPoller nexusPoller : Option PollerBehavior) (building : Building),
    encodeOption deployment config.deploymentOptions = .ok deployment' ∧
    encodeOption (workflowPoller config) config.workflowPollerBehavior = .ok workflowPoller' ∧
    encodeOption CorePollerBehavior.toProto config.activityPollerBehavior = .ok activityPoller ∧
    encodeOption CorePollerBehavior.toProto config.nexusPollerBehavior = .ok nexusPoller ∧
    building.Tracks config.suppliers ∧
    options = message taskQueue nameSpace config deployment' workflowPoller' activityPoller
      nexusPoller building.sharedTargets

theorem encode_accepted {taskQueue nameSpace : String} {config : WorkerConfig}
    {options : WorkerOptions} (accepted : encode taskQueue nameSpace config = .ok options) :
    Encoded taskQueue nameSpace config options := by
  obtain ⟨_, checked, accepted⟩ := (Checks.bind_eq_ok ..).mp accepted
  obtain ⟨deployment', deployed, accepted⟩ := (Checks.bind_eq_ok ..).mp accepted
  obtain ⟨workflowPoller', workflowPolls, accepted⟩ := (Checks.bind_eq_ok ..).mp accepted
  obtain ⟨activityPoller, activityPolls, accepted⟩ := (Checks.bind_eq_ok ..).mp accepted
  obtain ⟨nexusPoller, nexusPolls, accepted⟩ := (Checks.bind_eq_ok ..).mp accepted
  obtain ⟨enough, accepted⟩ := (Checks.require_bind_eq_ok ..).mp accepted
  obtain ⟨first, workflow, accepted⟩ := (Checks.bind_eq_ok ..).mp accepted
  obtain ⟨second, activity, accepted⟩ := (Checks.bind_eq_ok ..).mp accepted
  obtain ⟨third, localActivity, accepted⟩ := (Checks.bind_eq_ok ..).mp accepted
  obtain ⟨fourth, nexus, accepted⟩ := (Checks.bind_eq_ok ..).mp accepted
  obtain ⟨firstOptions, tracks⟩ := supplier_accepted workflow (Building.Tracks.none _)
    (fun slots limits =>
      { beforeSuppliers taskQueue nameSpace config deployment' workflowPoller' activityPoller
          nexusPoller with
        maxConcurrentWorkflowTasks := slots
        workflowResourceLimits := limits }) (fun _ => rfl) (fun _ => rfl)
  obtain ⟨secondOptions, tracks⟩ := supplier_accepted activity tracks
    (fun slots limits =>
      { first.options with maxConcurrentActivities := slots, activityResourceLimits := limits })
    (fun _ => by rw [firstOptions]; rfl) (fun _ => by rw [firstOptions]; rfl)
  obtain ⟨thirdOptions, tracks⟩ := supplier_accepted localActivity tracks
    (fun slots limits =>
      { second.options with
        maxConcurrentLocalActivities := slots, localActivityResourceLimits := limits })
    (fun _ => by rw [secondOptions, firstOptions]; rfl)
    (fun _ => by rw [secondOptions, firstOptions]; rfl)
  obtain ⟨fourthOptions, tracks⟩ := supplier_accepted nexus tracks
    (fun slots limits =>
      { third.options with maxConcurrentNexusTasks := slots, nexusResourceLimits := limits })
    (fun _ => by rw [thirdOptions, secondOptions, firstOptions]; rfl)
    (fun _ => by rw [thirdOptions, secondOptions, firstOptions]; rfl)
  obtain rfl := Except.ok.inj accepted
  refine ⟨checked, ?_, deployment', workflowPoller', activityPoller, nexusPoller, fourth, deployed,
    workflowPolls, activityPolls, nexusPolls, tracks.same fun _ => List.mem_reverse.symm, ?_⟩
  · intro cached enabled
    simpa [cached, enabled] using enough
  · rw [fourthOptions, thirdOptions, secondOptions, firstOptions]
    rfl

end WorkerOptionsProto

section

variable (taskQueue nameSpace : String) (config : WorkerConfig)
  (deployment : Option Config.WorkerDeploymentOptions)
  (workflowPoller activityPoller nexusPoller : Option PollerBehavior) {building : Building}

/-- Both sides agree on whether workflows are cached. -/
theorem cachesWorkflows_message (nonneg : 0 ≤ config.maxCachedWorkflows)
    (shared : Option ResourceBasedTuner) :
    (WorkerOptionsProto.message taskQueue nameSpace config deployment workflowPoller activityPoller
      nexusPoller shared).cachesWorkflows = config.caches := by
  have same := nat32_of_nonneg nonneg
  have positive : (0 < config.maxCachedWorkflows.toUInt32) ↔ 0 < nat32 config.maxCachedWorkflows := by
    rw [UInt32.lt_iff_toNat_lt, same]
    rfl
  simp only [WorkerOptions.cachesWorkflows, WorkerOptionsProto.message,
    WorkerOptionsProto.beforeSuppliers, WorkerOptionsProto.base, Bool.not_not, WorkerConfig.caches,
    positive]

/-- The workflow limit is that of the configuration. -/
theorem workflowLimit_message (shared : Option ResourceBasedTuner) :
    (WorkerOptionsProto.message taskQueue nameSpace config deployment workflowPoller activityPoller
      nexusPoller shared).workflowLimit = config.workflowSlotSupplier.maxConcurrent.toUInt32 := by
  simp only [WorkerOptions.workflowLimit, WorkerOptionsProto.message]
  cases config.workflowSlotSupplier <;> rfl

/-- The bridge's tuner is the one the configuration asks for. -/
theorem tunerHolderOptions_message (tracks : building.Tracks config.suppliers)
    (nonneg : 0 ≤ config.maxCachedWorkflows)
    (enough : 0 < config.maxCachedWorkflows → config.enableWorkflows →
      2 ≤ config.workflowSlotSupplier.maxConcurrent)
    (resourceGate : Option Gate) (fresh : Gate) :
    tunerHolderOptions (WorkerOptionsProto.message taskQueue nameSpace config deployment
      workflowPoller activityPoller nexusPoller building.sharedTargets) resourceGate fresh =
      .ok (config.holder (resourceGate.getD fresh)) := by
  have jvm : (WorkerOptionsProto.message taskQueue nameSpace config deployment workflowPoller
      activityPoller nexusPoller building.sharedTargets).jvmResourceBased =
      building.sharedTargets.any (·.jvmResourceBased) := rfl
  have slotted (supplier : SlotSupplier) (member : supplier ∈ config.suppliers) (kind : SlotKind)
      (sticky : Bool) : slot supplier.fixed supplier.limits
        ((WorkerOptionsProto.message taskQueue nameSpace config deployment workflowPoller
          activityPoller nexusPoller building.sharedTargets).gate resourceGate fresh) kind sticky =
        .ok (supplier.core (resourceGate.getD fresh) kind sticky) := by
    apply SlotSupplier.slot_accepted (tracks.sound supplier member)
    · intro own
      rw [WorkerOptions.gate, jvm, if_pos (tracks.jvm member own)]
    · intro own
      obtain ⟨targets, own⟩ := Option.isSome_iff_exists.mp own
      rw [WorkerOptions.gate, jvm, if_neg (Bool.eq_false_iff.mp (tracks.system member own).1)]
  have workflow := slotted config.workflowSlotSupplier (by simp [WorkerConfig.suppliers]) .workflow
    config.caches
  have activity := slotted config.activitySlotSupplier (by simp [WorkerConfig.suppliers]) .activity
    false
  have localActivity := slotted config.localActivitySlotSupplier (by simp [WorkerConfig.suppliers])
    .localActivity false
  have nexus := slotted config.nexusSlotSupplier (by simp [WorkerConfig.suppliers]) .nexus false
  rw [tunerHolderOptions, cachesWorkflows_message _ _ _ _ _ _ _ nonneg, workflowLimit_message,
    Checks.reject_bind]
  · rw [jvm]
    change (building.sharedTargets.mapM resourceBasedConfig >>= _) = _
    rw [tracks.configured, Checks.ok_bind, tracks.coreTargets]
    change (slot config.workflowSlotSupplier.fixed config.workflowSlotSupplier.limits _ _ _ >>= _) = _
    rw [workflow, Checks.ok_bind]
    change (slot config.activitySlotSupplier.fixed config.activitySlotSupplier.limits _ _ _ >>= _) = _
    rw [activity, Checks.ok_bind]
    change (slot config.localActivitySlotSupplier.fixed config.localActivitySlotSupplier.limits
      _ _ _ >>= _) = _
    rw [localActivity, Checks.ok_bind]
    change (slot config.nexusSlotSupplier.fixed config.nexusSlotSupplier.limits _ _ _ >>= _) = _
    rw [nexus]
    rfl
  · rw [Bool.and_eq_false_imp, decide_eq_false_iff_not, UInt32.lt_iff_toNat_lt]
    intro caches
    simp only [WorkerConfig.caches, Bool.and_eq_true, decide_eq_true_eq] at caches
    have cached : 0 < config.maxCachedWorkflows := by
      rw [Int32.lt_iff_toInt_lt]
      have some_ := caches.2
      simp only [nat32, Int32.toNatClampNeg, Int32.toInt_zero] at some_ ⊢
      omega
    have two := Int32.le_iff_toInt_le.mp (enough cached caches.1)
    have same := nat32_of_nonneg (Int32.le_iff_toInt_le.mpr (Int.le_trans (by decide) two))
    rw [same]
    simp only [nat32, Int32.toNatClampNeg] at two ⊢
    have two_ : (2 : Int32).toInt = 2 := rfl
    have literal : (2 : UInt32).toNat = 2 := rfl
    omega

end

/-! ## The other values -/

/-- What `check` has found. -/
structure Checked (taskQueue nameSpace : String) (config : WorkerConfig) : Prop where
  taskQueue : isNotBlank taskQueue
  nameSpace : isNotBlank nameSpace
  maxCachedWorkflows : 0 ≤ config.maxCachedWorkflows
  maxHeartbeat : 0 ≤ config.maxHeartbeatThrottleIntervalMs
  defaultHeartbeat : 0 ≤ config.defaultHeartbeatThrottleIntervalMs
  stickyTimeout : 0 ≤ config.stickyQueueScheduleToStartTimeoutMs
  gracefulShutdown : ∀ period, config.gracefulShutdownPeriodMs = some period → 0 ≤ period
  workerRate : config.maxActivitiesPerSecond.isFinite ∧ 0.0 ≤ config.maxActivitiesPerSecond
  taskQueueRate : config.maxTaskQueueActivitiesPerSecond.isFinite ∧
    0.0 ≤ config.maxTaskQueueActivitiesPerSecond
  ratio : config.nonstickyToStickyPollRatio.isFinite ∧ inUnit32 config.nonstickyToStickyPollRatio
  maxEager : 0 ≤ config.maxEagerActivityReservationsPerWorkflowTask
  types : ∀ name ∈ config.nondeterminismAsWorkflowFailForTypes, isNotBlank name

theorem checked_of_check {taskQueue nameSpace : String} {config : WorkerConfig}
    (checked : WorkerOptionsProto.check taskQueue nameSpace config = .ok ()) :
    Checked taskQueue nameSpace config := by
  simp only [WorkerOptionsProto.check, Checks.require_bind_eq_ok, Checks.require_eq_ok,
    Bool.and_eq_true, decide_eq_true_eq, List.all_eq_true] at checked
  obtain ⟨taskQueue, nameSpace, maxCachedWorkflows, -, -, maxHeartbeat, defaultHeartbeat,
    stickyTimeout, gracefulShutdown, workerRate, taskQueueRate, ratio, maxEager, types⟩ := checked
  refine ⟨taskQueue, nameSpace, maxCachedWorkflows, maxHeartbeat, defaultHeartbeat, stickyTimeout,
    ?_, workerRate, taskQueueRate, ratio, maxEager, types⟩
  intro period given
  rwa [given] at gracefulShutdown

/-- An empty identity is as good as none. -/
theorem identity_eq (identity : Option String) :
    (if (identity.getD "").isEmpty then none else some (identity.getD "")) =
      identity.filter (!·.isEmpty) := by
  cases identity with
  | none => rfl
  | some identity =>
      rw [Option.getD_some, Option.filter_some]
      cases identity.isEmpty <;> rfl

/-- The failure errors of a type are those of its name. -/
theorem perType_eq (types : List String) (name : String) :
    perType types name = if name ∈ types then some {.nondeterminism} else none := by
  have folded (map : String → Option (Finset WorkflowErrorType)) :
      types.foldl (fun map name => Function.update map name (some {.nondeterminism})) map name =
        if name ∈ types then some {.nondeterminism} else map name := by
    induction types generalizing map with
    | nil => rfl
    | cons first rest ih =>
        rw [List.foldl_cons, ih, Function.update_apply]
        by_cases again : name ∈ rest
        · simp [again]
        · by_cases here : name = first
          · simp [here]
          · simp [again, here]
  exact folded _

/-- The bridge's white space is the JVM's, but for one control character. -/
theorem eq_next_line {char : Char} (bridge : Config.isWhitespace char)
    (jvm : isWhitespace char = false) : char = Char.ofNat 0x85 := by
  have point : char.toNat = 0x85 := by
    simp only [Config.isWhitespace, isWhitespace, Bool.or_eq_true, Bool.and_eq_true,
      decide_eq_true_eq, Bool.or_eq_false_iff, Bool.and_eq_false_imp, decide_eq_false_iff_not]
      at bridge jvm
    omega
  rw [← point, Char.ofNat_toNat]

/-- The bridge finds a character in a text that is no white space. -/
def Legible (text : String) : Prop := ∃ char ∈ text.toList, Config.isWhitespace char = false

theorem trim_of_legible {text : String} (legible : Legible text) : (trim text).isEmpty = false := by
  rw [trim_isEmpty, ← Bool.not_eq_true, List.all_eq_true]
  intro blank
  obtain ⟨char, member, solid⟩ := legible
  rw [blank char member] at solid
  cases solid

theorem trim_of_illegible {text : String} (illegible : ¬ Legible text) : (trim text).isEmpty := by
  rw [trim_isEmpty, List.all_eq_true]
  intro char member
  by_contra solid
  exact illegible ⟨char, member, Bool.eq_false_iff.mpr solid⟩

theorem legible_of_trim {text : String} (kept : (trim text).isEmpty = false) : Legible text := by
  by_contra illegible
  rw [trim_of_illegible illegible] at kept
  cases kept

/-- A text that only the bridge finds blank has a U+0085. -/
theorem next_line_of_illegible {text : String} (given : isNotBlank text) (illegible : ¬ Legible text) :
    Char.ofNat 0x85 ∈ text.toList := by
  obtain ⟨char, member, solid⟩ := List.any_eq_true.mp given
  have white : Config.isWhitespace char := by
    by_contra black
    exact illegible ⟨char, member, Bool.eq_false_iff.mpr black⟩
  rw [← eq_next_line white ((Bool.not_eq_true' _).mp solid)]
  exact member

/-- The bridge can read all names of a configuration. -/
structure LegibleNames (taskQueue nameSpace : String) (config : WorkerConfig) : Prop where
  taskQueue : Legible taskQueue
  nameSpace : Legible nameSpace
  types : ∀ name ∈ config.nondeterminismAsWorkflowFailForTypes, Legible name
  deployment : ∀ options, config.deploymentOptions = some options →
    Legible options.version.deploymentName ∧ Legible options.version.buildId

/-! ## Agreement -/

/-- The bridge hands Core's builders what the configuration asks for, whatever they are, and
fails only where they do. -/
def Understood (taskQueue nameSpace : String) (config : WorkerConfig) (options : WorkerOptions) :
    Prop :=
  ∀ (Gate : Type) (core : Core Gate) (resourceGate : Option Gate) (fresh : Gate),
    workerConfigWithResourceGate core options resourceGate fresh = (do
      let tuner ← core.buildTuner (config.holder (resourceGate.getD fresh))
      core.buildWorker tuner (config.values taskQueue nameSpace))

/-- The resource suppliers of a worker are of one kind, and the system's share their targets. -/
structure OneTuner (config : WorkerConfig) : Prop where
  shared : ∀ supplier ∈ config.suppliers, ∀ targets, supplier.systemTargets = some targets →
    config.suppliers.findSome? SlotSupplier.systemTargets = some targets
  unmixed : ∀ supplier ∈ config.suppliers, supplier.isJvm →
    config.suppliers.findSome? SlotSupplier.systemTargets = none

theorem Building.Tracks.oneTuner {building : Building} {config : WorkerConfig}
    (tracks : building.Tracks config.suppliers) : OneTuner config where
  shared := by
    intro supplier member targets own
    obtain ⟨system, same⟩ := tracks.system member own
    rw [← tracks.coreTargets, system, same]
    rfl
  unmixed := by
    intro supplier member own
    rw [← tracks.coreTargets, tracks.jvm member own]
    simp

section

variable {taskQueue nameSpace : String} {config : WorkerConfig} {options : WorkerOptions}

/-- The versioning is the configuration's if the deployment's names can be read. -/
theorem versioning_message (taskQueue nameSpace : String) (options : WorkerOptions)
    {deployment : Option Config.WorkerDeploymentOptions}
    (deployed : WorkerOptionsProto.encodeOption WorkerOptionsProto.deployment
      config.deploymentOptions = .ok deployment)
    (legible : ∀ options, config.deploymentOptions = some options →
      Legible options.version.deploymentName ∧ Legible options.version.buildId)
    (given : options.deploymentOptions = deployment) (build : options.buildId = config.buildId) :
    versioning options = .ok (config.values taskQueue nameSpace).versioningStrategy := by
  rw [versioning, given, WorkerConfig.values, build]
  cases configured : config.deploymentOptions with
  | none =>
      rw [configured] at deployed
      obtain rfl := Except.ok.inj deployed
      rfl
  | some own =>
      rw [configured] at deployed
      obtain ⟨inner, inside, same⟩ := (Checks.bind_eq_ok ..).mp deployed
      obtain ⟨-, inside⟩ := (Checks.require_bind_eq_ok ..).mp inside
      obtain rfl := Except.ok.inj same
      obtain rfl := Except.ok.inj inside
      obtain ⟨name, build⟩ := legible own configured
      simp only
      rw [Checks.reject_bind]
      · cases own.defaultVersioningBehavior <;> rfl
      · rw [Bool.or_eq_false_iff]
        exact ⟨trim_of_legible name, trim_of_legible build⟩

/-- An unreadable deployment is refused. -/
theorem versioning_illegible {deployment : Option Config.WorkerDeploymentOptions}
    (deployed : WorkerOptionsProto.encodeOption WorkerOptionsProto.deployment
      config.deploymentOptions = .ok deployment)
    {own : WorkerDeploymentOptions} (configured : config.deploymentOptions = some own)
    (illegible : ¬ (Legible own.version.deploymentName ∧ Legible own.version.buildId))
    (given : options.deploymentOptions = deployment) :
    versioning options = .error (.invalidArgument "deployment name and build ID must not be blank") := by
  rw [configured] at deployed
  obtain ⟨inner, inside, same⟩ := (Checks.bind_eq_ok ..).mp deployed
  obtain ⟨-, inside⟩ := (Checks.require_bind_eq_ok ..).mp inside
  obtain rfl := Except.ok.inj same
  obtain rfl := Except.ok.inj inside
  have blank : ((trim own.version.deploymentName).isEmpty || (trim own.version.buildId).isEmpty) := by
    rw [Bool.or_eq_true]
    rcases not_and_or.mp illegible with name | build
    · exact Or.inl (trim_of_illegible name)
    · exact Or.inr (trim_of_illegible build)
  rw [versioning, given]
  simp only [blank]
  rfl

/-- What the bridge accepts has names that it can read. -/
theorem legible_of_accepted (encoded : WorkerOptionsProto.Encoded taskQueue nameSpace config options)
    (core : Core Gate) (resourceGate : Option Gate) (fresh : Gate) (result : core.WorkerConfig)
    (accepted : workerConfigWithResourceGate core options resourceGate fresh = .ok result) :
    LegibleNames taskQueue nameSpace config := by
  obtain ⟨deployment, workflowPoller, activityPoller, nexusPoller, building, deployed, -, -, -, -,
    rfl⟩ := encoded.written
  obtain ⟨names, accepted⟩ := (Checks.reject_bind_eq_ok ..).mp accepted
  obtain ⟨-, accepted⟩ := (Checks.reject_bind_eq_ok ..).mp accepted
  obtain ⟨types, accepted⟩ := (Checks.reject_bind_eq_ok ..).mp accepted
  obtain ⟨tuner, -, accepted⟩ := (Checks.bind_eq_ok ..).mp accepted
  obtain ⟨strategy, versioned, -⟩ := (Checks.bind_eq_ok ..).mp accepted
  rw [Bool.or_eq_false_iff] at names
  refine ⟨legible_of_trim names.2, legible_of_trim names.1, ?_, ?_⟩
  · intro name member
    apply legible_of_trim
    rw [← Bool.not_eq_true, List.any_eq_true] at types
    rw [← Bool.not_eq_true]
    intro blank
    exact types ⟨name, member, blank⟩
  · intro own configured
    by_contra illegible
    rw [versioning_illegible deployed configured illegible rfl] at versioned
    cases versioned

/-- The bridge reads a legible message as the configuration means it. -/
theorem reads_of_legible (checked : Checked taskQueue nameSpace config)
    {deployment : Option Config.WorkerDeploymentOptions}
    {workflowPoller activityPoller nexusPoller : Option PollerBehavior}
    (deployed : WorkerOptionsProto.encodeOption WorkerOptionsProto.deployment
      config.deploymentOptions = .ok deployment)
    (workflowPolls : WorkerOptionsProto.encodeOption (WorkerOptionsProto.workflowPoller config)
      config.workflowPollerBehavior = .ok workflowPoller)
    (activityPolls : WorkerOptionsProto.encodeOption CorePollerBehavior.toProto
      config.activityPollerBehavior = .ok activityPoller)
    (nexusPolls : WorkerOptionsProto.encodeOption CorePollerBehavior.toProto
      config.nexusPollerBehavior = .ok nexusPoller)
    (legible : LegibleNames taskQueue nameSpace config) (shared : Option ResourceBasedTuner) :
    (WorkerOptionsProto.message taskQueue nameSpace config deployment workflowPoller activityPoller
      nexusPoller shared).Reads (config.values taskQueue nameSpace) where
  names := by
    rw [Bool.or_eq_false_iff]
    exact ⟨trim_of_legible legible.nameSpace, trim_of_legible legible.taskQueue⟩
  share := by
    rw [Bool.or_eq_false_iff, Bool.not_eq_false', Bool.not_eq_false']
    exact checked.ratio
  types := by
    rw [List.any_eq_false]
    intro name member
    rw [trim_of_legible (legible.types name member)]
    exact Bool.false_ne_true
  versioning := versioning_message taskQueue nameSpace _ deployed legible.deployment rfl rfl
  workflowPoller := poller_of_encodeOption (poller_of_workflowPoller config) workflowPolls
  activityPoller :=
    poller_of_encodeOption (fun _ _ => CorePollerBehavior.poller_of_toProto) activityPolls
  nexusPoller :=
    poller_of_encodeOption (fun _ _ => CorePollerBehavior.poller_of_toProto) nexusPolls
  maxHeartbeat := durationMillis_of_nonneg checked.maxHeartbeat
  defaultHeartbeat := durationMillis_of_nonneg checked.defaultHeartbeat
  workerRate := rate_of_nonneg checked.workerRate.1 checked.workerRate.2
  taskQueueRate := rate_of_nonneg checked.taskQueueRate.1 checked.taskQueueRate.2
  stickyTimeout := durationMillis_of_nonneg checked.stickyTimeout
  gracefulShutdown := by
    simp only [WorkerOptionsProto.message, WorkerOptionsProto.beforeSuppliers, WorkerConfig.values]
    cases given : config.gracefulShutdownPeriodMs with
    | none => rfl
    | some period =>
        rw [Option.map_some, Option.mapM_some,
          durationMillis_of_nonneg (checked.gracefulShutdown period given)]
        rfl
  nameSpace := rfl
  taskQueue := rfl
  maxCachedWorkflows := nat32_of_nonneg checked.maxCachedWorkflows
  taskTypes := by
    simp only [WorkerOptionsProto.message, WorkerOptionsProto.beforeSuppliers,
      WorkerOptionsProto.base, Bool.not_not]
    rfl
  identity := identity_eq config.workerIdentity
  ratio := rfl
  failureErrors := rfl
  typeErrors := funext fun name => perType_eq _ name
  maxEager := nat32_of_nonneg checked.maxEager
  payloadLimit := rfl

/-- In a message that the JVM has encoded, one kind of tuner is asked for, and the bridge hands
Core's builders what the configuration asks for if and only if it can read its names. -/
theorem encoded_options_are_understood (taskQueue nameSpace : String) (config : WorkerConfig)
    (options : WorkerOptions)
    (accepted : WorkerOptionsProto.encode taskQueue nameSpace config = .ok options) :
    OneTuner config ∧
      (Understood taskQueue nameSpace config options ↔
        LegibleNames taskQueue nameSpace config) := by
  have encoded := WorkerOptionsProto.encode_accepted accepted
  obtain ⟨deployment, workflowPoller, activityPoller, nexusPoller, building, deployed,
    workflowPolls, activityPolls, nexusPolls, tracks, rfl⟩ := encoded.written
  have checked := checked_of_check encoded.checked
  refine ⟨tracks.oneTuner, ?_, ?_⟩
  · intro understood
    exact legible_of_accepted encoded Core.lenient none () () (understood Unit Core.lenient none ())
  · intro legible Gate core resourceGate fresh
    have reads := reads_of_legible checked deployed workflowPolls activityPolls nexusPolls legible
      building.sharedTargets
    exact reads.workerConfig core (tunerHolderOptions_message _ _ _ _ _ _ _ tracks
      checked.maxCachedWorkflows encoded.enough resourceGate fresh)

end

/-- The default configuration is accepted for all names that are not blank. -/
theorem default_accepted (taskQueue nameSpace : String) (first : isNotBlank taskQueue)
    (second : isNotBlank nameSpace) :
    ∃ options, WorkerOptionsProto.encode taskQueue nameSpace {} = .ok options := by
  refine ⟨WorkerOptionsProto.message taskQueue nameSpace {} none
    (some { strategy := some (.simpleMaximum 5) }) (some { strategy := some (.simpleMaximum 5) })
    (some { strategy := some (.simpleMaximum 2) }) none, ?_⟩
  rw [WorkerOptionsProto.encode, WorkerOptionsProto.check, first, second]
  rfl

/-- A task queue whose name is the control character U+0085 is accepted by the JVM, and refused
by the bridge. -/
theorem next_line_is_refused :
    ∃ options, WorkerOptionsProto.encode "\u0085" "default" {} = .ok options ∧
      workerConfigWithResourceGate Core.lenient options none () =
        .error (.invalidArgument "namespace and task_queue must not be blank") ∧
      ¬ Understood "\u0085" "default" {} options := by
  obtain ⟨options, accepted⟩ := default_accepted "\u0085" "default" (by decide) (by decide)
  have encoded := WorkerOptionsProto.encode_accepted accepted
  obtain ⟨deployment, workflowPoller, activityPoller, nexusPoller, building, -, -, -, -, -, rfl⟩ :=
    encoded.written
  have blank : ((trim "default").isEmpty || (trim "\u0085").isEmpty) = true := by decide
  have refused := workerConfig_of_blank Core.lenient (WorkerOptionsProto.message "\u0085" "default"
    {} deployment workflowPoller activityPoller nexusPoller building.sharedTargets) none () blank
  refine ⟨_, accepted, refused, ?_⟩
  intro understood
  have same := understood Unit Core.lenient none ()
  rw [refused] at same
  cases same

/-- A versioned deployment whose workflows are pinned by default. -/
def pinned : WorkerDeploymentOptions where
  version :=
    { deploymentName := "orders"
      buildId := "7"
      deploymentName_isNotBlank := by decide
      buildId_isNotBlank := by decide }
  defaultVersioningBehavior := .pinned

/-- Slots by the JVM's usage, a deployment, names of workflow types and autoscaling pollers. -/
def scaling : WorkerConfig where
  enableNexus := true
  deploymentOptions := some pinned
  workflowSlotSupplier := .jvmResourceBased { minimumSlots := 2 }
  activitySlotSupplier := .jvmResourceBased { targetMemoryUsage := 0.5 }
  localActivitySlotSupplier := .fixedSize 4
  nexusSlotSupplier := .jvmResourceBased {}
  workflowPollerBehavior := some (.autoscaling 2 20 5)
  activityPollerBehavior := some (.autoscaling 1 10 5)
  workerIdentity := some "worker"
  nondeterminismAsWorkflowFailForTypes := ["Order", "Invoice"]

theorem scaling_accepted :
    ∃ options, WorkerOptionsProto.encode "queue" "default" scaling = .ok options := by
  have accepted : (WorkerOptionsProto.encode "queue" "default" scaling).isOk = true := by
    decide +kernel
  cases encoded : WorkerOptionsProto.encode "queue" "default" scaling with
  | ok options => exact ⟨options, rfl⟩
  | error message =>
      rw [encoded] at accepted
      cases accepted

theorem encoded_options_are_understood_scaling :
    ∃ options, WorkerOptionsProto.encode "queue" "default" scaling = .ok options ∧
      OneTuner scaling ∧ Understood "queue" "default" scaling options := by
  obtain ⟨options, accepted⟩ := scaling_accepted
  obtain ⟨one, understood⟩ :=
    encoded_options_are_understood "queue" "default" scaling options accepted
  refine ⟨options, accepted, one, understood.mpr ⟨?_, ?_, ?_, ?_⟩⟩
  · exact legible_of_trim (by decide)
  · exact legible_of_trim (by decide)
  · intro name member
    obtain rfl | rfl : name = "Order" ∨ name = "Invoice" := by simpa [scaling] using member
    · exact legible_of_trim (by decide)
    · exact legible_of_trim (by decide)
  · rintro own ⟨⟩
    exact ⟨legible_of_trim (by decide), legible_of_trim (by decide)⟩

end Kotlin

end KtBridge.Config
