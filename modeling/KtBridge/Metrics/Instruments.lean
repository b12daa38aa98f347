import KtBridge.Metrics.Ledger
import Mathlib.Logic.Function.Basic

/-! # What Core records through the meter

Core makes attribute sets and instruments of seven kinds, binds sets to instruments, and records
typed values. Beside each attribute set stands the list of all that was written into it, and
beside each recorded update the value and the instrument it was recorded through.
-/

namespace KtBridge.Metrics

open Foundation

variable {Double : Type}

/-- The instruments of a `CoreMeter`. -/
inductive Kind where
  | counter
  | gauge
  | gaugeF64
  | histogram
  | histogramF64
  | histogramDuration
  | upDownCounter
  deriving DecidableEq

def Kind.code : Kind → UInt32
  | counter => 0
  | gauge => 1
  | gaugeF64 => 2
  | histogram => 3
  | histogramF64 => 4
  | histogramDuration => 5
  | upDownCounter => 6

/-- The parameters an instrument is made with. -/
def Kind.params (kind : Kind) (params : MetricParameters) : MetricParameters :=
  match kind with
  | histogramDuration => { params with unit := "ms" }
  | _ => params

/-- A duration has less than a second of nanoseconds. -/
structure Duration where
  secs : UInt64
  nanos : Fin 1000000000
  deriving DecidableEq

def Duration.asMillis (duration : Duration) : Nat :=
  duration.secs.toNat * 1000 + duration.nanos / 1000000

/-- A value as Core records it. -/
inductive CoreValue (Double : Type) where
  | u64 (value : UInt64)
  | f64 (value : Double)
  | duration (value : Duration)
  | i64 (value : Int64)
  deriving DecidableEq

/-- The type of value an instrument takes. -/
def Kind.accepts : Kind → CoreValue Double → Bool
  | counter, .u64 _ | gauge, .u64 _ | histogram, .u64 _ => true
  | gaugeF64, .f64 _ | histogramF64, .f64 _ => true
  | histogramDuration, .duration _ => true
  | upDownCounter, .i64 _ => true
  | _, _ => false

/-- `n.min(i64::MAX) as i64`. -/
def saturated (value : Nat) : Int64 := Int64.ofNat (min value (2 ^ 63 - 1))

def CoreValue.encode : CoreValue Double → MetricValue Double
  | u64 value => .intValue (saturated value.toNat)
  | f64 value => .doubleValue value
  | duration value => .intValue (saturated value.asMillis)
  | i64 value => .intValue value

/-- What a list of writes leaves: for each key the value written last. -/
def written (writes : List (KeyValue Double)) : String → Option (OtelValue Double) :=
  writes.foldl (fun map pair => Function.update map pair.key (some pair.value)) fun _ => none

/-- An attribute set, with all that was written into it. -/
structure AttributeSet (Double : Type) where
  attributes : MetricAttributes Double
  writes : List (KeyValue Double)
  deriving DecidableEq

/-- `Instrument`, with its name and kind, and all that was written into its attributes. -/
structure Instrument (Double : Type) where
  id : Nat
  name : String
  kind : Kind
  set : AttributeSet Double
  deriving DecidableEq

/-- One recorded value. -/
structure Observation (Double : Type) where
  instrument : Instrument Double
  value : CoreValue Double

/-- `Instrument::record`: what is buffered. -/
def Observation.sample (observation : Observation Double) : Sample Double where
  instrument := observation.instrument.id
  attributes := observation.instrument.set.attributes
  value := observation.value.encode

/-- Core's side: the meter with its ledger, the attribute sets and instruments made so far, and
the values recorded. -/
structure CoreMeter (Double : Type) where
  ledger : Ledger Double
  sets : List (AttributeSet Double)
  instruments : List (Instrument Double)
  observations : List (Observation Double)

namespace CoreMeter

def start : CoreMeter Double where
  ledger := .start
  sets := []
  instruments := []
  observations := []

inductive Action (Double : Type) where
  | create (kind : Kind) (params : MetricParameters)
  | newAttributes (attribs : List (KeyValue Double))
  | extendAttributes (existing : AttributeSet Double) (attribs : List (KeyValue Double))
  | withAttributes (instrument : Instrument Double) (set : AttributeSet Double)
  | record (instrument : Instrument Double) (value : CoreValue Double)
  | drain

/-- Core uses the sets and instruments it was given, and keys are not empty. -/
def guard (state : CoreMeter Double) : Action Double → Prop
  | .create _ _ => True
  | .newAttributes attribs => ∀ pair ∈ attribs, pair.key ≠ ""
  | .extendAttributes existing attribs => existing ∈ state.sets ∧ ∀ pair ∈ attribs, pair.key ≠ ""
  | .withAttributes instrument set => instrument ∈ state.instruments ∧ set ∈ state.sets
  | .record instrument value => instrument ∈ state.instruments ∧ instrument.kind.accepts value
  | .drain => True

instance decidableGuard [DecidableEq Double] (state : CoreMeter Double) (action : Action Double) :
    Decidable (guard state action) := by
  cases action <;> unfold guard <;> infer_instance

def effect (state : CoreMeter Double) : Action Double → CoreMeter Double
  | .create kind params =>
      let ledger := Ledger.effect state.ledger (.create kind.code (kind.params params))
      { state with
        ledger := ledger
        instruments := state.instruments ++ [{
          id := (state.ledger.meter.instrument kind.code (kind.params params)).1
          name := params.name
          kind := kind
          set := { attributes := .empty, writes := [] } }] }
  | .newAttributes attribs =>
      { state with
        sets := state.sets ++ [{ attributes := newAttributes attribs, writes := attribs }] }
  | .extendAttributes existing attribs =>
      { state with
        sets := state.sets ++ [{
          attributes := extendAttributes existing.attributes attribs
          writes := existing.writes ++ attribs }] }
  | .withAttributes instrument set =>
      { state with instruments := state.instruments ++ [{ instrument with set := set }] }
  | .record instrument value =>
      let observation : Observation Double := { instrument := instrument, value := value }
      { state with
        ledger := Ledger.effect state.ledger (.record observation.sample)
        observations := state.observations ++ [observation] }
  | .drain => { state with ledger := Ledger.effect state.ledger .drain }

def system : GuardedSystem (CoreMeter Double) (Action Double) where
  start := start
  guard := guard
  effect := effect

instance [DecidableEq Double] (state : CoreMeter Double) (action : Action Double) :
    Decidable ((system : GuardedSystem (CoreMeter Double) _).guard state action) :=
  inferInstanceAs (Decidable (guard state action))

end CoreMeter

section Saturation

theorem saturated_toInt (value : Nat) :
    (saturated value).toInt = min (value : Int) (2 ^ 63 - 1) := by
  have bound : min value (2 ^ 63 - 1) < 2 ^ 63 :=
    Nat.lt_of_le_of_lt (Nat.min_le_right ..) (by decide)
  rw [saturated, Int64.toInt_ofNat_of_lt bound]
  omega

end Saturation

section Attributes

/-- A set holds what was written last, each key once. -/
structure AttributeSet.Sound (set : AttributeSet Double) : Prop where
  holds : ∀ kvs, set.attributes = .otel kvs → written kvs = written set.writes
  once : ∀ kvs, set.attributes = .otel kvs → (kvs.map fun pair => pair.key).Nodup
  empty : set.attributes = .empty → set.writes = []
  keys : ∀ kvs, set.attributes = .otel kvs → ∀ pair ∈ kvs, pair.key ≠ ""

theorem written_snoc (writes : List (KeyValue Double)) (pair : KeyValue Double) :
    written (writes ++ [pair]) = Function.update (written writes) pair.key (some pair.value) := by
  simp only [written, List.foldl_append, List.foldl_cons, List.foldl_nil]

/-- Removing the writes of a key leaves those of the others. -/
theorem written_filter {key other : String} (different : other ≠ key)
    (kvs : List (KeyValue Double)) :
    written (kvs.filter fun pair => pair.key ≠ key) other = written kvs other := by
  induction kvs using List.reverseRecOn with
  | nil => rfl
  | append_singleton kvs last ih =>
      rw [List.filter_append, written_snoc]
      by_cases removed : last.key = key
      · have gone : [last].filter (fun pair => decide (pair.key ≠ key)) = [] := by
          simp [removed]
        rw [gone, List.append_nil, Function.update_of_ne (by rw [removed]; exact different)]
        exact ih
      · have kept : [last].filter (fun pair => decide (pair.key ≠ key)) = [last] := by
          simp [removed]
        rw [kept, written_snoc]
        by_cases here : other = last.key
        · rw [here, Function.update_self, Function.update_self]
        · rw [Function.update_of_ne here, Function.update_of_ne here]
          exact ih

/-- One attribute replaces those of its key. -/
theorem written_replace (kvs : List (KeyValue Double)) (pair : KeyValue Double) :
    written (kvs.filter (fun existing => existing.key ≠ pair.key) ++ [pair]) =
      Function.update (written kvs) pair.key (some pair.value) := by
  rw [written_snoc]
  funext other
  by_cases here : other = pair.key
  · rw [here, Function.update_self, Function.update_self]
  · rw [Function.update_of_ne here, Function.update_of_ne here, written_filter here]

theorem nodup_replace {kvs : List (KeyValue Double)}
    (once : (kvs.map fun pair => pair.key).Nodup) (pair : KeyValue Double) :
    ((kvs.filter (fun existing => existing.key ≠ pair.key) ++ [pair]).map
      fun pair => pair.key).Nodup := by
  rw [List.map_append, List.map_singleton]
  apply (once.sublist (List.filter_sublist.map _)).append (List.nodup_singleton _)
  intro key member last
  obtain ⟨existing, there, rfl⟩ := List.mem_map.mp member
  have different := (List.mem_filter.mp there).2
  rw [List.mem_singleton.mp last] at different
  simp at different

/-- The loop of `extend_attributes` over attributes that hold what was written. -/
theorem extend_loop (attribs : List (KeyValue Double)) :
    ∀ (kvs writes : List (KeyValue Double)), written kvs = written writes →
      (kvs.map fun pair => pair.key).Nodup →
      written (attribs.foldl
          (fun kvs pair => kvs.filter (fun existing => existing.key ≠ pair.key) ++ [pair]) kvs) =
        written (writes ++ attribs) ∧
      ((attribs.foldl
          (fun kvs pair => kvs.filter (fun existing => existing.key ≠ pair.key) ++ [pair]) kvs).map
        fun pair => pair.key).Nodup := by
  induction attribs with
  | nil =>
      intro kvs writes holds once
      rw [List.append_nil]
      exact ⟨holds, once⟩
  | cons pair rest ih =>
      intro kvs writes holds once
      have replaced : written (kvs.filter (fun existing => existing.key ≠ pair.key) ++ [pair]) =
          written (writes ++ [pair]) := by
        rw [written_replace, written_snoc, holds]
      have next := ih _ (writes ++ [pair]) replaced (nodup_replace once pair)
      rw [List.append_assoc] at next
      exact next

/-- The loop adds no key but those of the new attributes. -/
theorem extend_keys {attribs : List (KeyValue Double)} (keys : ∀ pair ∈ attribs, pair.key ≠ "") :
    ∀ (kvs : List (KeyValue Double)), (∀ pair ∈ kvs, pair.key ≠ "") →
      ∀ pair ∈ attribs.foldl
        (fun kvs pair => kvs.filter (fun existing => existing.key ≠ pair.key) ++ [pair]) kvs,
        pair.key ≠ "" := by
  induction attribs with
  | nil => exact fun kvs before => before
  | cons first rest ih =>
      intro kvs before
      apply ih fun pair member => keys pair (List.mem_cons_of_mem _ member)
      intro pair member
      rcases List.mem_append.mp member with old | new
      · exact before pair (List.mem_filter.mp old).1
      · rw [List.mem_singleton.mp new]
        exact keys first List.mem_cons_self

theorem AttributeSet.Sound.extend {set : AttributeSet Double} (sound : set.Sound)
    {attribs : List (KeyValue Double)} (keys : ∀ pair ∈ attribs, pair.key ≠ "") :
    AttributeSet.Sound
      { attributes := extendAttributes set.attributes attribs, writes := set.writes ++ attribs } := by
  have loop : ∃ kvs, extendAttributes set.attributes attribs = .otel kvs ∧
      written kvs = written (set.writes ++ attribs) ∧ (kvs.map fun pair => pair.key).Nodup ∧
      ∀ pair ∈ kvs, pair.key ≠ "" := by
    cases there : set.attributes with
    | empty =>
        obtain ⟨holds, once⟩ := extend_loop attribs [] [] rfl List.nodup_nil
        rw [sound.empty there]
        refine ⟨_, rfl, holds, once, extend_keys keys [] ?_⟩
        exact fun pair member => absurd member List.not_mem_nil
    | otel kvs =>
        obtain ⟨holds, once⟩ :=
          extend_loop attribs kvs set.writes (sound.holds kvs there) (sound.once kvs there)
        exact ⟨_, rfl, holds, once, extend_keys keys kvs (sound.keys kvs there)⟩
  obtain ⟨kvs, same, holds, once, nonempty⟩ := loop
  constructor
  · intro other there
    rw [← MetricAttributes.otel.inj (same.symm.trans there)]
    exact holds
  · intro other there
    rw [← MetricAttributes.otel.inj (same.symm.trans there)]
    exact once
  · intro there
    rw [same] at there
    cases there
  · intro other there
    rw [← MetricAttributes.otel.inj (same.symm.trans there)]
    exact nonempty

theorem AttributeSet.sound_empty :
    AttributeSet.Sound ({ attributes := .empty, writes := [] } : AttributeSet Double) := by
  refine ⟨?_, ?_, fun _ => rfl, ?_⟩
  · exact fun kvs there => by cases there
  · exact fun kvs there => by cases there
  · exact fun kvs there => by cases there

end Attributes

namespace CoreMeter

variable {state : CoreMeter Double}

/-- Instruments are those of the ledger, sets are sound, and updates are the values recorded. -/
structure Faithful (state : CoreMeter Double) : Prop where
  named : ∀ instrument ∈ state.instruments,
    ((instrument.name, instrument.kind.code), instrument.id) ∈ state.ledger.created
  sets : ∀ set ∈ state.sets, set.Sound
  bound : ∀ instrument ∈ state.instruments, instrument.set.Sound
  recorded : state.ledger.recorded = state.observations.map Observation.sample
  through : ∀ observation ∈ state.observations, observation.instrument ∈ state.instruments ∧
    observation.instrument.kind.accepts observation.value

theorem params_name (kind : Kind) (params : MetricParameters) :
    (kind.params params).name = params.name := by
  cases kind <;> rfl

theorem faithful_start : (start : CoreMeter Double).Faithful := by
  constructor <;> simp [start, Ledger.start]

theorem create_created (ledger : Ledger Double) (kind : UInt32) (params : MetricParameters) :
    (Ledger.effect ledger (.create kind params)).created =
      ledger.created ++ [((params.name, kind), (ledger.meter.instrument kind params).1)] :=
  rfl

theorem drain_history (ledger : Ledger Double) :
    (Ledger.effect ledger .drain).created = ledger.created ∧
      (Ledger.effect ledger .drain).recorded = ledger.recorded := by
  simp only [Ledger.effect]
  split <;> exact ⟨rfl, rfl⟩

theorem faithful_step (faithful : state.Faithful) {action : Action Double}
    (ready : guard state action) : (effect state action).Faithful := by
  cases action with
  | create kind params =>
      refine ⟨?_, faithful.sets, ?_, faithful.recorded, ?_⟩
      · intro instrument member
        simp only [effect, create_created, params_name] at member ⊢
        rcases List.mem_append.mp member with old | new
        · exact List.mem_append_left _ (faithful.named instrument old)
        · rw [List.mem_singleton.mp new]
          exact List.mem_append_right _ (List.mem_singleton.mpr rfl)
      · intro instrument member
        rcases List.mem_append.mp member with old | new
        · exact faithful.bound instrument old
        · rw [List.mem_singleton.mp new]
          exact AttributeSet.sound_empty
      · intro observation member
        obtain ⟨there, accepts⟩ := faithful.through observation member
        exact ⟨List.mem_append_left _ there, accepts⟩
  | newAttributes attribs =>
      refine ⟨faithful.named, ?_, faithful.bound, faithful.recorded, faithful.through⟩
      intro set member
      rcases List.mem_append.mp member with old | new
      · exact faithful.sets set old
      · rw [List.mem_singleton.mp new]
        exact AttributeSet.sound_empty.extend ready
  | extendAttributes existing attribs =>
      refine ⟨faithful.named, ?_, faithful.bound, faithful.recorded, faithful.through⟩
      intro set member
      rcases List.mem_append.mp member with old | new
      · exact faithful.sets set old
      · rw [List.mem_singleton.mp new]
        exact (faithful.sets existing ready.1).extend ready.2
  | withAttributes instrument set =>
      refine ⟨?_, faithful.sets, ?_, faithful.recorded, ?_⟩
      · intro other member
        rcases List.mem_append.mp member with old | new
        · exact faithful.named other old
        · rw [List.mem_singleton.mp new]
          exact faithful.named instrument ready.1
      · intro other member
        rcases List.mem_append.mp member with old | new
        · exact faithful.bound other old
        · rw [List.mem_singleton.mp new]
          exact faithful.sets set ready.2
      · intro observation member
        obtain ⟨there, accepts⟩ := faithful.through observation member
        exact ⟨List.mem_append_left _ there, accepts⟩
  | record instrument value =>
      refine ⟨faithful.named, faithful.sets, faithful.bound, ?_, ?_⟩
      · simp only [effect, Ledger.effect, faithful.recorded, List.map_append, List.map_singleton]
      · intro observation member
        rcases List.mem_append.mp member with old | new
        · exact faithful.through observation old
        · rw [List.mem_singleton.mp new]
          exact ready
  | drain =>
      obtain ⟨created, recorded⟩ := drain_history state.ledger
      refine ⟨?_, faithful.sets, faithful.bound, ?_, faithful.through⟩
      · simp only [effect, created]
        exact faithful.named
      · simp only [effect, recorded]
        exact faithful.recorded

/-- The ledger takes its own steps. -/
theorem ledger_step (faithful : state.Faithful)
    (reached : (Ledger.system : GuardedSystem (Ledger Double) _).Reachable state.ledger)
    {action : Action Double} (ready : guard state action) :
    (Ledger.system : GuardedSystem (Ledger Double) _).Reachable (effect state action).ledger := by
  cases action with
  | create kind params => exact reached.step (.create kind.code (kind.params params)) trivial
  | newAttributes attribs => exact reached
  | extendAttributes existing attribs => exact reached
  | withAttributes instrument set => exact reached
  | record instrument value =>
      refine reached.step (.record _) ?_
      exact List.mem_map_of_mem (faithful.named instrument ready.1)
  | drain => exact reached.step .drain trivial

theorem faithful (reached : system.Reachable state) : state.Faithful ∧
    (Ledger.system : GuardedSystem (Ledger Double) _).Reachable state.ledger := by
  have invariant : (system : GuardedSystem (CoreMeter Double) _).Invariant fun state =>
      state.Faithful ∧
        (Ledger.system : GuardedSystem (Ledger Double) _).Reachable state.ledger := by
    refine ⟨⟨faithful_start, .start⟩, ?_⟩
    intro state action _ before ready
    exact ⟨faithful_step before.1 ready, ledger_step before.1 before.2 ready⟩
  exact invariant.reachable reached

end CoreMeter

end KtBridge.Metrics
