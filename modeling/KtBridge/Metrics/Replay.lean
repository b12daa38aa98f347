import KtBridge.Metrics.Instruments

/-! # Replaying batches into the application's meter

`CoreMetricsBridge` keeps one OpenTelemetry instrument for each id it was told of, and calls it
once for each update. Attributes and instruments of OpenTelemetry are outside; what an attribute
builder does is a parameter.
-/

namespace KtBridge.Metrics

open Foundation

variable {Double Attributes : Type}

/-- OpenTelemetry's attributes: the builder, seen as the attributes it would build. -/
structure AttributesApi (Double Attributes : Type) where
  empty : Attributes
  put : Attributes → String → AttributeValue Double → Attributes
  get : Attributes → String → Option (AttributeValue Double)

/-- A value that is put replaces that of its key, unless the key is empty. -/
structure AttributesApi.Lawful (api : AttributesApi Double Attributes) : Prop where
  get_empty : ∀ key, api.get api.empty key = none
  get_put : ∀ attributes key value, key ≠ "" →
    api.get (api.put attributes key value) =
      Function.update (api.get attributes) key (some value)

/-- What the builders of a `Meter` build. -/
inductive InstrumentType where
  | longCounter
  | longGauge
  | doubleGauge
  | longHistogram
  | doubleHistogram
  | longUpDownCounter
  deriving DecidableEq

structure OtelInstrument where
  type : InstrumentType
  name : String
  description : String
  unit : String
  deriving DecidableEq

inductive CallValue (Double : Type) where
  | long (value : Int64)
  | double (value : Double)
  deriving DecidableEq

/-- One `add`, `set` or `record` on an OpenTelemetry instrument. -/
structure OtelCall (Double Attributes : Type) where
  instrument : OtelInstrument
  value : CallValue Double
  attributes : Attributes

/-- `getIntValue`, zero when another value is set. -/
def MetricUpdate.intValue (update : MetricUpdate Double) : Int64 :=
  match update.value with
  | some (.intValue value) => value
  | _ => 0

def MetricUpdate.doubleValue [Zero Double] (update : MetricUpdate Double) : Double :=
  match update.value with
  | some (.doubleValue value) => value
  | _ => 0

namespace CoreMetricsBridge

/-- The instruments by id; an entry stands for the function that calls it. -/
abbrev Cache := AList fun _ : Nat => OtelInstrument

def instrument (definition : MetricDefinition) : Except String OtelInstrument :=
  let build := fun type => OtelInstrument.mk type definition.name definition.description
    definition.unit
  match definition.kind.toNat with
  | 0 => .ok (build .longCounter)
  | 1 => .ok (build .longGauge)
  | 2 => .ok (build .doubleGauge)
  | 3 | 5 => .ok (build .longHistogram)
  | 4 => .ok (build .doubleHistogram)
  | 6 => .ok (build .longUpDownCounter)
  | _ => .error ("Unknown Core metric kind " ++ toString definition.kind.toInt32.toInt)

/-- What the function of an instrument does with an update. -/
def invoke [Zero Double] (instrument : OtelInstrument) (update : MetricUpdate Double)
    (attributes : Attributes) : OtelCall Double Attributes where
  instrument := instrument
  value := match instrument.type with
    | .longCounter | .longGauge | .longHistogram | .longUpDownCounter => .long update.intValue
    | .doubleGauge | .doubleHistogram => .double update.doubleValue
  attributes := attributes

def attributes (api : AttributesApi Double Attributes) (update : MetricUpdate Double) :
    Attributes :=
  update.attributes.foldl
    (fun attributes pair =>
      match pair.value with
      | some value => api.put attributes pair.key value
      | none => attributes)
    api.empty

/-- `instruments.getOrPut(definition.id) { instrument(definition) }`. -/
def getOrPut (cache : Cache) (definition : MetricDefinition) : Except String Cache :=
  match cache.lookup definition.id with
  | some _ => .ok cache
  | none =>
      match instrument definition with
      | .ok built => .ok (cache.insert definition.id built)
      | .error message => .error message

def record [Zero Double] (api : AttributesApi Double Attributes) (cache : Cache)
    (batch : MetricBatch Double) : Except String (Cache × List (OtelCall Double Attributes)) :=
  match batch.definitions.foldlM getOrPut cache with
  | .error message => .error message
  | .ok cache =>
      .ok (cache, batch.updates.filterMap fun update =>
        (cache.lookup update.instrument).map fun instrument =>
          invoke instrument update (attributes api update))

/-- Batches passed one after the other to one bridge. -/
def replay [Zero Double] (api : AttributesApi Double Attributes) :
    Cache → List (MetricBatch Double) →
      Except String (Cache × List (OtelCall Double Attributes))
  | cache, [] => .ok (cache, [])
  | cache, batch :: rest =>
      match record api cache batch with
      | .error message => .error message
      | .ok (cache, calls) =>
          match replay api cache rest with
          | .error message => .error message
          | .ok (cache, later) => .ok (cache, calls ++ later)

end CoreMetricsBridge

/-- The OpenTelemetry instrument for a kind. -/
def Kind.otel : Kind → InstrumentType
  | counter => .longCounter
  | gauge => .longGauge
  | gaugeF64 => .doubleGauge
  | histogram => .longHistogram
  | histogramF64 => .doubleHistogram
  | histogramDuration => .longHistogram
  | upDownCounter => .longUpDownCounter

/-- Whether an instrument takes integers. -/
def Kind.integral : Kind → Bool
  | gaugeF64 | histogramF64 => false
  | _ => true

/-- Whether a value is an integer. -/
def CoreValue.integral : CoreValue Double → Bool
  | f64 _ => false
  | _ => true

theorem accepts_integral {kind : Kind} {value : CoreValue Double} (accepts : kind.accepts value) :
    kind.integral = value.integral := by
  cases kind <;> cases value <;> first
    | rfl
    | exact absurd accepts Bool.false_ne_true

/-- A value keeps its type; it is saturated where it does not fit. -/
def Carries : CoreValue Double → CallValue Double → Prop
  | .u64 value, .long sent => sent.toInt = min (value.toNat : Int) (2 ^ 63 - 1)
  | .duration value, .long sent => sent.toInt = min (value.asMillis : Int) (2 ^ 63 - 1)
  | .i64 value, .long sent => sent = value
  | .f64 value, .double sent => sent = value
  | _, _ => False

/-- An attribute value of the same type. -/
def OtelValue.toProto : OtelValue Double → AttributeValue Double
  | string value => .stringValue value
  | i64 value => .intValue value
  | f64 value => .doubleValue value
  | bool value => .boolValue value

/-- The call that an observation asks for. -/
structure Replays (api : AttributesApi Double Attributes) (observation : Observation Double)
    (call : OtelCall Double Attributes) : Prop where
  name : call.instrument.name = observation.instrument.name
  type : call.instrument.type = observation.instrument.kind.otel
  value : Carries observation.value call.value
  attributes : ∀ key, api.get call.attributes key =
    (written observation.instrument.set.writes key).map OtelValue.toProto

namespace CoreMetricsBridge

section Cache

variable {meter : BridgeMeter Double} {cache : Cache}

/-- The instrument built for a definition of a known kind. -/
def built (kind : Kind) (definition : MetricDefinition) : OtelInstrument where
  type := kind.otel
  name := definition.name
  description := definition.description
  unit := definition.unit

theorem instrument_built {kind : Kind} {definition : MetricDefinition}
    (known : definition.kind = kind.code) : instrument definition = .ok (built kind definition) := by
  cases kind <;> simp only [instrument, known, Kind.code] <;> rfl

/-- Every cached instrument is that of a definition of the meter. -/
def Sound (meter : BridgeMeter Double) (cache : Cache) : Prop :=
  ∀ id found, cache.lookup id = some found → ∃ definition ∈ meter.definitions,
    definition.id = id ∧ ∃ kind : Kind, definition.kind = kind.code ∧ found = built kind definition

theorem getOrPut_spec (sound : Sound meter cache) {definition : MetricDefinition}
    (there : definition ∈ meter.definitions) {kind : Kind} (known : definition.kind = kind.code) :
    ∃ next, getOrPut cache definition = .ok next ∧ Sound meter next ∧
      (next.lookup definition.id).isSome ∧
      ∀ id, (cache.lookup id).isSome → (next.lookup id).isSome := by
  cases cached : cache.lookup definition.id with
  | some found =>
      refine ⟨cache, ?_, sound, ?_, fun _ before => before⟩
      · simp only [getOrPut, cached]
      · rw [cached]
        rfl
  | none =>
      refine ⟨cache.insert definition.id (built kind definition), ?_, ?_, ?_, ?_⟩
      · simp only [getOrPut, cached, instrument_built known]
      · intro id found looked
        rcases lookup_of_insert looked with old | ⟨rfl, rfl⟩
        · exact sound id found old
        · exact ⟨definition, there, rfl, kind, known, rfl⟩
      · rw [AList.lookup_insert]
        rfl
      · intro id before
        by_cases here : id = definition.id
        · rw [here, AList.lookup_insert]
          rfl
        · rw [AList.lookup_insert_ne here]
          exact before

/-- After the definitions of a batch every one of them is cached. -/
theorem definitions_spec {definitions : List MetricDefinition} :
    ∀ {cache : Cache}, Sound meter cache → (∀ definition ∈ definitions,
      definition ∈ meter.definitions ∧ ∃ kind : Kind, definition.kind = kind.code) →
    ∃ next, definitions.foldlM getOrPut cache = .ok next ∧ Sound meter next ∧
      (∀ definition ∈ definitions, (next.lookup definition.id).isSome) ∧
      ∀ id, (cache.lookup id).isSome → (next.lookup id).isSome := by
  induction definitions with
  | nil =>
      intro cache sound _
      exact ⟨cache, rfl, sound, fun _ member => absurd member List.not_mem_nil, fun _ before => before⟩
  | cons definition rest ih =>
      intro cache sound all
      obtain ⟨there, kind, known⟩ := all definition List.mem_cons_self
      obtain ⟨first, put, soundFirst, cached, kept⟩ := getOrPut_spec sound there known
      obtain ⟨next, folded, soundNext, others, keptLater⟩ :=
        ih soundFirst fun other member => all other (List.mem_cons_of_mem _ member)
      refine ⟨next, ?_, soundNext, ?_, fun id before => keptLater id (kept id before)⟩
      · rw [List.foldlM_cons, put]
        exact folded
      · intro other member
        rcases List.mem_cons.mp member with rfl | later
        · exact keptLater _ cached
        · exact others other later

end Cache

section Calls

variable [Zero Double] {api : AttributesApi Double Attributes} {meter : BridgeMeter Double}

/-- The call made for an update, by the definition of its instrument. -/
def Calls (api : AttributesApi Double Attributes) (meter : BridgeMeter Double)
    (update : MetricUpdate Double) (call : OtelCall Double Attributes) : Prop :=
  ∃ definition ∈ meter.definitions, definition.id = update.instrument ∧
    ∃ kind : Kind, definition.kind = kind.code ∧
      call = invoke (built kind definition) update (attributes api update)

/-- Updates of cached instruments give one call each. -/
theorem updates_spec {cache : Cache} (sound : Sound meter cache)
    {updates : List (MetricUpdate Double)}
    (cached : ∀ update ∈ updates, (cache.lookup update.instrument).isSome) :
    List.Forall₂ (Calls api meter) updates (updates.filterMap fun update =>
      (cache.lookup update.instrument).map fun instrument =>
        invoke instrument update (attributes api update)) := by
  induction updates with
  | nil => exact .nil
  | cons update rest ih =>
      obtain ⟨found, looked⟩ := Option.isSome_iff_exists.mp (cached update List.mem_cons_self)
      obtain ⟨definition, there, same, kind, known, rfl⟩ := sound _ _ looked
      rw [List.filterMap_cons_some (by rw [looked]; rfl)]
      refine .cons ⟨definition, there, same, kind, known, rfl⟩ (ih ?_)
      exact fun other member => cached other (List.mem_cons_of_mem _ member)

/-- One batch that defines what it mentions. -/
theorem record_spec {cache : Cache} (sound : Sound meter cache) {batch : MetricBatch Double}
    (defines : Ledger.Defines meter batch)
    (kinds : ∀ definition ∈ batch.definitions, ∃ kind : Kind, definition.kind = kind.code) :
    ∃ next calls, record api cache batch = .ok (next, calls) ∧ Sound meter next ∧
      List.Forall₂ (Calls api meter) batch.updates calls := by
  obtain ⟨next, folded, soundNext, cached, _⟩ := definitions_spec sound
    fun definition member => ⟨defines.same definition member, kinds definition member⟩
  refine ⟨next, _, by simp only [record, folded], soundNext, updates_spec soundNext ?_⟩
  intro update member
  obtain ⟨definition, there, same⟩ :=
    List.mem_map.mp ((defines.mentioned update.instrument).mpr ⟨update, member, rfl⟩)
  rw [← same]
  exact cached definition there

/-- Batches that define what they mention, one after the other. -/
theorem replay_spec {batches : List (MetricBatch Double)} :
    ∀ {cache : Cache}, Sound meter cache →
      (∀ batch ∈ batches, Ledger.Defines meter batch ∧
        ∀ definition ∈ batch.definitions, ∃ kind : Kind, definition.kind = kind.code) →
      ∃ next calls, replay api cache batches = .ok (next, calls) ∧
        List.Forall₂ (Calls api meter) (batches.flatMap fun batch => batch.updates) calls := by
  induction batches with
  | nil =>
      intro cache _ _
      exact ⟨cache, [], rfl, .nil⟩
  | cons batch rest ih =>
      intro cache sound all
      obtain ⟨defines, kinds⟩ := all batch List.mem_cons_self
      obtain ⟨first, calls, recorded, soundFirst, called⟩ : ∃ first calls,
          record api cache batch = .ok (first, calls) ∧ Sound meter first ∧
            List.Forall₂ (Calls api meter) batch.updates calls := record_spec sound defines kinds
      obtain ⟨next, later, replayed, calledLater⟩ :=
        ih soundFirst fun other member => all other (List.mem_cons_of_mem _ member)
      refine ⟨next, calls ++ later, by simp only [replay, recorded, replayed], ?_⟩
      rw [List.flatMap_cons]
      exact List.rel_append called calledLater

end Calls

end CoreMetricsBridge

section Observations

variable [Zero Double] {api : AttributesApi Double Attributes}

omit [Zero Double] in
/-- Putting attributes one by one leaves what was written last. -/
theorem get_puts (lawful : api.Lawful) (kvs : List (KeyValue Double))
    (keys : ∀ pair ∈ kvs, pair.key ≠ "") (key : String) :
    api.get ((attributesToProto (.otel kvs)).foldl
      (fun attributes pair =>
        match pair.value with
        | some value => api.put attributes pair.key value
        | none => attributes)
      api.empty) key = (written kvs key).map OtelValue.toProto := by
  induction kvs using List.reverseRecOn with
  | nil => exact lawful.get_empty key
  | append_singleton kvs last ih =>
      have nonempty := keys last (List.mem_append_right _ (List.mem_singleton.mpr rfl))
      have before := ih fun pair member => keys pair (List.mem_append_left _ member)
      rw [written_snoc]
      simp only [attributesToProto, List.map_append, List.map_singleton, List.foldl_append,
        List.foldl_cons, List.foldl_nil] at before ⊢
      rw [lawful.get_put _ _ _ nonempty]
      by_cases here : key = last.key
      · rw [here, Function.update_self, Function.update_self]
        cases last.value <;> rfl
      · rw [Function.update_of_ne here, Function.update_of_ne here]
        exact before

omit [Zero Double] in
/-- The attributes that are replayed are those that were written. -/
theorem attributes_get (lawful : api.Lawful) {set : AttributeSet Double} (sound : set.Sound)
    {update : MetricUpdate Double} (drained : update.attributes = attributesToProto set.attributes)
    (key : String) : api.get (CoreMetricsBridge.attributes api update) key =
      (written set.writes key).map OtelValue.toProto := by
  rw [CoreMetricsBridge.attributes, drained]
  cases there : set.attributes with
  | empty =>
      rw [sound.empty there]
      exact lawful.get_empty key
  | otel kvs =>
      rw [← sound.holds kvs there]
      exact get_puts lawful kvs (sound.keys kvs there) key

/-- Integers go through the integer field. -/
theorem invoke_long {kind : Kind} (integral : kind.integral) (definition : MetricDefinition)
    {update : MetricUpdate Double} {sent : Int64} (drained : update.value = some (.intValue sent))
    (attributes : Attributes) :
    (CoreMetricsBridge.invoke (CoreMetricsBridge.built kind definition) update attributes).value =
      .long sent := by
  cases kind <;> first
    | exact absurd integral Bool.false_ne_true
    | simp only [CoreMetricsBridge.invoke, CoreMetricsBridge.built, Kind.otel,
        MetricUpdate.intValue, drained]

/-- The others go through the double field. -/
theorem invoke_double {kind : Kind} (fractional : kind.integral = false)
    (definition : MetricDefinition) {update : MetricUpdate Double} {sent : Double}
    (drained : update.value = some (.doubleValue sent)) (attributes : Attributes) :
    (CoreMetricsBridge.invoke (CoreMetricsBridge.built kind definition) update attributes).value =
      .double sent := by
  cases kind <;> first
    | exact absurd fractional.symm Bool.false_ne_true
    | simp only [CoreMetricsBridge.invoke, CoreMetricsBridge.built, Kind.otel,
        MetricUpdate.doubleValue, drained]

/-- The value sent is the value recorded. -/
theorem carries {kind : Kind} {value : CoreValue Double} (accepts : kind.accepts value)
    (definition : MetricDefinition) {update : MetricUpdate Double}
    (drained : update.value = some value.encode) (attributes : Attributes) :
    Carries value (CoreMetricsBridge.invoke (CoreMetricsBridge.built kind definition) update
      attributes).value := by
  have integral := accepts_integral accepts
  cases value with
  | u64 number =>
      rw [invoke_long integral definition drained]
      exact saturated_toInt _
  | f64 number =>
      rw [invoke_double integral definition drained]
      rfl
  | duration number =>
      rw [invoke_long integral definition drained]
      exact saturated_toInt _
  | i64 number =>
      rw [invoke_long integral definition drained]
      rfl

end Observations

section Runs

variable [Zero Double] {api : AttributesApi Double Attributes} {state : CoreMeter Double}

theorem Kind.code_injective : Function.Injective Kind.code := by
  intro first second same
  cases first <;> cases second <;> first | rfl | exact absurd same (by decide)

omit [Zero Double] in
/-- What was drained was observed. -/
theorem observed (faithful : state.Faithful) (accounted : state.ledger.Accounted)
    {entry : Sample Double × Nat} (drained : entry ∈ state.ledger.drained) :
    ∃ observation, state.observations[entry.2]? = some observation ∧
      observation.sample = entry.1 := by
  have member := accounted.kept.subset (List.mem_append_left _ drained)
  have there : state.ledger.recorded[entry.2]? = some entry.1 :=
    List.mem_zipIdx_iff_getElem?.mp member
  rw [faithful.recorded, List.getElem?_map] at there
  obtain ⟨observation, found, same⟩ := Option.map_eq_some_iff.mp there
  exact ⟨observation, found, same⟩

omit [Zero Double] in
/-- The definition of an instrument has its name and kind. -/
theorem definition_of_instrument (faithful : state.Faithful) (named : state.ledger.Named)
    {instrument : Instrument Double} (made : instrument ∈ state.instruments)
    {definition : MetricDefinition} (there : definition ∈ state.ledger.meter.definitions)
    (same : definition.id = instrument.id) :
    definition.name = instrument.name ∧ definition.kind = instrument.kind.code := by
  have pair := (named.bijection (named.handed there) (faithful.named instrument made)).mpr same
  exact ⟨congrArg Prod.fst pair, congrArg Prod.snd pair⟩

/-- The call for a drained update is the one its observation asks for. -/
theorem replays_of_calls (lawful : api.Lawful) (faithful : state.Faithful)
    (named : state.ledger.Named) {observation : Observation Double}
    (there : observation ∈ state.observations) {call : OtelCall Double Attributes}
    (called : CoreMetricsBridge.Calls api state.ledger.meter observation.sample.update call) :
    Replays api observation call := by
  obtain ⟨definition, defined, same, kind, known, rfl⟩ := called
  obtain ⟨made, accepts⟩ := faithful.through observation there
  obtain ⟨name, code⟩ := definition_of_instrument faithful named made defined same
  obtain rfl : kind = observation.instrument.kind := Kind.code_injective (known.symm.trans code)
  refine ⟨name, rfl, carries accepts definition rfl _, ?_⟩
  exact attributes_get lawful (faithful.bound _ made) rfl

omit [Zero Double] in
/-- Every update of a batch is a drained one. -/
theorem drained_of_update (accounted : state.ledger.Accounted) {batch : MetricBatch Double}
    (there : batch ∈ state.ledger.batches.map Prod.snd) {update : MetricUpdate Double}
    (member : update ∈ batch.updates) : ∃ entry ∈ state.ledger.drained, entry.1.update = update := by
  obtain ⟨entry, listed, rfl⟩ := List.mem_map.mp there
  have all : update ∈ state.ledger.batches.flatMap fun entry => entry.2.updates :=
    List.mem_flatMap.mpr ⟨entry, listed, member⟩
  rw [accounted.updates] at all
  exact List.mem_map.mp all

omit [Zero Double] in
/-- Every definition of a batch is of a known kind. -/
theorem kinds_known (faithful : state.Faithful) (named : state.ledger.Named)
    (accounted : state.ledger.Accounted) {batch : MetricBatch Double}
    (there : batch ∈ state.ledger.batches.map Prod.snd)
    (defines : Ledger.Defines state.ledger.meter batch) {definition : MetricDefinition}
    (member : definition ∈ batch.definitions) : ∃ kind : Kind, definition.kind = kind.code := by
  obtain ⟨update, updated, same⟩ :=
    (defines.mentioned definition.id).mp (List.mem_map_of_mem member)
  obtain ⟨entry, drained, rfl⟩ := drained_of_update accounted there updated
  obtain ⟨observation, found, sample⟩ := observed faithful accounted drained
  obtain ⟨made, _⟩ := faithful.through observation (List.mem_of_getElem? found)
  have id : definition.id = observation.instrument.id := by
    rw [← same, ← sample]
    rfl
  exact ⟨_, (definition_of_instrument faithful named made (defines.same definition member) id).2⟩

omit [Zero Double] in
/-- The keys of a drained update are all different. -/
theorem keys_once (faithful : state.Faithful) {observation : Observation Double}
    (there : observation ∈ state.observations) :
    (observation.sample.update.attributes.map fun pair => pair.key).Nodup := by
  have sound := faithful.bound _ (faithful.through observation there).1
  change ((attributesToProto observation.instrument.set.attributes).map fun pair => pair.key).Nodup
  cases attributes : observation.instrument.set.attributes with
  | empty => exact List.nodup_nil
  | otel kvs =>
      simp only [attributesToProto, List.map_map]
      exact sound.once kvs attributes

omit [Zero Double] in
/-- Sets and instruments are only added. -/
theorem only_added (state : CoreMeter Double) (action : CoreMeter.Action Double) :
    state.sets <+: (CoreMeter.effect state action).sets ∧
      state.instruments <+: (CoreMeter.effect state action).instruments := by
  cases action with
  | create kind params => exact ⟨List.prefix_rfl, List.prefix_append ..⟩
  | newAttributes attribs => exact ⟨List.prefix_append .., List.prefix_rfl⟩
  | extendAttributes existing attribs => exact ⟨List.prefix_append .., List.prefix_rfl⟩
  | withAttributes instrument set => exact ⟨List.prefix_rfl, List.prefix_append ..⟩
  | record instrument value => exact ⟨List.prefix_rfl, List.prefix_rfl⟩
  | drain => exact ⟨List.prefix_rfl, List.prefix_rfl⟩

end Runs

/-- Every drained update becomes one call, in order, on the instrument it was recorded through,
with its value and with what was written last into its attributes; the keys of an update are all
different; and no step changes attribute sets or instruments that are there. -/
theorem updates_are_replayed [Zero Double] (api : AttributesApi Double Attributes)
    (lawful : api.Lawful) (state : CoreMeter Double) (reached : CoreMeter.system.Reachable state) :
    (∃ cache calls,
      CoreMetricsBridge.replay api ∅ (state.ledger.batches.map Prod.snd) = .ok (cache, calls) ∧
      List.Forall₂ (fun entry call => ∃ observation,
        state.observations[entry.2]? = some observation ∧ observation.sample = entry.1 ∧
          Replays api observation call) state.ledger.drained calls) ∧
    (∀ entry ∈ state.ledger.batches, ∀ update ∈ entry.2.updates,
      (update.attributes.map fun pair => pair.key).Nodup) ∧
    ∀ action, state.sets <+: (CoreMeter.effect state action).sets ∧
      state.instruments <+: (CoreMeter.effect state action).instruments := by
  obtain ⟨faithful, ledger⟩ := CoreMeter.faithful reached
  obtain ⟨named, accounted⟩ := Ledger.kept ledger
  refine ⟨?_, ?_, only_added state⟩
  · have defined : ∀ batch ∈ state.ledger.batches.map Prod.snd,
        Ledger.Defines state.ledger.meter batch := by
      intro batch member
      obtain ⟨entry, listed, rfl⟩ := List.mem_map.mp member
      exact Ledger.batches_define ledger entry listed
    obtain ⟨cache, calls, replayed, called⟩ : ∃ cache calls,
        CoreMetricsBridge.replay api ∅ (state.ledger.batches.map Prod.snd) = .ok (cache, calls) ∧
          List.Forall₂ (CoreMetricsBridge.Calls api state.ledger.meter)
            ((state.ledger.batches.map Prod.snd).flatMap fun batch => batch.updates) calls := by
      apply CoreMetricsBridge.replay_spec
      · intro id found looked
        cases looked
      · intro batch member
        exact ⟨defined batch member, fun definition =>
          kinds_known faithful named accounted member (defined batch member)⟩
    refine ⟨cache, calls, replayed, ?_⟩
    rw [List.flatMap_map, accounted.updates, List.forall₂_map_left_iff] at called
    have among : List.Forall₂ (fun entry call => entry ∈ state.ledger.drained ∧
        CoreMetricsBridge.Calls api state.ledger.meter entry.1.update call)
        state.ledger.drained calls :=
      (List.forall₂_and_left _ _).mpr ⟨fun _ member => member, called⟩
    refine among.imp ?_
    intro entry call both
    obtain ⟨drained, callsEntry⟩ := both
    obtain ⟨observation, found, sample⟩ := observed faithful accounted drained
    rw [← sample] at callsEntry
    exact ⟨observation, found, sample,
      replays_of_calls lawful faithful named (List.mem_of_getElem? found) callsEntry⟩
  · intro entry listed update member
    obtain ⟨drained, there, rfl⟩ :=
      drained_of_update accounted (List.mem_map_of_mem listed) member
    obtain ⟨observation, found, sample⟩ := observed faithful accounted there
    rw [← sample]
    exact keys_once faithful (List.mem_of_getElem? found)

/-- Attributes as the lists of what was put, the latest first. -/
def listed : AttributesApi Nat (List (String × AttributeValue Nat)) where
  empty := []
  put := fun attributes key value => if key = "" then attributes else (key, value) :: attributes
  get := fun attributes key => attributes.lookup key

theorem listed_lawful : listed.Lawful where
  get_empty := fun _ => rfl
  get_put := by
    intro attributes key value nonempty
    funext other
    simp only [listed, nonempty, ↓reduceIte, List.lookup_cons]
    by_cases here : other = key
    · rw [here, Function.update_self, beq_self_eq_true]
    · rw [Function.update_of_ne here, beq_eq_false_iff_ne.mpr here]

/-- A counter bound to attributes of which one is written twice, and a drain. -/
def relabelled : List (CoreMeter.Action Nat) :=
  let requests : MetricParameters := { name := "requests", description := "", unit := "" }
  let old : KeyValue Nat := { key := "poller_type", value := .string "old" }
  let later : KeyValue Nat := { key := "poller_type", value := .string "workflow_task" }
  let base : AttributeSet Nat := { attributes := .otel [old], writes := [old] }
  let set : AttributeSet Nat := { attributes := .otel [later], writes := [old, later] }
  let counter : Instrument Nat :=
    { id := 1, name := "requests", kind := .counter, set := { attributes := .empty, writes := [] } }
  [.create .counter requests, .newAttributes [old], .extendAttributes base [later],
    .withAttributes counter set, .record { counter with set := set } (.u64 7), .drain]

theorem updates_are_replayed_relabelled :
    (CoreMeter.system.after CoreMeter.start relabelled).ledger.drained.length = 1 ∧
      ∃ cache calls, CoreMetricsBridge.replay listed ∅
        ((CoreMeter.system.after CoreMeter.start relabelled).ledger.batches.map Prod.snd) =
          .ok (cache, calls) ∧
        List.Forall₂ (fun entry call => ∃ observation,
          (CoreMeter.system.after CoreMeter.start relabelled).observations[entry.2]? =
            some observation ∧ observation.sample = entry.1 ∧ Replays listed observation call)
          (CoreMeter.system.after CoreMeter.start relabelled).ledger.drained calls := by
  refine ⟨by decide +kernel, ?_⟩
  have runs : CoreMeter.system.Runs CoreMeter.start relabelled := by decide +kernel
  exact (updates_are_replayed listed listed_lawful _
    (GuardedSystem.Reachable.start.run runs)).1

end KtBridge.Metrics
