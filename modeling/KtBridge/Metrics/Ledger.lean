import KtBridge.Foundation.Entries
import KtBridge.Foundation.System
import KtBridge.Foundation.Tally
import KtBridge.Metrics.Meter

/-! # What becomes of every update

Instruments are created, updates recorded and the buffer drained in any order. Every recorded
update is drained, still buffered, or was evicted, and what is left keeps its order; every
batch defines the instruments it mentions and no other, always the same way.
-/

namespace KtBridge.Metrics

open Foundation

variable {Double : Type}

/-- The meter with its history: the instruments handed out, the updates recorded, where each of
them went with its place among the recorded, and each batch with how many updates were
evicted since the one before. -/
structure Ledger (Double : Type) where
  meter : BridgeMeter Double
  created : List ((String × UInt32) × Nat)
  recorded : List (Sample Double)
  drained : List (Sample Double × Nat)
  buffered : List (Sample Double × Nat)
  evicted : List (Sample Double × Nat)
  told : Nat
  batches : List (Nat × MetricBatch Double)
  panicked : Bool

namespace Ledger

def start : Ledger Double where
  meter := .new
  created := []
  recorded := []
  drained := []
  buffered := []
  evicted := []
  told := 0
  batches := []
  panicked := false

inductive Action (Double : Type) where
  | create (kind : UInt32) (params : MetricParameters)
  | record (sample : Sample Double)
  | drain

/-- Updates are recorded through instruments that were handed out. -/
def guard (state : Ledger Double) : Action Double → Prop
  | .create _ _ => True
  | .record sample => sample.instrument ∈ state.created.map Prod.snd
  | .drain => True

instance decidableGuard (state : Ledger Double) (action : Action Double) :
    Decidable (guard state action) :=
  match action with
  | .create _ _ => isTrue trivial
  | .record sample => inferInstanceAs (Decidable (sample.instrument ∈ state.created.map Prod.snd))
  | .drain => isTrue trivial

def effect (state : Ledger Double) : Action Double → Ledger Double
  | .create kind params =>
      { state with
        meter := (state.meter.instrument kind params).2
        created := state.created ++
          [((params.name, kind), (state.meter.instrument kind params).1)] }
  | .record sample =>
      let entry := (sample, state.recorded.length)
      { state with
        meter := state.meter.record sample
        recorded := state.recorded ++ [sample]
        buffered := (if state.meter.updates.length = maxUpdates then state.buffered.tail
          else state.buffered) ++ [entry]
        evicted := state.evicted ++
          if state.meter.updates.length = maxUpdates then state.buffered.head?.toList else [] }
  | .drain =>
      match state.meter.drain with
      | none => { state with panicked := true }
      | some (batch, meter) =>
          { state with
            meter := meter
            drained := state.drained ++ state.buffered
            buffered := []
            told := state.evicted.length
            batches := state.batches ++ [(state.evicted.length - state.told, batch)] }

def system : GuardedSystem (Ledger Double) (Action Double) where
  start := start
  guard := guard
  effect := effect

instance (state : Ledger Double) (action : Action Double) :
    Decidable ((system : GuardedSystem (Ledger Double) _).guard state action) :=
  inferInstanceAs (Decidable (guard state action))

/-- Every update that was recorded went to one place. -/
structure Accounted (state : Ledger Double) : Prop where
  buffer : state.meter.updates = state.buffered.map Prod.fst
  kept : (state.drained ++ state.buffered).Sublist state.recorded.zipIdx
  all : (state.drained ++ state.buffered ++ state.evicted).Perm state.recorded.zipIdx
  room : state.meter.updates.length ≤ maxUpdates
  dropped : state.told + state.meter.dropped = state.evicted.length
  reported : (state.batches.map Prod.fst).sum = state.told
  logs : ∀ entry ∈ state.batches, entry.2.logs = dropLogs entry.1
  updates : (state.batches.flatMap fun entry => entry.2.updates) =
    state.drained.map fun entry => entry.1.update

/-- Ids and definitions go together. -/
structure Named (state : Ledger Double) : Prop where
  numbered : ∀ place definition, state.meter.definitions[place]? = some definition →
    definition.id = place + 1 ∧
      state.meter.instruments.lookup (definition.name, definition.kind) = some definition.id
  found : ∀ key id, state.meter.instruments.lookup key = some id →
    ∃ definition, state.meter.definitions[id - 1]? = some definition ∧ definition.id = id ∧
      (definition.name, definition.kind) = key
  created : ∀ key id, (key, id) ∈ state.created ↔ state.meter.instruments.lookup key = some id
  mentions : ∀ sample ∈ state.meter.updates, ∃ key,
    state.meter.instruments.lookup key = some sample.instrument

section Ids

variable {state : Ledger Double}

/-- Lookups that all succeed succeed together. -/
theorem mapM_some {Key Value : Type} {look : Key → Option Value} {name : Value → Key}
    {good : Value → Prop} {keys : List Key}
    (all : ∀ key ∈ keys, ∃ value, look key = some value ∧ name value = key ∧ good value) :
    ∃ values, keys.mapM look = some values ∧ values.map name = keys ∧ ∀ value ∈ values, good value := by
  induction keys with
  | nil => exact ⟨[], rfl, rfl, fun _ member => absurd member List.not_mem_nil⟩
  | cons key rest ih =>
      obtain ⟨value, found, named, holds⟩ := all key List.mem_cons_self
      obtain ⟨values, looked, names, hold⟩ :=
        ih fun key member => all key (List.mem_cons_of_mem _ member)
      refine ⟨value :: values, ?_, ?_, ?_⟩
      · rw [List.mapM_cons, found, looked]
        rfl
      · rw [List.map_cons, named, names]
      · intro other member
        rcases List.mem_cons.mp member with rfl | later
        · exact holds
        · exact hold other later

/-- What is in a list with one more item is that item, or was in it. -/
theorem getElem?_snoc {Item : Type} {items : List Item} {last item : Item} {place : Nat}
    (there : (items ++ [last])[place]? = some item) :
    items[place]? = some item ∨ place = items.length ∧ item = last := by
  rcases Nat.lt_or_ge place items.length with inside | beyond
  · rw [List.getElem?_append_left inside] at there
    exact Or.inl there
  · rw [List.getElem?_append_right beyond, List.getElem?_singleton] at there
    split at there
    · next first => exact Or.inr ⟨by omega, (Option.some.inj there).symm⟩
    · cases there

/-- What a drain gives: the definitions of exactly the instruments mentioned. -/
structure Drains (meter : BridgeMeter Double) (batch : MetricBatch Double) : Prop where
  ids : batch.definitions.map (fun definition => definition.id) = BridgeMeter.mentioned meter.updates
  defined : ∀ definition ∈ batch.definitions, definition ∈ meter.definitions
  updates : batch.updates = meter.updates.map Sample.update
  logs : batch.logs = dropLogs meter.dropped

/-- No drain goes out of bounds. -/
theorem drain_spec (named : state.Named) : ∃ batch,
    state.meter.drain = some (batch, { state.meter with
      updates := []
      dropped := 0 }) ∧ Drains state.meter batch := by
  have all : ∀ id ∈ BridgeMeter.mentioned state.meter.updates,
      ∃ definition, state.meter.definitions[id - 1]? = some definition ∧
        definition.id = id ∧ definition ∈ state.meter.definitions := by
    intro id member
    obtain ⟨sample, buffered, rfl⟩ := mem_mentioned.mp member
    obtain ⟨key, known⟩ := named.mentions sample buffered
    obtain ⟨definition, there, same, _⟩ := named.found key sample.instrument known
    exact ⟨definition, there, same, List.mem_of_getElem? there⟩
  obtain ⟨definitions, looked, ids, defined⟩ := mapM_some all
  exact ⟨_, by rw [BridgeMeter.drain, looked], ids, defined, rfl, rfl⟩

/-- The state after a drain. -/
theorem effect_drain (named : state.Named) : ∃ batch, Drains state.meter batch ∧
    effect state .drain = { state with
      meter := { state.meter with
        updates := []
        dropped := 0 }
      drained := state.drained ++ state.buffered
      buffered := []
      told := state.evicted.length
      batches := state.batches ++ [(state.evicted.length - state.told, batch)] } := by
  obtain ⟨batch, drained, drains⟩ := drain_spec named
  exact ⟨batch, drains, by simp only [effect, drained]⟩

theorem Named.create (named : state.Named) (kind : UInt32) (params : MetricParameters) :
    (effect state (.create kind params)).Named := by
  cases known : state.meter.instruments.lookup (params.name, kind) with
  | some id =>
      simp only [effect, BridgeMeter.instrument, known]
      refine ⟨named.numbered, named.found, ?_, named.mentions⟩
      intro key other
      simp only [List.mem_append, List.mem_singleton, Prod.mk.injEq]
      constructor
      · rintro (old | ⟨rfl, rfl⟩)
        · exact (named.created key other).mp old
        · exact known
      · exact fun found => Or.inl ((named.created key other).mpr found)
  | none =>
      have elsewhere : ∀ {key id}, state.meter.instruments.lookup key = some id →
          key ≠ (params.name, kind) := by
        rintro key id found rfl
        rw [known] at found
        cases found
      simp only [effect, BridgeMeter.instrument, known]
      constructor
      · intro place definition there
        rcases getElem?_snoc there with old | ⟨rfl, rfl⟩
        · obtain ⟨numbered, registered⟩ := named.numbered place definition old
          exact ⟨numbered, (AList.lookup_insert_ne (elsewhere registered)).trans registered⟩
        · exact ⟨rfl, AList.lookup_insert ..⟩
      · intro key id found
        rcases lookup_of_insert found with old | ⟨rfl, rfl⟩
        · obtain ⟨definition, there, same, named⟩ := named.found key id old
          refine ⟨definition, ?_, same, named⟩
          rw [List.getElem?_append_left (List.getElem?_eq_some_iff.mp there).1]
          exact there
        · exact ⟨_, List.getElem?_concat_length, rfl, rfl⟩
      · intro key other
        simp only [List.mem_append, List.mem_singleton, Prod.mk.injEq]
        constructor
        · rintro (old | ⟨rfl, rfl⟩)
          · have found := (named.created key other).mp old
            exact (AList.lookup_insert_ne (elsewhere found)).trans found
          · exact AList.lookup_insert ..
        · intro found
          rcases lookup_of_insert found with old | new
          · exact Or.inl ((named.created key other).mpr old)
          · exact Or.inr new
      · intro sample buffered
        obtain ⟨key, found⟩ := named.mentions sample buffered
        exact ⟨key, (AList.lookup_insert_ne (elsewhere found)).trans found⟩

@[simp] theorem record_instruments (meter : BridgeMeter Double) (sample : Sample Double) :
    (meter.record sample).instruments = meter.instruments := by
  unfold BridgeMeter.record
  split <;> rfl

@[simp] theorem record_definitions (meter : BridgeMeter Double) (sample : Sample Double) :
    (meter.record sample).definitions = meter.definitions := by
  unfold BridgeMeter.record
  split <;> rfl

theorem Named.record (named : state.Named) {sample : Sample Double}
    (ready : guard state (.record sample)) : (effect state (.record sample)).Named := by
  constructor
  · simp only [effect, record_definitions, record_instruments]
    exact named.numbered
  · simp only [effect, record_definitions, record_instruments]
    exact named.found
  · simp only [effect, record_instruments]
    exact named.created
  · intro other buffered
    simp only [effect, record_instruments]
    have which : other ∈ state.meter.updates ∨ other = sample := by
      simp only [effect, BridgeMeter.record] at buffered
      split at buffered
      · rcases List.mem_append.mp buffered with old | new
        · exact Or.inl (List.mem_of_mem_tail old)
        · exact Or.inr (List.mem_singleton.mp new)
      · rcases List.mem_append.mp buffered with old | new
        · exact Or.inl old
        · exact Or.inr (List.mem_singleton.mp new)
    rcases which with old | rfl
    · exact named.mentions other old
    · obtain ⟨⟨key, id⟩, created, same⟩ := List.mem_map.mp ready
      refine ⟨key, ?_⟩
      rw [← same]
      exact (named.created key id).mp created

theorem Named.drain (named : state.Named) : (effect state .drain).Named := by
  obtain ⟨batch, _, after⟩ := effect_drain named
  rw [after]
  exact ⟨named.numbered, named.found, named.created, fun _ member => absurd member List.not_mem_nil⟩

theorem named_step (named : state.Named) {action : Action Double} (ready : guard state action) :
    (effect state action).Named := by
  cases action with
  | create kind params => exact named.create kind params
  | record sample => exact named.record ready
  | drain => exact named.drain

end Ids

section Accounts

variable {state : Ledger Double}

@[simp] theorem instrument_updates (meter : BridgeMeter Double) (kind : UInt32)
    (params : MetricParameters) : (meter.instrument kind params).2.updates = meter.updates := by
  unfold BridgeMeter.instrument
  split <;> rfl

@[simp] theorem instrument_dropped (meter : BridgeMeter Double) (kind : UInt32)
    (params : MetricParameters) : (meter.instrument kind params).2.dropped = meter.dropped := by
  unfold BridgeMeter.instrument
  split <;> rfl

theorem Accounted.create (accounted : state.Accounted) (kind : UInt32) (params : MetricParameters) :
    (effect state (.create kind params)).Accounted := by
  constructor <;> simp only [effect, instrument_updates, instrument_dropped]
  · exact accounted.buffer
  · exact accounted.kept
  · exact accounted.all
  · exact accounted.room
  · exact accounted.dropped
  · exact accounted.reported
  · exact accounted.logs
  · exact accounted.updates

/-- The oldest update makes room for the new one. -/
theorem Accounted.overflow (accounted : state.Accounted) (sample : Sample Double)
    (full : state.meter.updates.length = maxUpdates) :
    (effect state (.record sample)).Accounted := by
  obtain ⟨oldest, later, buffered⟩ : ∃ oldest later, state.buffered = oldest :: later := by
    apply List.exists_cons_of_length_pos
    rw [← List.length_map Prod.fst, ← accounted.buffer, full]
    decide
  have numbered : (state.recorded ++ [sample]).zipIdx =
      state.recorded.zipIdx ++ [(sample, state.recorded.length)] := by
    simp [List.zipIdx_append]
  constructor <;> simp only [effect, BridgeMeter.record, full, ↓reduceIte, buffered, List.tail_cons,
    List.head?_cons, Option.toList_some, numbered]
  · simp only [accounted.buffer, buffered, List.map_cons, List.tail_cons, List.map_append,
      List.map_nil]
  · rw [← List.append_assoc]
    apply List.Sublist.append_right
    apply List.Sublist.trans _ accounted.kept
    rw [buffered]
    exact (List.sublist_cons_self oldest later).append_left _
  · have all := accounted.all
    rw [buffered] at all
    rw [← Multiset.coe_eq_coe] at all ⊢
    simp only [← Multiset.coe_add, coe_cons, Multiset.coe_nil, add_zero] at all ⊢
    rw [← all]
    abel
  · have room : 0 < maxUpdates := by decide
    simp only [List.length_append, List.length_tail, full, List.length_singleton]
    omega
  · have dropped := accounted.dropped
    simp only [List.length_append, List.length_singleton]
    omega
  · exact accounted.reported
  · exact accounted.logs
  · exact accounted.updates

theorem Accounted.record (accounted : state.Accounted) (sample : Sample Double) :
    (effect state (.record sample)).Accounted := by
  by_cases full : state.meter.updates.length = maxUpdates
  · exact accounted.overflow sample full
  have numbered : (state.recorded ++ [sample]).zipIdx =
      state.recorded.zipIdx ++ [(sample, state.recorded.length)] := by
    simp [List.zipIdx_append]
  constructor <;> simp only [effect, BridgeMeter.record, full, ↓reduceIte, List.append_nil, numbered]
  · simp only [accounted.buffer, List.map_append, List.map_cons, List.map_nil]
  · rw [← List.append_assoc]
    exact accounted.kept.append_right _
  · have all := accounted.all
    rw [← Multiset.coe_eq_coe] at all ⊢
    simp only [← Multiset.coe_add] at all ⊢
    rw [← all]
    abel
  · have room := accounted.room
    simp only [List.length_append, List.length_singleton]
    omega
  · exact accounted.dropped
  · exact accounted.reported
  · exact accounted.logs
  · exact accounted.updates

theorem Accounted.drain (accounted : state.Accounted) (named : state.Named) :
    (effect state .drain).Accounted := by
  obtain ⟨batch, drains, after⟩ := effect_drain named
  have dropped := accounted.dropped
  rw [after]
  constructor
  · rfl
  · rw [List.append_nil]
    exact accounted.kept
  · rw [List.append_nil]
    exact accounted.all
  · exact Nat.zero_le _
  · rfl
  · rw [List.map_append, List.sum_append, accounted.reported, List.map_singleton, List.sum_singleton]
    exact Nat.add_sub_of_le (by omega)
  · intro entry member
    rcases List.mem_append.mp member with old | new
    · exact accounted.logs entry old
    · rw [List.mem_singleton.mp new, drains.logs]
      exact congrArg dropLogs (by omega)
  · simp only [List.flatMap_append, accounted.updates, List.flatMap_singleton, drains.updates,
      accounted.buffer, List.map_append, List.map_map]
    rfl

end Accounts

theorem named_start : (start : Ledger Double).Named := by
  constructor <;> simp [start, BridgeMeter.new]

theorem accounted_start : (start : Ledger Double).Accounted := by
  constructor <;> simp [start, BridgeMeter.new]

/-- Ids, definitions and updates in every reachable state. -/
theorem kept {state : Ledger Double} (reached : system.Reachable state) :
    state.Named ∧ state.Accounted := by
  have invariant : (system : GuardedSystem (Ledger Double) _).Invariant fun state =>
      state.Named ∧ state.Accounted := by
    refine ⟨⟨named_start, accounted_start⟩, ?_⟩
    intro state action _ before ready
    refine ⟨named_step before.1 ready, ?_⟩
    cases action with
    | create kind params => exact before.2.create kind params
    | record sample => exact before.2.record sample
    | drain => exact before.2.drain before.1
  exact invariant.reachable reached

section Batches

variable {state : Ledger Double}

/-- A batch defines what it mentions, once and as the meter does. -/
structure Defines (meter : BridgeMeter Double) (batch : MetricBatch Double) : Prop where
  once : (batch.definitions.map fun definition => definition.id).Nodup
  mentioned : ∀ id, id ∈ batch.definitions.map (fun definition => definition.id) ↔
    ∃ update ∈ batch.updates, update.instrument = id
  same : ∀ definition ∈ batch.definitions, definition ∈ meter.definitions

theorem Drains.defines {meter next : BridgeMeter Double} {batch : MetricBatch Double}
    (drains : Drains meter batch) (definitions : next.definitions = meter.definitions) :
    Defines next batch where
  once := by
    rw [drains.ids]
    exact nodup_mentioned meter.updates
  mentioned := by
    intro id
    rw [drains.ids, mem_mentioned, drains.updates]
    constructor
    · rintro ⟨sample, buffered, rfl⟩
      exact ⟨sample.update, List.mem_map_of_mem buffered, rfl⟩
    · rintro ⟨update, there, rfl⟩
      obtain ⟨sample, buffered, rfl⟩ := List.mem_map.mp there
      exact ⟨sample, buffered, rfl⟩
  same := by
    rw [definitions]
    exact drains.defined

/-- Definitions are only added. -/
theorem instrument_definitions (meter : BridgeMeter Double) (kind : UInt32)
    (params : MetricParameters) {definition : MetricDefinition}
    (there : definition ∈ meter.definitions) :
    definition ∈ (meter.instrument kind params).2.definitions := by
  unfold BridgeMeter.instrument
  split
  · exact there
  · exact List.mem_append_left _ there

/-- Every batch drained so far is defined as the meter defines it now. -/
theorem batches_define {state : Ledger Double} (reached : system.Reachable state) :
    ∀ entry ∈ state.batches, Defines state.meter entry.2 := by
  have invariant : (system : GuardedSystem (Ledger Double) _).Invariant fun state =>
      ∀ entry ∈ state.batches, Defines state.meter entry.2 := by
    refine ⟨fun entry member => absurd member List.not_mem_nil, ?_⟩
    intro state action reached before _ entry member
    cases action with
    | create kind params =>
        obtain ⟨once, mentioned, same⟩ := before entry member
        exact ⟨once, mentioned, fun definition there =>
          instrument_definitions state.meter kind params (same definition there)⟩
    | record sample =>
        obtain ⟨once, mentioned, same⟩ := before entry member
        refine ⟨once, mentioned, ?_⟩
        simp only [system, effect, record_definitions]
        exact same
    | drain =>
        obtain ⟨batch, drains, after⟩ := effect_drain (kept reached).1
        simp only [system, after] at member ⊢
        rcases List.mem_append.mp member with old | new
        · obtain ⟨once, mentioned, same⟩ := before entry old
          exact ⟨once, mentioned, same⟩
        · rw [List.mem_singleton.mp new]
          exact drains.defines rfl
  exact invariant.reachable reached

/-- The meter has one definition for an id. -/
theorem Named.unique (named : state.Named) {first second : MetricDefinition}
    (left : first ∈ state.meter.definitions) (right : second ∈ state.meter.definitions)
    (same : first.id = second.id) : first = second := by
  obtain ⟨firstPlace, firstThere⟩ := List.mem_iff_getElem?.mp left
  obtain ⟨secondPlace, secondThere⟩ := List.mem_iff_getElem?.mp right
  have firstId := (named.numbered firstPlace first firstThere).1
  have secondId := (named.numbered secondPlace second secondThere).1
  obtain rfl : firstPlace = secondPlace := by omega
  exact Option.some.inj (firstThere.symm.trans secondThere)

/-- An id was handed out for one name and kind, and a name and kind have one id. -/
theorem Named.bijection (named : state.Named) {first second : (String × UInt32) × Nat}
    (left : first ∈ state.created) (right : second ∈ state.created) :
    first.1 = second.1 ↔ first.2 = second.2 := by
  have firstFound := (named.created first.1 first.2).mp left
  have secondFound := (named.created second.1 second.2).mp right
  constructor
  · intro same
    rw [same, secondFound] at firstFound
    exact (Option.some.inj firstFound).symm
  · intro same
    obtain ⟨one, there, _, isFirst⟩ := named.found _ _ firstFound
    obtain ⟨other, here, _, isSecond⟩ := named.found _ _ secondFound
    rw [same, here] at there
    rw [← isFirst, ← isSecond, Option.some.inj there]

/-- A definition is of an instrument that was handed out. -/
theorem Named.handed (named : state.Named) {definition : MetricDefinition}
    (there : definition ∈ state.meter.definitions) :
    ((definition.name, definition.kind), definition.id) ∈ state.created := by
  obtain ⟨place, found⟩ := List.mem_iff_getElem?.mp there
  exact (named.created _ _).mpr (named.numbered place definition found).2

/-- No drain panics. -/
theorem not_panicked {state : Ledger Double} (reached : system.Reachable state) :
    state.panicked = false := by
  have invariant : (system : GuardedSystem (Ledger Double) _).Invariant fun state =>
      state.panicked = false := by
    refine ⟨rfl, ?_⟩
    intro state action reached before _
    cases action with
    | create kind params => exact before
    | record sample => exact before
    | drain =>
        obtain ⟨batch, _, after⟩ := effect_drain (kept reached).1
        simp only [system, after]
        exact before
  exact invariant.reachable reached

end Batches

end Ledger

end KtBridge.Metrics
