import Mathlib.Data.Int.Basic
import Mathlib.Data.List.AList
import Mathlib.Data.List.Dedup
import Mathlib.Data.List.Sort

/-! # The buffered meter

Core records through instruments of a `BridgeMeter`, which buffers the updates until the JVM
drains them. The definitions of the instruments live beside the buffer, so an update names its
instrument by an id only. Floating-point values are carried and never computed with; `Double` is
their type.
-/

namespace KtBridge.Metrics

variable {Double : Type}

/-- A scalar value of an attribute, as OpenTelemetry has it. -/
inductive OtelValue (Double : Type) where
  | string (value : String)
  | i64 (value : Int64)
  | f64 (value : Double)
  | bool (value : Bool)
  deriving DecidableEq

structure KeyValue (Double : Type) where
  key : String
  value : OtelValue Double
  deriving DecidableEq

/-- Attributes as Core passes them around: empty, or shared pairs. -/
inductive MetricAttributes (Double : Type) where
  | empty
  | otel (kvs : List (KeyValue Double))
  deriving DecidableEq

/-- The `oneof` of an attribute on the wire. -/
inductive AttributeValue (Double : Type) where
  | stringValue (value : String)
  | intValue (value : Int64)
  | doubleValue (value : Double)
  | boolValue (value : Bool)
  deriving DecidableEq

structure MetricAttribute (Double : Type) where
  key : String
  value : Option (AttributeValue Double)
  deriving DecidableEq

/-- The `oneof` of an update on the wire. -/
inductive MetricValue (Double : Type) where
  | intValue (value : Int64)
  | doubleValue (value : Double)
  deriving DecidableEq

structure MetricUpdate (Double : Type) where
  instrument : Nat
  attributes : List (MetricAttribute Double)
  value : Option (MetricValue Double)
  deriving DecidableEq

structure MetricDefinition where
  id : Nat
  name : String
  description : String
  unit : String
  kind : UInt32
  deriving DecidableEq

structure LogRecord where
  target : String
  message : String
  fieldsJson : String
  level : String
  deriving DecidableEq

structure MetricBatch (Double : Type) where
  definitions : List MetricDefinition
  updates : List (MetricUpdate Double)
  logs : List LogRecord
  deriving DecidableEq

/-- What Core asks for when it makes an instrument. -/
structure MetricParameters where
  name : String
  description : String
  unit : String
  deriving DecidableEq

structure Sample (Double : Type) where
  instrument : Nat
  attributes : MetricAttributes Double
  value : MetricValue Double
  deriving DecidableEq

def maxUpdates : Nat := 65536

/-- The state behind the meter's mutex. -/
structure BridgeMeter (Double : Type) where
  instruments : AList fun _ : String × UInt32 => Nat
  definitions : List MetricDefinition
  updates : List (Sample Double)
  dropped : Nat

/-- `attributes_to_proto`. -/
def attributesToProto : MetricAttributes Double → List (MetricAttribute Double)
  | .empty => []
  | .otel kvs => kvs.map fun pair =>
      { key := pair.key
        value := some (match pair.value with
          | .string value => .stringValue value
          | .i64 value => .intValue value
          | .f64 value => .doubleValue value
          | .bool value => .boolValue value) }

/-- `extend_attributes`: a later value of a key replaces an earlier one. -/
def extendAttributes (existing : MetricAttributes Double) (attribs : List (KeyValue Double)) :
    MetricAttributes Double :=
  let kvs := match existing with
    | .otel kvs => kvs
    | .empty => []
  .otel (attribs.foldl
    (fun kvs pair => kvs.filter (fun existing => existing.key ≠ pair.key) ++ [pair])
    kvs)

def newAttributes (attribs : List (KeyValue Double)) : MetricAttributes Double :=
  extendAttributes .empty attribs

/-- The update that a sample is drained as. -/
def Sample.update (sample : Sample Double) : MetricUpdate Double where
  instrument := sample.instrument
  attributes := attributesToProto sample.attributes
  value := some sample.value

/-- What a batch says about updates that were evicted. -/
def dropLogs (dropped : Nat) : List LogRecord :=
  if dropped = 0 then []
  else
    [{ target := "temporal_kt_bridge::metrics"
       level := "WARN"
       message := "Dropped " ++ toString dropped ++
         " oldest metric updates because the JVM did not drain the buffer in time"
       fieldsJson := "" }]

namespace BridgeMeter

def new : BridgeMeter Double where
  instruments := ∅
  definitions := []
  updates := []
  dropped := 0

/-- The id of an instrument, and the meter with its definition. -/
def instrument (meter : BridgeMeter Double) (kind : UInt32) (params : MetricParameters) :
    Nat × BridgeMeter Double :=
  match meter.instruments.lookup (params.name, kind) with
  | some id => (id, meter)
  | none =>
      let id := meter.definitions.length + 1
      (id,
        { meter with
          definitions := meter.definitions ++ [{
            id := id
            name := params.name
            description := params.description
            unit := params.unit
            kind := kind }]
          instruments := meter.instruments.insert (params.name, kind) id })

/-- `Instrument::record`: the oldest update makes room. -/
def record (meter : BridgeMeter Double) (sample : Sample Double) : BridgeMeter Double :=
  if meter.updates.length = maxUpdates then
    { meter with
      updates := meter.updates.tail ++ [sample]
      dropped := meter.dropped + 1 }
  else { meter with updates := meter.updates ++ [sample] }

/-- The ids that samples mention, in order and without repeats. -/
def mentioned (samples : List (Sample Double)) : List Nat :=
  (samples.map fun sample => sample.instrument).dedup.insertionSort (· ≤ ·)

/-- One drain; `none` is the panic of an id out of bounds. -/
def drain (meter : BridgeMeter Double) : Option (MetricBatch Double × BridgeMeter Double) :=
  match (mentioned meter.updates).mapM fun id => meter.definitions[id - 1]? with
  | none => none
  | some definitions => some
      ({ definitions := definitions
         updates := meter.updates.map Sample.update
         logs := dropLogs meter.dropped },
        { meter with
          updates := []
          dropped := 0 })

end BridgeMeter

theorem mem_mentioned {samples : List (Sample Double)} {id : Nat} :
    id ∈ BridgeMeter.mentioned samples ↔ ∃ sample ∈ samples, sample.instrument = id := by
  rw [BridgeMeter.mentioned, List.mem_insertionSort, List.mem_dedup, List.mem_map]

theorem nodup_mentioned (samples : List (Sample Double)) :
    (BridgeMeter.mentioned samples).Nodup :=
  (List.perm_insertionSort _ _).nodup_iff.mpr (List.nodup_dedup _)

end KtBridge.Metrics
