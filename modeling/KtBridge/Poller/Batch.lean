import KtBridge.Foundation.Slab
import KtBridge.Queue
import Mathlib.Data.Nat.Log

/-! # Batch buffers

The payloads of one batch share one slab, and a written record points into it. The
slab is reserved for the whole batch before the first payload is copied, so every
payload fits (`BatchBuf.fill_reads_back`), and no copy moves or overwrites what an
earlier record of the batch points at.
-/

namespace KtBridge

open Foundation

/-- A record as it is written to `out`. The payload is an offset into the poller's
slab, or null. -/
structure KtCompletion where
  reqId : UInt64
  kind : UInt32
  status : Int
  payload : Option Nat
  payloadLen : Nat
  aux0 : UInt64
  aux1 : UInt64
  deriving DecidableEq

/-- Scratch space for the payloads of one batch. -/
structure BatchBuf where
  bytes : List UInt8
  used : Nat
  deriving DecidableEq

/-- The smallest power of two that is not below a length. -/
def nextPowerOfTwo (length : Nat) : Nat := 2 ^ Nat.clog 2 length

theorem le_nextPowerOfTwo (length : Nat) : length ≤ nextPowerOfTwo length :=
  Nat.le_pow_clog Nat.one_lt_two length

namespace BatchBuf

def new : BatchBuf where
  bytes := []
  used := 0

def reset (buf : BatchBuf) : BatchBuf := { buf with used := 0 }

/-- Grow the slab to hold `total` bytes, if it does not yet. -/
def reserve (buf : BatchBuf) (total : Nat) : BatchBuf :=
  if buf.bytes.length < total then
    { buf with bytes := buf.bytes.takeD (max (nextPowerOfTwo total) (64 * 1024)) 0 }
  else buf

/-- Copy `src` into the slab, with the offset and length it got. A slab that is too
short panics: `none`. -/
def put (buf : BatchBuf) (src : ByteArray) : Option (BatchBuf × Nat × Nat) :=
  if buf.used + src.size ≤ buf.bytes.length then
    some ({ bytes := splice buf.bytes buf.used src.data.toList, used := buf.used + src.size },
      buf.used, src.size)
  else none

/-- Write the record of one completion. An empty payload has no pointer. -/
def writeRecord (buf : BatchBuf) (pending : Pending) : Option (BatchBuf × KtCompletion) :=
  (if pending.payload.size = 0 then some (buf, none, 0)
    else (buf.put pending.payload).map fun (next, offset, length) => (next, some offset, length)).map
  fun (next, payload, payloadLen) =>
    (next,
      { reqId := pending.reqId
        kind := pending.kind.discriminant
        status := pending.status
        payload := payload
        payloadLen := payloadLen
        aux0 := pending.aux0
        aux1 := pending.aux1 })

/-- Write the records of a batch in turn. -/
def writeRecords : BatchBuf → List Pending → Option (BatchBuf × List KtCompletion)
  | buf, [] => some (buf, [])
  | buf, pending :: rest => do
      let (next, record) ← buf.writeRecord pending
      let (last, records) ← next.writeRecords rest
      return (last, record :: records)

/-- The bytes of a batch's payloads. -/
def total (drained : List Pending) : Nat := (drained.map fun pending => pending.payload.size).sum

/-- Reserve the slab for a batch, and write the batch's records. -/
def fill (buf : BatchBuf) (drained : List Pending) : Option (BatchBuf × List KtCompletion) :=
  (buf.reset.reserve (total drained)).writeRecords drained

end BatchBuf

/-- What a record says to a caller who follows its pointer. -/
def KtCompletion.read (buf : BatchBuf) (record : KtCompletion) : Record where
  reqId := record.reqId
  kind := record.kind
  status := record.status
  payload :=
    match record.payload with
    | none => ByteArray.empty
    | some offset => ⟨(slice buf.bytes offset record.payloadLen).toArray⟩
  aux0 := record.aux0
  aux1 := record.aux1

namespace BatchBuf

@[simp] theorem total_nil : total [] = 0 := rfl

@[simp] theorem total_cons (pending : Pending) (rest : List Pending) :
    total (pending :: rest) = pending.payload.size + total rest := rfl

/-- After reserving, the whole batch fits. -/
theorem total_le_reserve (buf : BatchBuf) (total : Nat) :
    total ≤ (buf.reserve total).bytes.length := by
  unfold reserve
  split
  · rw [List.takeD_length]
    exact (le_nextPowerOfTwo total).trans (le_max_left ..)
  · omega

@[simp] theorem used_reserve (buf : BatchBuf) (total : Nat) :
    (buf.reserve total).used = buf.used := by
  unfold reserve
  split <;> rfl

/-- One record: the slab keeps its length and what was used, and the record reads back
from any slab that agrees with it up to what is used now. -/
theorem writeRecord_reads_back (buf : BatchBuf) (pending : Pending)
    (fits : buf.used + pending.payload.size ≤ buf.bytes.length) :
    ∃ next record, buf.writeRecord pending = some (next, record) ∧
      next.used = buf.used + pending.payload.size ∧
      next.bytes.length = buf.bytes.length ∧
      next.bytes.take buf.used = buf.bytes.take buf.used ∧
      ∀ later : BatchBuf, later.bytes.take next.used = next.bytes.take next.used →
        record.read later = pending.record := by
  unfold writeRecord
  by_cases empty : pending.payload.size = 0
  · rw [if_pos empty]
    refine ⟨buf, _, rfl, by omega, rfl, rfl, ?_⟩
    intro later _
    have none : pending.payload = ByteArray.empty := ByteArray.size_eq_zero_iff.mp empty
    simp only [KtCompletion.read, Pending.record, none]
  · have long : buf.used + pending.payload.data.toList.length ≤ buf.bytes.length := fits
    rw [if_neg empty, put, if_pos fits]
    refine ⟨_, _, rfl, rfl, length_splice long, take_splice (by omega), ?_⟩
    intro later same
    have read : slice later.bytes buf.used pending.payload.size = pending.payload.data.toList :=
      (slice_of_take_eq le_rfl same).trans (slice_splice (by omega))
    simp only [KtCompletion.read, Pending.record, read, Array.toArray_toList]

/-- A batch that fits is written, and its records read back as its completions. -/
theorem writeRecords_reads_back (drained : List Pending) (buf : BatchBuf)
    (fits : buf.used + total drained ≤ buf.bytes.length) :
    ∃ last records, buf.writeRecords drained = some (last, records) ∧
      last.bytes.take buf.used = buf.bytes.take buf.used ∧
      records.map (KtCompletion.read last) = drained.map Pending.record := by
  induction drained generalizing buf with
  | nil => exact ⟨buf, [], rfl, rfl, rfl⟩
  | cons pending rest ih =>
      rw [total_cons] at fits
      obtain ⟨next, record, written, used, length, kept, reads⟩ :=
        writeRecord_reads_back buf pending (by omega)
      obtain ⟨last, records, rewritten, keeps, readsRest⟩ := ih next (by omega)
      refine ⟨last, record :: records, ?_, ?_, ?_⟩
      · simp only [writeRecords, written, rewritten, Option.bind_eq_bind, Option.bind_some,
          Option.pure_def]
      · -- What was used before this record is used before the next ones too.
        have shorter : ∀ bytes : List UInt8,
            bytes.take buf.used = (bytes.take next.used).take buf.used := by
          intro bytes
          rw [List.take_take, min_eq_left (by omega)]
        rw [shorter last.bytes, keeps, ← shorter next.bytes, kept]
      · rw [List.map_cons, List.map_cons, reads last keeps, readsRest]

/-- Filling a slab never panics, and the records of a batch read back as its
completions. -/
theorem fill_reads_back (buf : BatchBuf) (drained : List Pending) :
    ∃ last records, buf.fill drained = some (last, records) ∧
      records.map (KtCompletion.read last) = drained.map Pending.record := by
  have fits := total_le_reserve buf.reset (total drained)
  obtain ⟨last, records, written, -, reads⟩ :=
    writeRecords_reads_back drained (buf.reset.reserve (total drained)) (by
      rw [used_reserve]
      simpa [reset] using fits)
  exact ⟨last, records, written, reads⟩

end BatchBuf

end KtBridge
