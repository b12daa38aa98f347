import KtBridge.Queue
import KtBridge.Foundation.Wire
import Mathlib.Data.List.DropRight

/-! # Failed calls

What a gRPC failure is reported as: its code, its message or the chain of what caused it, and its
details. The report is a message that Kotlin parses again.
-/

namespace KtBridge.Client

open Foundation Wire

inductive Code where
  | ok
  | cancelled
  | unknown
  | invalidArgument
  | deadlineExceeded
  | notFound
  | alreadyExists
  | permissionDenied
  | resourceExhausted
  | failedPrecondition
  | aborted
  | outOfRange
  | unimplemented
  | internal
  | unavailable
  | dataLoss
  | unauthenticated
  deriving DecidableEq, Repr

namespace Code

def value : Code → Int
  | ok => 0
  | cancelled => 1
  | unknown => 2
  | invalidArgument => 3
  | deadlineExceeded => 4
  | notFound => 5
  | alreadyExists => 6
  | permissionDenied => 7
  | resourceExhausted => 8
  | failedPrecondition => 9
  | aborted => 10
  | outOfRange => 11
  | unimplemented => 12
  | internal => 13
  | unavailable => 14
  | dataLoss => 15
  | unauthenticated => 16

def debug : Code → String
  | ok => "Ok"
  | cancelled => "Cancelled"
  | unknown => "Unknown"
  | invalidArgument => "InvalidArgument"
  | deadlineExceeded => "DeadlineExceeded"
  | notFound => "NotFound"
  | alreadyExists => "AlreadyExists"
  | permissionDenied => "PermissionDenied"
  | resourceExhausted => "ResourceExhausted"
  | failedPrecondition => "FailedPrecondition"
  | aborted => "Aborted"
  | outOfRange => "OutOfRange"
  | unimplemented => "Unimplemented"
  | internal => "Internal"
  | unavailable => "Unavailable"
  | dataLoss => "DataLoss"
  | unauthenticated => "Unauthenticated"

theorem value_pos {code : Code} (failed : code ≠ ok) : 0 < code.value := by
  cases code with
  | ok => exact absurd rfl failed
  | _ => decide

end Code

/-- An error in the chain behind a status. -/
structure SourceError where
  text : String
  isTimeoutExpired : Bool
  deriving DecidableEq

/-- The status of a failed call: its code is not OK. `sources` is the chain of its causes. -/
structure Status where
  code : Code
  message : String
  details : ByteArray
  sources : List SourceError
  failed : code ≠ .ok

/-- The texts of the chain. -/
def parts : List SourceError → List String
  | [] => []
  | error :: cause => error.text :: parts cause

def statusMessage (status : Status) : String :=
  if status.message ≠ "" then status.message
  else if parts status.sources = [] then status.code.debug ++ " with no message"
  else status.code.debug ++ ": " ++ ": ".intercalate (parts status.sources)

/-- Whether an error of the chain is the local timeout. -/
def expired : List SourceError → Bool
  | [] => false
  | error :: cause => if error.isTimeoutExpired then true else expired cause

def grpcStatusCode (status : Status) : Int :=
  if status.code = .cancelled ∧ expired status.sources then Code.deadlineExceeded.value
  else status.code.value

theorem expired_iff (sources : List SourceError) :
    expired sources = true ↔ ∃ error ∈ sources, error.isTimeoutExpired = true := by
  induction sources with
  | nil => simp [expired]
  | cons error cause ih =>
      rw [expired, List.exists_mem_cons_iff, ← ih]
      by_cases timeout : error.isTimeoutExpired = true <;> simp [timeout]

theorem parts_eq_map (sources : List SourceError) :
    parts sources = sources.map SourceError.text := by
  induction sources with
  | nil => rfl
  | cons error cause ih => rw [parts, ih, List.map_cons]

/-- A failure is never reported as a success. -/
theorem grpcStatusCode_pos (status : Status) : 0 < grpcStatusCode status := by
  rw [grpcStatusCode]
  split
  · decide
  · exact Code.value_pos status.failed

/-! ## The report -/

structure RpcFailure where
  message : String
  details : ByteArray
  deriving DecidableEq

namespace RpcFailure

def messageTag : Tag := 10
def detailsTag : Tag := 18

def fields (failure : RpcFailure) : List (Tag × List UInt8) :=
  present messageTag failure.message.toByteArray.data.toList ++
    present detailsTag failure.details.data.toList

def encodeToVec (failure : RpcFailure) : ByteArray := ⟨(encodeFields failure.fields).toArray⟩

/-- The parser's view: a text has to be UTF-8. -/
def schema : Schema RpcFailure where
  knows := fun tag => tag = messageTag ∨ tag = detailsTag
  set := fun tag payload failure =>
    if tag = messageTag then
      match String.fromUTF8? ⟨payload.toArray⟩ with
      | some message => .ok { failure with message := message }
      | none => .error .utf8
    else .ok { failure with details := ⟨payload.toArray⟩ }

def parseFrom (payload : ByteArray) : Except Malformed RpcFailure :=
  parse schema ⟨"", ByteArray.empty⟩ payload.data.toList

theorem known_fields {failure : RpcFailure} (short : failure.encodeToVec.size < 2 ^ 31) :
    ∀ field ∈ failure.fields, Known schema field := by
  intro field member
  have size : field.2.length < 2 ^ 31 := Nat.lt_of_le_of_lt (length_le_of_mem member) short
  obtain message | details := List.mem_append.mp member
  · obtain rfl := eq_of_mem_present message
    exact ⟨rfl, show fieldNumber 10 ≠ 0 by decide, show 10 < 2 ^ 32 by decide, size⟩
  · obtain rfl := eq_of_mem_present details
    exact ⟨rfl, show fieldNumber 18 ≠ 0 by decide, show 18 < 2 ^ 32 by decide, size⟩

theorem fromUTF8_toByteArray (text : String) : String.fromUTF8? text.toByteArray = some text :=
  dif_pos text.isValidUTF8

/-- What the message's own field sets, if it is there. -/
theorem set_message (failure : RpcFailure) (text : String) (before : failure.message = "") :
    (present messageTag text.toByteArray.data.toList).foldlM
        (fun failure field => schema.set field.1 field.2 failure) failure =
      .ok { failure with message := text } := by
  unfold present
  split
  · next empty =>
      have same : text = "" := String.toByteArray_inj.mp (ByteArray.ext (Array.toList_inj.mp empty))
      rw [same, ← before]
      rfl
  · have decoded : String.fromUTF8? ⟨text.toByteArray.data⟩ = some text := fromUTF8_toByteArray text
    simp [schema, decoded]

theorem set_details (failure : RpcFailure) (details : ByteArray)
    (before : failure.details = ByteArray.empty) :
    (present detailsTag details.data.toList).foldlM
        (fun failure field => schema.set field.1 field.2 failure) failure =
      .ok { failure with details := details } := by
  unfold present
  split
  · next empty =>
      have same : details = ByteArray.empty := ByteArray.ext (Array.toList_inj.mp empty)
      rw [same, ← before]
      rfl
  · simp [schema, messageTag, detailsTag]

/-- What was encoded is parsed, if it fits an array. -/
theorem parseFrom_encodeToVec {failure : RpcFailure} (short : failure.encodeToVec.size < 2 ^ 31) :
    parseFrom failure.encodeToVec = .ok failure := by
  have read := parse_encodeFields schema (known_fields short) ⟨"", ByteArray.empty⟩
  rw [parseFrom, encodeToVec, read, fields, List.foldlM_append, set_message _ _ rfl,
    Checks.ok_bind, set_details _ _ rfl]

end RpcFailure

end KtBridge.Client
