import KtBridge.Foundation.Checks
import Mathlib.Data.UInt
import Mathlib.Data.List.Basic

/-! # The wire format of protocol buffers

Varints, tags and length-delimited fields. A parser is given which tags its message knows and what
their fields set; it skips every other field. What was encoded is parsed field by field
(`parse_encodeFields`).
-/

namespace Foundation.Wire

/-- Why bytes are no message. -/
inductive Malformed where
  | truncated
  | varint
  | negativeSize
  | tag
  | wireType
  | endTag
  | recursionLimit
  | utf8
  deriving DecidableEq, Repr

/-! ## Varints -/

/-- Seven bits to a byte, the lowest first, in at most so many bytes. -/
def encodeVarintIn : Nat → Nat → List UInt8
  | 0, _ => []
  | left + 1, value =>
      if value < 128 then [UInt8.ofNat value]
      else UInt8.ofNat (value % 128 + 128) :: encodeVarintIn left (value / 128)

def encodeVarint (value : Nat) : List UInt8 := encodeVarintIn 10 value

def readVarintIn : Nat → List UInt8 → Except Malformed (Nat × List UInt8)
  | 0, _ => .error .varint
  | _ + 1, [] => .error .truncated
  | left + 1, byte :: rest =>
      if byte.toNat < 128 then .ok (byte.toNat, rest)
      else do
        let (high, rest) ← readVarintIn left rest
        return (byte.toNat - 128 + 128 * high, rest)

def readVarint (bytes : List UInt8) : Except Malformed (Nat × List UInt8) := readVarintIn 10 bytes

/-- A varint that stands for 32 bits. -/
def readVarint32 (bytes : List UInt8) : Except Malformed (Nat × List UInt8) := do
  let (value, rest) ← readVarint bytes
  return (value % 2 ^ 32, rest)

theorem readVarintIn_encodeVarintIn {left value : Nat} (fits : value < 128 ^ left)
    (some : 0 < left) (rest : List UInt8) :
    readVarintIn left (encodeVarintIn left value ++ rest) = .ok (value, rest) := by
  induction left generalizing value with
  | zero => exact absurd some (Nat.lt_irrefl 0)
  | succ left ih =>
      by_cases small : value < 128
      · have byte : (UInt8.ofNat value).toNat = value := by
          rw [UInt8.toNat_ofNat', Nat.mod_eq_of_lt (by omega)]
        simp [encodeVarintIn, readVarintIn, small, byte]
      · have byte : (UInt8.ofNat (value % 128 + 128)).toNat = value % 128 + 128 := by
          rw [UInt8.toNat_ofNat', Nat.mod_eq_of_lt (by omega)]
        have lower : value / 128 < 128 ^ left := by
          rw [Nat.pow_succ] at fits
          exact Nat.div_lt_of_lt_mul (by omega)
        have more : 0 < left := by
          cases left with
          | zero =>
              rw [Nat.pow_zero] at lower
              omega
          | succ left => exact Nat.succ_pos left
        have big : ¬(value % 128 + 128 < 128) := by omega
        simp only [encodeVarintIn, small, if_false, List.cons_append, readVarintIn, byte, big,
          ih lower more]
        exact congrArg (fun value => Except.ok (value, rest)) (by omega)

theorem readVarint32_encodeVarint {value : Nat} (fits : value < 2 ^ 32) (rest : List UInt8) :
    readVarint32 (encodeVarint value ++ rest) = .ok (value, rest) := by
  have read : readVarint (encodeVarint value ++ rest) = .ok (value, rest) :=
    readVarintIn_encodeVarintIn (by omega) (by decide) rest
  simp only [readVarint32, read]
  exact congrArg (fun value => Except.ok (value, rest)) (Nat.mod_eq_of_lt fits)

/-! ## Fields -/

/-- A field's number with its wire type. -/
abbrev Tag := Nat

def wireType (tag : Tag) : Nat := tag % 8

def fieldNumber (tag : Tag) : Nat := tag / 8

def readTag (bytes : List UInt8) : Except Malformed (Tag × List UInt8) := do
  let (tag, rest) ← readVarint32 bytes
  reject (fieldNumber tag = 0) .tag
  return (tag, rest)

/-- The bytes of a length-delimited field. The size is a signed number of 32 bits. -/
def readBytes (bytes : List UInt8) : Except Malformed (List UInt8 × List UInt8) := do
  let (size, rest) ← readVarint32 bytes
  reject (2 ^ 31 ≤ size) .negativeSize
  reject (rest.length < size) .truncated
  return (rest.take size, rest.drop size)

def skipBytes (size : Nat) (bytes : List UInt8) : Except Malformed (List UInt8) :=
  if bytes.length < size then .error .truncated else .ok (bytes.drop size)

/-- Skip a field that is no group. -/
def skipScalar (tag : Tag) (bytes : List UInt8) : Except Malformed (List UInt8) :=
  match wireType tag with
  | 0 => Prod.snd <$> readVarint bytes
  | 1 => skipBytes 8 bytes
  | 2 => Prod.snd <$> readBytes bytes
  | 5 => skipBytes 4 bytes
  | _ => .error .wireType

/-- Skip to the ends of the groups that are open, the innermost first. -/
def skipGroups : Nat → List Nat → List UInt8 → Except Malformed (List UInt8)
  | _, [], bytes => .ok bytes
  | 0, _ :: _, _ => .error .truncated
  | fuel + 1, number :: outer, bytes => do
      reject (100 < outer.length + 1) .recursionLimit
      reject bytes.isEmpty .endTag
      let (tag, rest) ← readTag bytes
      if wireType tag = 3 then skipGroups fuel (fieldNumber tag :: number :: outer) rest
      else if wireType tag = 4 then
        if fieldNumber tag = number then skipGroups fuel outer rest else throw .endTag
      else do
        let rest ← skipScalar tag rest
        skipGroups fuel (number :: outer) rest

/-- Skip a field that the message does not know. -/
def skipField (tag : Tag) (bytes : List UInt8) : Except Malformed (List UInt8) :=
  if wireType tag = 3 then skipGroups (bytes.length + 1) [fieldNumber tag] bytes
  else if wireType tag = 4 then .error .endTag
  else skipScalar tag bytes

/-! ## Messages -/

/-- A message whose known fields are length-delimited: their tags, and what a field sets. -/
structure Schema (Message : Type) where
  knows : Tag → Bool
  set : Tag → List UInt8 → Message → Except Malformed Message

variable {Message : Type} (schema : Schema Message)

def parseFields : Nat → Message → List UInt8 → Except Malformed Message
  | _, message, [] => .ok message
  | 0, _, _ :: _ => .error .truncated
  | fuel + 1, message, byte :: bytes => do
      let (tag, rest) ← readTag (byte :: bytes)
      if schema.knows tag then
        let (payload, rest) ← readBytes rest
        let message ← schema.set tag payload message
        parseFields fuel message rest
      else
        let rest ← skipField tag rest
        parseFields fuel message rest

/-- Every field takes a byte, so that the fuel suffices. -/
def parse (message : Message) (bytes : List UInt8) : Except Malformed Message :=
  parseFields schema bytes.length message bytes

def encodeField (field : Tag × List UInt8) : List UInt8 :=
  encodeVarint field.1 ++ (encodeVarint field.2.length ++ field.2)

def encodeFields (fields : List (Tag × List UInt8)) : List UInt8 := fields.flatMap encodeField

/-- A field that the message knows, of a size that can be read. -/
structure Known (field : Tag × List UInt8) : Prop where
  knows : schema.knows field.1 = true
  numbered : fieldNumber field.1 ≠ 0
  bounded : field.1 < 2 ^ 32
  short : field.2.length < 2 ^ 31

theorem readTag_encodeVarint {tag : Tag} (numbered : fieldNumber tag ≠ 0) (bounded : tag < 2 ^ 32)
    (rest : List UInt8) : readTag (encodeVarint tag ++ rest) = .ok (tag, rest) := by
  rw [readTag, readVarint32_encodeVarint bounded, Checks.ok_bind]
  exact Checks.reject_bind _ _ _ (decide_eq_false numbered)

theorem readBytes_encode {payload : List UInt8} (short : payload.length < 2 ^ 31)
    (rest : List UInt8) :
    readBytes (encodeVarint payload.length ++ (payload ++ rest)) = .ok (payload, rest) := by
  have size : payload.length < 2 ^ 32 := by omega
  have enough : payload.length ≤ (payload ++ rest).length := by simp
  rw [readBytes, readVarint32_encodeVarint size, Checks.ok_bind]
  dsimp only
  rw [Checks.reject_bind _ _ _ (decide_eq_false (Nat.not_le_of_lt short)),
    Checks.reject_bind _ _ _ (decide_eq_false (Nat.not_lt_of_le enough)),
    List.take_left' rfl, List.drop_left' rfl]
  rfl

theorem encodeVarint_ne_nil (value : Nat) : encodeVarint value ≠ [] := by
  rw [encodeVarint, encodeVarintIn]
  split <;> exact List.cons_ne_nil _ _

theorem parseFields_encodeField {field : Tag × List UInt8} (known : Known schema field)
    (fuel : Nat) (message : Message) (rest : List UInt8) :
    parseFields schema (fuel + 1) message (encodeField field ++ rest) =
      (schema.set field.1 field.2 message >>= fun message => parseFields schema fuel message rest) := by
  obtain ⟨byte, bytes, split⟩ :
      ∃ byte bytes, encodeField field ++ rest = byte :: bytes := by
    refine List.exists_cons_of_ne_nil ?_
    simp [encodeField, encodeVarint_ne_nil]
  have tag : readTag (byte :: bytes) =
      .ok (field.1, encodeVarint field.2.length ++ (field.2 ++ rest)) := by
    rw [← split, encodeField, List.append_assoc, List.append_assoc]
    exact readTag_encodeVarint known.numbered known.bounded _
  rw [split, parseFields, tag, Checks.ok_bind]
  dsimp only
  rw [if_pos known.knows, readBytes_encode known.short, Checks.ok_bind]

/-- What was encoded is parsed field by field. -/
theorem parseFields_encodeFields {fields : List (Tag × List UInt8)}
    (known : ∀ field ∈ fields, Known schema field) {fuel : Nat} (enough : fields.length ≤ fuel)
    (message : Message) :
    parseFields schema fuel message (encodeFields fields) =
      fields.foldlM (fun message field => schema.set field.1 field.2 message) message := by
  induction fields generalizing fuel message with
  | nil => cases fuel <;> rfl
  | cons field fields ih =>
      cases fuel with
      | zero => cases enough
      | succ fuel =>
          have later : ∀ field ∈ fields, Known schema field := fun field member =>
            known field (List.mem_cons_of_mem _ member)
          have parsed := parseFields_encodeField schema (known field List.mem_cons_self) fuel message
            (encodeFields fields)
          rw [encodeFields, List.flatMap_cons, ← encodeFields, parsed, List.foldlM_cons]
          congr 1
          funext message
          exact ih later (Nat.le_of_succ_le_succ enough) message

theorem length_le_encodeFields (fields : List (Tag × List UInt8)) :
    fields.length ≤ (encodeFields fields).length := by
  induction fields with
  | nil => exact Nat.zero_le _
  | cons field fields ih =>
      have first := List.length_pos_iff.mpr (encodeVarint_ne_nil field.1)
      simp only [encodeFields, List.flatMap_cons, List.length_append, encodeField,
        List.length_cons] at ih ⊢
      omega

theorem parse_encodeFields {fields : List (Tag × List UInt8)}
    (known : ∀ field ∈ fields, Known schema field) (message : Message) :
    parse schema message (encodeFields fields) =
      fields.foldlM (fun message field => schema.set field.1 field.2 message) message :=
  parseFields_encodeFields schema known (length_le_encodeFields fields) message

theorem length_le_of_mem {field : Tag × List UInt8} {fields : List (Tag × List UInt8)}
    (member : field ∈ fields) : field.2.length ≤ (encodeFields fields).length := by
  have part : (encodeField field).length ≤ (encodeFields fields).length :=
    (List.sublist_flatten_of_mem (List.mem_map_of_mem member)).length_le
  simp only [encodeField, List.length_append] at part
  omega

/-- A field that has its default is left out. -/
def present (tag : Tag) (payload : List UInt8) : List (Tag × List UInt8) :=
  if payload = [] then [] else [(tag, payload)]

theorem eq_of_mem_present {field : Tag × List UInt8} {tag : Tag} {payload : List UInt8}
    (member : field ∈ present tag payload) : field = (tag, payload) := by
  unfold present at member
  split at member
  · cases member
  · exact List.mem_singleton.mp member

end Foundation.Wire
