import Mathlib.Data.Int.Basic
import Mathlib.Data.List.Basic

/-! # Identities in the registry of ephemeral servers

A JVM and a server process are identified by a pid and a start time, zero standing for an unknown
one. Both are written as text, a JVM as the name of its record file and a process as a line of it,
and both are read back by hand. -/

namespace KtBridge.Registry

/-! ## Numbers -/

/-- The zeros of Unicode's decimal digits, as far as a `Char` of Kotlin holds them. -/
def decimalZeros : List Nat :=
  [0x30, 0x660, 0x6F0, 0x7C0, 0x966, 0x9E6, 0xA66, 0xAE6, 0xB66, 0xBE6, 0xC66, 0xCE6, 0xD66, 0xDE6,
    0xE50, 0xED0, 0xF20, 0x1040, 0x1090, 0x17E0, 0x1810, 0x1946, 0x19D0, 0x1A80, 0x1A90, 0x1B50,
    0x1BB0, 0x1C40, 0x1C50, 0xA620, 0xA8D0, 0xA900, 0xA9D0, 0xA9F0, 0xAA50, 0xABF0, 0xFF10]

def digitOf (char : Char) : Option Nat :=
  (decimalZeros.find? fun first => first ≤ char.toNat ∧ char.toNat < first + 10).map
    (char.toNat - ·)

/-- The value of digits, after those that came before them. -/
def digitsFrom (value : Nat) : List Char → Option Nat
  | [] => some value
  | char :: rest => (digitOf char).bind fun digit => digitsFrom (value * 10 + digit) rest

def magnitude : List Char → Option Nat
  | [] => none
  | digits => digitsFrom 0 digits

/-- A value that a `Long` holds. -/
def toLong (value : Int) : Option Int64 :=
  if Int64.minValue.toInt ≤ value ∧ value ≤ Int64.maxValue.toInt then some (Int64.ofInt value)
  else none

def toLongOrNull : List Char → Option Int64
  | '-' :: digits => (magnitude digits).bind fun value => toLong (-value)
  | '+' :: digits => (magnitude digits).bind fun value => toLong value
  | digits => (magnitude digits).bind fun value => toLong value

/-- A `Long` in a string template. -/
def longText (value : Int64) : List Char := (toString value.toInt).toList

/-! ## Text -/

/-- Kotlin's `Char.isWhitespace`. -/
def isWhitespace (char : Char) : Bool :=
  let code := char.toNat
  (0x9 ≤ code ∧ code ≤ 0xD) ∨ (0x1C ≤ code ∧ code ≤ 0x20) ∨ code = 0xA0 ∨ code = 0x1680 ∨
    (0x2000 ≤ code ∧ code ≤ 0x200A) ∨ code = 0x2028 ∨ code = 0x2029 ∨ code = 0x202F ∨
    code = 0x205F ∨ code = 0x3000

def trim (text : List Char) : List Char :=
  ((text.dropWhile isWhitespace).reverse.dropWhile isWhitespace).reverse

def substringBefore (text : List Char) (delimiter : Char) : List Char :=
  text.takeWhile (· ≠ delimiter)

/-- What comes after the first delimiter; nothing where there is none. -/
def substringAfter (text : List Char) (delimiter : Char) : List Char :=
  (text.dropWhile (· ≠ delimiter)).tail

def removeSuffix (text suffix : List Char) : List Char :=
  if suffix.isSuffixOf text then text.take (text.length - suffix.length) else text

def recordSuffix : List Char := ['.', 'p', 'i', 'd', 's']

/-! ## The two identities -/

/-- Identity of a JVM. -/
structure OwnerKey where
  pid : Int64
  startMillis : Int64
  deriving DecidableEq, Repr

/-- Identity of a server process. -/
structure ProcessRecord where
  pid : Int64
  startMillis : Int64
  deriving DecidableEq, Repr

namespace OwnerKey

def fileName (owner : OwnerKey) : List Char :=
  longText owner.pid ++ '-' :: longText owner.startMillis ++ recordSuffix

def parse (fileName : List Char) : Option OwnerKey :=
  let base := removeSuffix fileName recordSuffix
  (toLongOrNull (substringBefore base '-')).bind fun pid =>
    (toLongOrNull (substringAfter base '-')).bind fun startMillis => some ⟨pid, startMillis⟩

end OwnerKey

namespace ProcessRecord

def serialize (record : ProcessRecord) : List Char :=
  longText record.pid ++ ' ' :: longText record.startMillis

def parse (line : List Char) : Option ProcessRecord :=
  match (trim line).splitOn ' ' with
  | [pid, startMillis] =>
      (toLongOrNull pid).bind fun pid =>
        (toLongOrNull startMillis).bind fun startMillis => some ⟨pid, startMillis⟩
  | _ => none

end ProcessRecord

/-! ## Numbers are read back -/

theorem isDigit_bounds {char : Char} (digit : char.isDigit = true) :
    0x30 ≤ char.toNat ∧ char.toNat ≤ 0x39 := by
  have bounds : '0'.val ≤ char.val ∧ char.val ≤ '9'.val := by
    simpa only [Char.isDigit, Bool.and_eq_true, decide_eq_true_eq] using digit
  exact ⟨UInt32.le_iff_toNat_le.mp bounds.1, UInt32.le_iff_toNat_le.mp bounds.2⟩

theorem digitOf_isDigit {char : Char} (digit : char.isDigit = true) :
    digitOf char = some (char.toNat - '0'.toNat) := by
  obtain ⟨least, most⟩ := isDigit_bounds digit
  have ascii : decimalZeros = 0x30 :: decimalZeros.tail := rfl
  rw [digitOf, ascii, List.find?_cons, decide_eq_true (by omega)]
  rfl

theorem digitsFrom_isDigit {text : List Char} (digits : ∀ char ∈ text, char.isDigit = true) :
    ∀ value, digitsFrom value text = some (Nat.ofDigitChars 10 text value) := by
  induction text with
  | nil => simp [digitsFrom]
  | cons char rest rests =>
      intro value
      have first := digitOf_isDigit (digits char List.mem_cons_self)
      have later := rests (fun char member => digits char (List.mem_cons_of_mem _ member))
      rw [digitsFrom, first, Option.bind_some, later, Nat.ofDigitChars_cons, Nat.mul_comm]

theorem isDigit_toDigits (value : Nat) :
    ∀ char ∈ Nat.toDigits 10 value, char.isDigit = true :=
  fun _ member => Nat.isDigit_of_mem_toDigits (by decide) (by decide) member

theorem magnitude_toDigits (value : Nat) : magnitude (Nat.toDigits 10 value) = some value := by
  cases text : Nat.toDigits 10 value with
  | nil => exact absurd text Nat.toDigits_ne_nil
  | cons char rest =>
      have read := digitsFrom_isDigit (isDigit_toDigits value) 0
      rwa [Nat.ofDigitChars_ten_toDigits, text] at read

theorem toLong_toInt (value : Int64) : toLong value.toInt = some value := by
  rw [toLong, if_pos ⟨Int64.minValue_le_toInt value, value.toInt_le⟩, Int64.ofInt_toInt]

theorem toLongOrNull_toDigits (value : Nat) :
    toLongOrNull (Nat.toDigits 10 value) = toLong value := by
  have read := magnitude_toDigits value
  have digits := isDigit_toDigits value
  generalize Nat.toDigits 10 value = text at read digits
  unfold toLongOrNull
  split
  · exact absurd (digits '-' List.mem_cons_self) (by decide)
  · exact absurd (digits '+' List.mem_cons_self) (by decide)
  · rw [read, Option.bind_some]

theorem longText_of_nonneg {value : Int64} (nonneg : 0 ≤ value) :
    longText value = Nat.toDigits 10 value.toInt.toNat := by
  have sign : 0 ≤ value.toInt := Int64.le_iff_toInt_le.mp nonneg
  rw [longText, Int.toString_eq_repr, Int.repr_eq_if, if_pos sign, Nat.toList_repr]

theorem longText_of_neg {value : Int64} (negative : ¬0 ≤ value) :
    longText value = '-' :: Nat.toDigits 10 (-value.toInt).toNat := by
  have sign : ¬0 ≤ value.toInt := fun nonneg => negative (Int64.le_iff_toInt_le.mpr nonneg)
  rw [longText, Int.toString_eq_repr, Int.repr_eq_if, if_neg sign, String.toList_append,
    Nat.toList_repr]
  rfl

/-- Every `Long` is read back from its text. -/
theorem toLongOrNull_longText (value : Int64) : toLongOrNull (longText value) = some value := by
  have sign : 0 ≤ value ↔ 0 ≤ value.toInt := Int64.le_iff_toInt_le
  by_cases nonneg : 0 ≤ value
  · rw [longText_of_nonneg nonneg, toLongOrNull_toDigits, Int.toNat_of_nonneg (sign.mp nonneg),
      toLong_toInt]
  · have opposite : 0 ≤ -value.toInt := by
      have negative := mt sign.mpr nonneg
      omega
    rw [longText_of_neg nonneg, toLongOrNull, magnitude_toDigits, Option.bind_some,
      Int.toNat_of_nonneg opposite, Int.neg_neg, toLong_toInt]

theorem longText_ne_nil (value : Int64) : longText value ≠ [] := by
  by_cases nonneg : 0 ≤ value
  · rw [longText_of_nonneg nonneg]
    exact Nat.toDigits_ne_nil
  · rw [longText_of_neg nonneg]
    exact List.cons_ne_nil _ _

theorem isDigit_of_mem_longText {value : Int64} {char : Char} (member : char ∈ longText value) :
    char = '-' ∧ ¬0 ≤ value ∨ char.isDigit = true := by
  by_cases nonneg : 0 ≤ value
  · rw [longText_of_nonneg nonneg] at member
    exact .inr (isDigit_toDigits _ char member)
  · rw [longText_of_neg nonneg] at member
    obtain rfl | later := List.mem_cons.mp member
    · exact .inl ⟨rfl, nonneg⟩
    · exact .inr (isDigit_toDigits _ char later)

/-! ## Identities are read back -/

/-- Neither a digit nor a sign is a space. -/
theorem isWhitespace_longText {value : Int64} {char : Char} (member : char ∈ longText value) :
    isWhitespace char = false := by
  obtain ⟨rfl, -⟩ | digit := isDigit_of_mem_longText member
  · decide
  · obtain ⟨least, most⟩ := isDigit_bounds digit
    simp only [isWhitespace, decide_eq_false_iff_not]
    omega

/-- Text is not trimmed where both of its ends have no spaces. -/
theorem trim_between (first last : List Char) (middle : Char) (firstNonempty : first ≠ [])
    (lastNonempty : last ≠ []) (firstPlain : ∀ char ∈ first, isWhitespace char = false)
    (lastPlain : ∀ char ∈ last, isWhitespace char = false) :
    trim (first ++ middle :: last) = first ++ middle :: last := by
  have left : (first ++ middle :: last).dropWhile isWhitespace = first ++ middle :: last := by
    obtain ⟨char, rest, rfl⟩ := List.exists_cons_of_ne_nil firstNonempty
    rw [List.cons_append, List.dropWhile_cons_of_neg (by
      rw [firstPlain char List.mem_cons_self]
      exact Bool.false_ne_true)]
  have right : (first ++ middle :: last).reverse.dropWhile isWhitespace =
      (first ++ middle :: last).reverse := by
    rw [List.reverse_append, List.reverse_cons]
    obtain ⟨char, rest, reversed⟩ :=
      List.exists_cons_of_ne_nil (mt List.reverse_eq_nil_iff.mp lastNonempty)
    have plain : isWhitespace char = false :=
      lastPlain char (List.mem_reverse.mp (reversed ▸ List.mem_cons_self))
    rw [reversed, List.cons_append, List.cons_append, List.dropWhile_cons_of_neg (by
      rw [plain]
      exact Bool.false_ne_true)]
  rw [trim, left, right, List.reverse_reverse]

theorem space_not_mem_longText (value : Int64) : ' ' ∉ longText value :=
  fun member => absurd (isWhitespace_longText member) (by decide)

/-- A line of a record file names the process it was written for. -/
theorem ProcessRecord.parse_serialize (record : ProcessRecord) :
    ProcessRecord.parse record.serialize = some record := by
  have trimmed : trim record.serialize = record.serialize :=
    trim_between _ _ _ (longText_ne_nil _) (longText_ne_nil _)
      (fun _ => isWhitespace_longText) (fun _ => isWhitespace_longText)
  have parts : record.serialize.splitOn ' ' =
      [longText record.pid, longText record.startMillis] := by
    rw [serialize, List.splitOn_append_cons_of_beq _ _ rfl,
      List.splitOn_eq_singleton (space_not_mem_longText _),
      List.splitOn_eq_singleton (space_not_mem_longText _)]
    rfl
  rw [parse, trimmed, parts]
  simp only [toLongOrNull_longText, Option.bind_some]

theorem dash_not_mem_longText {value : Int64} (nonneg : 0 ≤ value) :
    ∀ char ∈ longText value, char ≠ '-' := by
  rintro char member rfl
  obtain ⟨-, negative⟩ | digit := isDigit_of_mem_longText member
  · exact negative nonneg
  · exact absurd digit (by decide)

theorem removeSuffix_append (text suffix : List Char) :
    removeSuffix (text ++ suffix) suffix = text := by
  rw [removeSuffix, if_pos (List.isSuffixOf_iff_suffix.mpr (List.suffix_append text suffix)),
    List.length_append, Nat.add_sub_cancel, List.take_left]

/-- The name of a record file names the JVM that wrote it. -/
theorem OwnerKey.parse_fileName (owner : OwnerKey) (nonneg : 0 ≤ owner.pid) :
    OwnerKey.parse owner.fileName = some owner := by
  have base : removeSuffix owner.fileName recordSuffix =
      longText owner.pid ++ '-' :: longText owner.startMillis := removeSuffix_append _ _
  have before : substringBefore (longText owner.pid ++ '-' :: longText owner.startMillis) '-' =
      longText owner.pid := by
    rw [substringBefore, List.takeWhile_append_of_pos
      (fun char member => decide_eq_true (dash_not_mem_longText nonneg char member)),
      List.takeWhile_cons_of_neg (by decide), List.append_nil]
  have after : substringAfter (longText owner.pid ++ '-' :: longText owner.startMillis) '-' =
      longText owner.startMillis := by
    rw [substringAfter, List.dropWhile_append_of_pos
      (fun char member => decide_eq_true (dash_not_mem_longText nonneg char member)),
      List.dropWhile_cons_of_neg (by decide), List.tail_cons]
  rw [parse, base, before, after]
  simp only [toLongOrNull_longText, Option.bind_some]

end KtBridge.Registry
