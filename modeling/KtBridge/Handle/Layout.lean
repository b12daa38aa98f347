import Mathlib.Data.Nat.Bitwise
import Mathlib.Tactic.NormNum

/-! # The bits of a handle

A handle is an opaque `u64` laid out as `[kind:u8 | generation:u24 | index:u32]`.
`Handle.encode` is the packing expression of `HandleTable::insert_into`, and
`Handle.kind`, `Handle.generation` and `Handle.index` are the three readings made
by `HandleTable::validate`. Packing followed by reading is the identity on
masked generations (`Handle.generation_encode`), and every 64-bit value is the
packing of its own readings (`Handle.encode_readings`).
-/

namespace KtBridge

/-- An opaque reference handed to the JVM. -/
abbrev Handle := UInt64

namespace Handle

def kindShift : UInt64 := 56

def genShift : UInt64 := 32

def genMask : UInt64 := 0x00FFFFFF

/-- Pack a kind, a generation and an index. Only 24 bits of the generation are kept. -/
def encode (kind : UInt8) (generation index : UInt32) : Handle :=
  (kind.toUInt64 <<< kindShift) ||| ((generation.toUInt64 &&& genMask) <<< genShift) |||
    index.toUInt64

/-- The kind tag, `(handle >> KIND_SHIFT) as u8`. -/
def kind (handle : Handle) : UInt8 := (handle >>> kindShift).toUInt8

/-- The encoded generation, `((handle >> GEN_SHIFT) & GEN_MASK) as u32`. -/
def generation (handle : Handle) : UInt32 := ((handle >>> genShift) &&& genMask).toUInt32

/-- The slot index, `handle as u32 as usize`. -/
def index (handle : Handle) : Nat := handle.toUInt32.toNat

private theorem and_genMask (value : Nat) : value &&& 16777215 = value % 2 ^ 24 :=
  Nat.and_two_pow_sub_one_eq_mod value 24

/-- The packed fields do not overlap, so packing is addition. -/
theorem toNat_encode (kind : UInt8) (generation index : UInt32) :
    (encode kind generation index).toNat =
      kind.toNat * 2 ^ 56 + generation.toNat % 2 ^ 24 * 2 ^ 32 + index.toNat := by
  have kindBound := kind.toNat_lt
  have indexBound := index.toNat_lt
  have high : (kind.toNat <<< 56) % 2 ^ 64 = kind.toNat <<< 56 := by
    rw [Nat.shiftLeft_eq]
    omega
  have middle : ((generation.toNat % 2 ^ 24) <<< 32) % 2 ^ 64 =
      (generation.toNat % 2 ^ 24) <<< 32 := by
    rw [Nat.shiftLeft_eq]
    omega
  have fields : (encode kind generation index).toNat =
      kind.toNat <<< 56 ||| (generation.toNat % 2 ^ 24) <<< 32 ||| index.toNat := by
    simp only [encode, UInt64.toNat_or, UInt64.toNat_shiftLeft, UInt64.toNat_and,
      UInt8.toNat_toUInt64, UInt32.toNat_toUInt64]
    change (kind.toNat <<< 56 % 2 ^ 64 ||| (generation.toNat &&& 16777215) <<< 32 % 2 ^ 64) |||
      index.toNat = _
    rw [and_genMask, high, middle]
  have inner : (generation.toNat % 2 ^ 24) <<< 32 < 2 ^ 56 := by
    rw [Nat.shiftLeft_eq]
    omega
  rw [fields, ← Nat.shiftLeft_add_eq_or_of_lt inner, Nat.shiftLeft_eq, Nat.shiftLeft_eq,
    show kind.toNat * 2 ^ 56 + generation.toNat % 2 ^ 24 * 2 ^ 32 =
      (kind.toNat * 2 ^ 24 + generation.toNat % 2 ^ 24) <<< 32 by rw [Nat.shiftLeft_eq]; omega,
    ← Nat.shiftLeft_add_eq_or_of_lt indexBound]

theorem toNat_kind (handle : Handle) : handle.kind.toNat = handle.toNat / 2 ^ 56 := by
  have bound := handle.toNat_lt
  simp only [kind, UInt64.toNat_toUInt8, UInt64.toNat_shiftRight]
  change handle.toNat >>> 56 % 2 ^ 8 = _
  rw [Nat.shiftRight_eq_div_pow]
  omega

theorem toNat_generation (handle : Handle) :
    handle.generation.toNat = handle.toNat / 2 ^ 32 % 2 ^ 24 := by
  simp only [generation, UInt64.toNat_toUInt32, UInt64.toNat_and, UInt64.toNat_shiftRight]
  change (handle.toNat >>> 32 &&& 16777215) % 2 ^ 32 = _
  rw [and_genMask, Nat.shiftRight_eq_div_pow]
  omega

theorem index_eq (handle : Handle) : handle.index = handle.toNat % 2 ^ 32 :=
  UInt64.toNat_toUInt32 handle

theorem kind_encode (kind : UInt8) (generation index : UInt32) :
    (encode kind generation index).kind = kind := by
  have indexBound := index.toNat_lt
  apply UInt8.toNat_inj.mp
  rw [toNat_kind, toNat_encode]
  omega

/-- Reading back a generation recovers its low 24 bits. -/
theorem generation_encode (kind : UInt8) (generation index : UInt32)
    (masked : generation.toNat < 2 ^ 24) :
    (encode kind generation index).generation = generation := by
  have indexBound := index.toNat_lt
  apply UInt32.toNat_inj.mp
  rw [toNat_generation, toNat_encode]
  omega

theorem index_encode (kind : UInt8) (generation index : UInt32) :
    (encode kind generation index).index = index.toNat := by
  have indexBound := index.toNat_lt
  rw [index_eq, toNat_encode]
  omega

theorem index_lt (handle : Handle) : handle.index < 2 ^ 32 := by
  rw [index_eq]
  omega

/-- Every 64-bit value is the packing of its own kind, generation and index. -/
theorem encode_readings (handle : Handle) :
    encode handle.kind handle.generation (UInt32.ofNat handle.index) = handle := by
  apply UInt64.toNat_inj.mp
  have bound := handle.toNat_lt
  rw [toNat_encode, toNat_kind, toNat_generation, UInt32.toNat_ofNat_of_lt' handle.index_lt,
    index_eq]
  omega

/-- Two handles with equal readings are equal. -/
theorem ext_readings {first second : Handle} (kinds : first.kind = second.kind)
    (generations : first.generation = second.generation) (indices : first.index = second.index) :
    first = second := by
  rw [← encode_readings first, ← encode_readings second, kinds, generations, indices]

theorem ne_zero_of_kind {handle : Handle} (tagged : handle.kind ≠ 0) : handle ≠ 0 := by
  rintro rfl
  exact tagged rfl

end Handle

end KtBridge
