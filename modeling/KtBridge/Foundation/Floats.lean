import Mathlib.Logic.Basic

/-! # Comparing floating-point numbers

The order of the numbers is that of IEEE 754, with its unordered NaN: only one of two
opposite comparisons can hold.
-/

namespace Foundation

open Float.Model

theorem compare_swap (first second : UnpackedFloat) :
    second.compare first = (first.compare second).map Ordering.swap := by
  have lexicographic (firstMantissa secondMantissa : Nat) (firstExponent secondExponent : Int) :
      (compare secondExponent firstExponent).then (compare secondMantissa firstMantissa) =
        ((compare firstExponent secondExponent).then (compare firstMantissa secondMantissa)).swap := by
    rw [Ordering.swap_then, ← Std.OrientedOrd.eq_swap, ← Std.OrientedOrd.eq_swap]
  cases first with
  | infinity sign => cases second with
    | infinity other => cases sign <;> cases other <;> rfl
    | _ => cases sign <;> rfl
  | notANumber => cases second <;> rfl
  | zero sign => cases second with
    | infinity other => cases other <;> rfl
    | notANumber => rfl
    | zero other => rfl
    | finite other mantissa exponent => cases other <;> rfl
  | finite sign mantissa exponent => cases second with
    | infinity other => cases other <;> cases sign <;> rfl
    | notANumber => cases sign <;> rfl
    | zero other => cases sign <;> rfl
    | finite other otherMantissa otherExponent =>
        cases sign with
        | positive => cases other with
          | positive => exact congrArg some (lexicographic ..)
          | negative => rfl
        | negative => cases other with
          | positive => rfl
          | negative => exact congrArg (fun order => some order.swap) (lexicographic ..)

/-- The opposite of a comparison that holds does not. -/
theorem not_lt_of_le {first second : Float} (below : first ≤ second) : ¬ second < first := by
  intro above
  have back : second.toModel.unpack.lt first.toModel.unpack := of_decide_eq_true above
  have forth : first.toModel.unpack.le second.toModel.unpack := of_decide_eq_true below
  rw [UnpackedFloat.lt, beq_iff_eq] at back
  rw [UnpackedFloat.le, compare_swap, back] at forth
  cases forth

/-- A comparison that holds is strict unless the numbers are equal. -/
theorem lt_iff_of_le {first second : Float} (below : first ≤ second) :
    first < second ↔ (second == first) = false := by
  have forth : first.toModel.unpack.le second.toModel.unpack := of_decide_eq_true below
  have strict : first < second ↔ first.toModel.unpack.lt second.toModel.unpack := decide_eq_true_iff
  have equal : (second == first) =
      (second.toModel.unpack.compare first.toModel.unpack == some .eq) := rfl
  rw [strict, equal, UnpackedFloat.lt, compare_swap first.toModel.unpack second.toModel.unpack]
  rw [UnpackedFloat.le] at forth
  generalize first.toModel.unpack.compare second.toModel.unpack = order at forth ⊢
  cases order with
  | none => cases forth
  | some order => cases order with
    | lt => decide
    | eq => decide
    | gt => cases forth

/-- Between zero and one, which a NaN is not. -/
def inUnit (value : Float) : Bool := 0.0 ≤ value && value ≤ 1.0

def inUnit32 (value : Float32) : Bool := 0.0 ≤ value && value ≤ 1.0

end Foundation
