import Mathlib.Data.Nat.Bitwise
import Mathlib.Data.UInt
import Mathlib.Logic.Function.Basic

/-! # What a slot supplier decides

The JVM decides about resource pressure and publishes one admission bit for each kind of
slot; the supplier counts permits and throttles their growth. `JvmSlots.refusal` says
why a reservation is refused, in the order of the tests.
-/

namespace KtBridge.Slots

/-- The kinds of slots, in the order of their admission bits. -/
inductive SlotKind where
  | workflow
  | activity
  | localActivity
  | nexus
  deriving DecidableEq

/-- The number of a kind in the gate. -/
def SlotKind.index : SlotKind → Nat
  | workflow => 0
  | activity => 1
  | localActivity => 2
  | nexus => 3

/-- The admission bit of a kind. -/
def allows (allowed : UInt32) (kind : SlotKind) : Bool :=
  (allowed &&& (1 <<< UInt32.ofNat kind.index)) != 0

/-- A kind is allowed by its own bit. -/
theorem allows_eq_testBit (allowed : UInt32) (kind : SlotKind) :
    allows allowed kind = allowed.toNat.testBit kind.index := by
  have mask : (1 <<< UInt32.ofNat kind.index : UInt32).toNat = 2 ^ kind.index := by
    cases kind <;> rfl
  rw [allows, bne, Bool.eq_iff_iff, Bool.not_eq_true', beq_eq_false_iff_ne, ne_eq,
    ← UInt32.toNat_inj, UInt32.toNat_and, mask, Nat.and_two_pow]
  cases allowed.toNat.testBit kind.index <;> simp

/-- A supplier's bounds. The ramp is in nanoseconds. Only a sticky supplier tells its two
queues apart. -/
structure JvmSlots where
  minimum : Nat
  maximum : Nat
  ramp : Nat
  sticky : Bool
  deriving DecidableEq

/-- What a supplier keeps under its mutex: the permits issued for the nonsticky and the
sticky queue, and when it issued one last. -/
structure Supplier where
  issued : Bool → Nat
  lastIssued : Nat

namespace Supplier

/-- The permits out for both queues. -/
def total (supplier : Supplier) : Nat := supplier.issued false + supplier.issued true

def issue (supplier : Supplier) (queue : Bool) : Supplier :=
  { supplier with issued := Function.update supplier.issued queue (supplier.issued queue + 1) }

def release (supplier : Supplier) (queue : Bool) : Supplier :=
  { supplier with issued := Function.update supplier.issued queue (supplier.issued queue - 1) }

/-- `last_issued.elapsed()`. -/
def elapsed (supplier : Supplier) (now : Nat) : Nat := now - supplier.lastIssued

theorem total_eq (supplier : Supplier) (queue : Bool) :
    supplier.total = supplier.issued queue + supplier.issued (!queue) := by
  cases queue
  · rfl
  · exact Nat.add_comm ..

@[simp] theorem total_issue (supplier : Supplier) (queue : Bool) :
    (supplier.issue queue).total = supplier.total + 1 := by
  cases queue <;> simp [total, issue] <;> omega

theorem total_release (supplier : Supplier) (queue : Bool) (out : 0 < supplier.issued queue) :
    (supplier.release queue).total + 1 = supplier.total := by
  cases queue <;> simp [total, release] <;> omega

end Supplier

/-- Why a reservation is refused. -/
inductive Refusal where
  | full
  /-- The last slot is kept for the other queue, which holds none. -/
  | lastSlot
  /-- The kind's admission bit is not set. -/
  | pressure
  | ramp
  deriving DecidableEq

namespace JvmSlots

variable (slots : JvmSlots)

/-- The queue of a context. -/
def queue (isSticky : Bool) : Bool := slots.sticky && isSticky

/-- There is no slot for the queue, whatever the pressure. -/
def noRoom (supplier : Supplier) (queue : Bool) : Option Refusal :=
  if slots.maximum ≤ supplier.total then some .full
  else if slots.sticky ∧ supplier.issued (!queue) = 0 ∧ supplier.total + 1 = slots.maximum then
    some .lastSlot
  else none

/-- The slot is granted whatever the pressure and the ramp. -/
def required (supplier : Supplier) (queue : Bool) : Bool :=
  supplier.total < slots.minimum || slots.sticky && supplier.issued queue = 0

/-- What `try_reserve_slot` answers at one moment: `none` grants. -/
def refusal (kind : SlotKind) (supplier : Supplier) (queue : Bool) (allowed : UInt32) (now : Nat) :
    Option Refusal :=
  match slots.noRoom supplier queue with
  | some refused => some refused
  | none =>
      if slots.required supplier queue then none
      else if !allows allowed kind then some .pressure
      else if supplier.elapsed now < slots.ramp then some .ramp
      else none

/-- `available_slots`. -/
def availableSlots (supplier : Supplier) : Nat := slots.maximum - supplier.total

variable {slots} {supplier : Supplier} {queue : Bool}

/-- A reservation that has room is below the maximum. -/
theorem total_lt_of_room (room : slots.noRoom supplier queue = none) :
    supplier.total < slots.maximum := by
  unfold noRoom at room
  split at room
  · cases room
  · next below => exact Nat.lt_of_not_le below

/-- Permits issued meanwhile do not make a slot required. -/
theorem required_issue (other : Bool) (optional : slots.required supplier queue = false) :
    slots.required (supplier.issue other) queue = false := by
  simp only [required, Bool.or_eq_false_iff, Bool.and_eq_false_imp, decide_eq_false_iff_not,
    Supplier.total_issue] at optional ⊢
  refine ⟨by omega, ?_⟩
  intro sticky
  have held := optional.2 sticky
  simp only [Supplier.issue, Function.update_apply]
  split
  · omega
  · exact held

end JvmSlots

end KtBridge.Slots
