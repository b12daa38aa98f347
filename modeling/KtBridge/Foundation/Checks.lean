import Mathlib.Logic.Basic

/-! # Checked computations

A computation in `Except` that succeeds has passed each of its checks: what a `do` block
that returned has established, one check at a time.
-/

namespace Foundation

variable {ε α β : Type}

/-- Go on only if the condition holds. -/
def require (condition : Bool) (error : ε) : Except ε Unit :=
  if condition then .ok () else .error error

/-- Go on only if the condition does not hold. -/
def reject (condition : Bool) (error : ε) : Except ε Unit := require (!condition) error

namespace Checks

theorem bind_eq_ok (computation : Except ε α) (next : α → Except ε β) (result : β) :
    (computation >>= next) = .ok result ↔ ∃ value, computation = .ok value ∧ next value = .ok result := by
  cases computation <;> simp [Bind.bind, Except.bind]

theorem ok_bind (value : α) (next : α → Except ε β) : (Except.ok value >>= next) = next value := rfl

theorem require_eq_ok (condition : Bool) (error : ε) (done : Unit) :
    require condition error = .ok done ↔ condition := by
  cases condition <;> simp [require]

theorem require_bind_eq_ok (condition : Bool) (error : ε) (next : Unit → Except ε β) (result : β) :
    (require condition error >>= next) = .ok result ↔ condition ∧ next () = .ok result := by
  rw [bind_eq_ok]
  constructor
  · rintro ⟨done, passed, same⟩
    exact ⟨(require_eq_ok condition error done).mp passed, same⟩
  · rintro ⟨holds, same⟩
    exact ⟨(), (require_eq_ok condition error ()).mpr holds, same⟩

theorem reject_bind_eq_ok (condition : Bool) (error : ε) (next : Unit → Except ε β) (result : β) :
    (reject condition error >>= next) = .ok result ↔ condition = false ∧ next () = .ok result := by
  rw [reject, require_bind_eq_ok, Bool.not_eq_true']

theorem reject_bind (condition : Bool) (error : ε) (next : Unit → Except ε β)
    (fails : condition = false) : (reject condition error >>= next) = next () := by
  subst fails
  rfl

theorem reject_false_bind (error : ε) (next : Unit → Except ε β) :
    (reject false error >>= next) = next () := rfl

end Checks

end Foundation
