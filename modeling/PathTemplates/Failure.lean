namespace PathTemplates

/-- How a call ends that gives no result. -/
inductive Failure (ε : Type) where
  /-- The caller gets an error. -/
  | returned (error : ε)
  /-- The program is over. -/
  | panicked
  deriving DecidableEq, Repr

namespace Failure

variable {ε δ α : Type}

def map (f : ε → δ) : Failure ε → Failure δ
  | returned e => returned (f e)
  | panicked => panicked

/-- A call that can return an error, as a part of one that can also panic. -/
def returning (r : Except ε α) : Except (Failure ε) α := r.mapError returned

@[simp] theorem returning_ok (a : α) : returning (.ok a : Except ε α) = .ok a := rfl

@[simp] theorem returning_error (e : ε) :
    returning (.error e : Except ε α) = .error (.returned e) := rfl

theorem returning_eq_ok_iff {r : Except ε α} {a : α} : returning r = .ok a ↔ r = .ok a := by
  cases r <;> simp

end Failure

end PathTemplates
