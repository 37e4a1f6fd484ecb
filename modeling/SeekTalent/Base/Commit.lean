import SeekTalent.Base.Run

/-!
# A program in one transaction

The context manager of a database connection ends its transaction by how the body ends: what the
body wrote is committed where it returns, and rolled back where it raises. The exception goes on
to the caller either way.
-/

namespace Stateful

variable {σ ε α : Type} {body : Run σ ε α} {s s' : σ}

/-- What is kept of a body that began with `before`. -/
def commit (before : σ) : Except ε α × σ → Except ε α × σ
  | (.ok answer, after) => (.ok answer, after)
  | (.error error, _) => (.error error, before)

/-- `with connect() as conn:` -/
def transaction (body : Run σ ε α) : Run σ ε α := fun s => commit s (exec body s)

theorem exec_transaction : exec (transaction body) s = commit s (exec body s) := rfl

theorem exec_transaction_of_ok {answer : α} (h : exec body s = (.ok answer, s')) :
    exec (transaction body) s = (.ok answer, s') := by
  rw [exec_transaction, h]
  rfl

theorem exec_transaction_of_error {error : ε} (h : exec body s = (.error error, s')) :
    exec (transaction body) s = (.error error, s) := by
  rw [exec_transaction, h]
  rfl

/-- **What a caller sees of an exception**: the state as it was. -/
theorem unchanged_of_raised {error : ε} (h : exec (transaction body) s = (.error error, s')) :
    s' = s := by
  cases hbody : exec body s with
  | mk ending after =>
    cases ending with
    | ok answer =>
      rw [exec_transaction_of_ok hbody] at h
      cases h
    | error error =>
      rw [exec_transaction_of_error hbody] at h
      exact (Prod.mk.inj h).2.symm

end Stateful
