/-!
# Success

A computation that may fail succeeds exactly when each of its steps does, and otherwise fails as the
first of them that does not. What a failure is called has no part in that.
-/

namespace QueryScribe

variable {ε ε' α β : Type}

theorem bind_eq_ok_iff {first : Except ε α} {next : α → Except ε β} {result : β} :
    first >>= next = .ok result ↔ ∃ value, first = .ok value ∧ next value = .ok result := by
  cases first <;> simp [bind, Except.bind]

theorem error_ne_ok {fault : ε} {result : α} : (Except.error fault : Except ε α) ≠ .ok result := by
  simp

theorem mapError_eq_ok_iff {first : Except ε α} {rename : ε → ε'} {result : α} :
    first.mapError rename = .ok result ↔ first = .ok result := by
  cases first with
  | error fault => exact iff_of_false error_ne_ok error_ne_ok
  | ok value =>
    change Except.ok value = .ok result ↔ _
    rw [Except.ok.injEq, Except.ok.injEq]

theorem mapError_eq_error_iff {first : Except ε α} {rename : ε → ε'} {fault : ε'} :
    first.mapError rename = .error fault
      ↔ ∃ cause, first = .error cause ∧ rename cause = fault := by
  cases first with
  | error cause =>
    change Except.error (rename cause) = .error fault ↔ _
    simp
  | ok value =>
    change Except.ok value = .error fault ↔ _
    simp

theorem bind_eq_error_iff {first : Except ε α} {next : α → Except ε β} {fault : ε} :
    first >>= next = .error fault
      ↔ first = .error fault ∨ ∃ value, first = .ok value ∧ next value = .error fault := by
  cases first <;> simp [bind, Except.bind]

end QueryScribe
