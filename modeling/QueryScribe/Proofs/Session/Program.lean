import QueryScribe.Proofs.Success
import QueryScribe.Session.Request

/-!
# Programs on a request

A program may write before it fails, and what it has written then stays. A program leaves no such
half-done change behind if everything in it that can fail comes before the first thing that writes.

Results:
1. `runFrom_bind`, `runFrom_attempt`, `runFrom_require`: what the parts of a program come to.
2. `Succeeds.atomic`, `atomic_bind_of_reads`: how programs are put together that change nothing when
   they fail.
3. `fails_bind_iff`, `attempt_fails_iff`, `require_fails_iff`: why a program fails.
4. `preserves_bind`: what a program preserves, whether it fails or not.
-/

namespace QueryScribe.Session

namespace Program

variable {α β ε : Type} {request : Request} {refusal : Refusal}

/-! ## 1. Parts of programs -/

/-- The second part begins with what the first one has made of the request. If the first one fails,
so does the whole, and the request is what it has become by then. -/
theorem runFrom_bind (first : Program α) (next : α → Program β) :
    (first >>= next).runFrom request
      = match first.runFrom request with
        | (.ok value, after) => (next value).runFrom after
        | (.error refusal, after) => (.error refusal, after) := by
  change (match first.runFrom request with
    | (result, after) => StateT.run (ExceptT.bindCont next result) after) = _
  rcases first.runFrom request with ⟨_ | _, after⟩ <;> rfl

theorem runFrom_attempt (rename : ε → Refusal) (result : Except ε α) :
    (attempt rename result).runFrom request = (result.mapError rename, request) := by
  cases result <;> rfl

theorem runFrom_require (refusal : Refusal) (value : Option α) :
    (require refusal value).runFrom request = (value.elim (.error refusal) .ok, request) := by
  cases value <;> rfl

/-! ## 2. Programs that change nothing when they fail -/

/-- Whether a program never changes the request. -/
def Reads (program : Program α) : Prop :=
  ∀ request, (program.runFrom request).2 = request

/-- Whether a program never fails. -/
def Succeeds (program : Program α) : Prop :=
  ∀ request, ∃ value, (program.runFrom request).1 = .ok value

/-- Why a program fails when it begins with a request. -/
def Fails (program : Program α) (request : Request) (refusal : Refusal) : Prop :=
  (program.runFrom request).1 = .error refusal

/-- Whether a program that fails leaves the request as it was before. -/
def Atomic (program : Program α) : Prop :=
  ∀ request refusal, program.Fails request refusal → (program.runFrom request).2 = request

variable {program : Program α} {next : α → Program β}

theorem Reads.atomic (reads : program.Reads) : program.Atomic :=
  fun request _ _ => reads request

theorem Succeeds.atomic (succeeds : program.Succeeds) : program.Atomic := by
  intro request refusal fails
  obtain ⟨value, answers⟩ := succeeds request
  cases fails.symm.trans answers

theorem reads_get : (get : Program Request).Reads := fun _ => rfl

theorem reads_attempt (rename : ε → Refusal) (result : Except ε α) :
    (attempt rename result).Reads := fun request => by rw [runFrom_attempt]

theorem reads_require (refusal : Refusal) (value : Option α) : (require refusal value).Reads :=
  fun request => by rw [runFrom_require]

theorem succeeds_pure (value : α) : (pure value : Program α).Succeeds := fun _ => ⟨value, rfl⟩

theorem succeeds_set (next : Request) : (set next : Program Unit).Succeeds := fun _ => ⟨(), rfl⟩

theorem succeeds_modify (change : Request → Request) : (modify change : Program Unit).Succeeds :=
  fun _ => ⟨(), rfl⟩

theorem succeeds_answerState : answerState.Succeeds := fun request => ⟨.state request, rfl⟩

theorem succeeds_bind (first : program.Succeeds) (second : ∀ value, (next value).Succeeds) :
    (program >>= next).Succeeds := by
  intro request
  obtain ⟨value, answers⟩ := first request
  obtain ⟨after, second⟩ := second value (program.runFrom request).2
  refine ⟨after, ?_⟩
  rw [runFrom_bind]
  rcases result : program.runFrom request with ⟨first, changed⟩
  rw [result] at answers second
  cases answers
  exact second

/-- A program that has changed nothing so far is as atomic as the rest of it. -/
theorem atomic_bind_of_reads (first : program.Reads) (second : ∀ value, (next value).Atomic) :
    (program >>= next).Atomic := by
  intro request refusal fails
  have unchanged := first request
  unfold Fails at fails
  rw [runFrom_bind] at fails ⊢
  rcases result : program.runFrom request with ⟨_ | value, after⟩
  · rw [result] at unchanged
    exact unchanged
  · rw [result] at fails unchanged
    have same : after = request := unchanged
    rw [same] at fails ⊢
    exact second value request refusal fails

/-- A program that writes first and fails afterwards has left something behind. -/
example : ¬ (do
    modify fun request => { request with dialect := .markup }
    throw .noSuchField : Program Answer).Atomic := by
  intro atomic
  exact absurd (congrArg Request.dialect (atomic start .noSuchField rfl)) (by decide)

/-! ## 3. Failures -/

/-- A program fails in its first part, or else in the rest of it. -/
theorem fails_bind_iff :
    (program >>= next).Fails request refusal
      ↔ program.Fails request refusal
        ∨ ∃ value, (program.runFrom request).1 = .ok value
          ∧ (next value).Fails (program.runFrom request).2 refusal := by
  unfold Fails
  rw [runFrom_bind]
  rcases program.runFrom request with ⟨failed | value, after⟩ <;> simp

theorem not_fails_of_succeeds (succeeds : program.Succeeds) : ¬ program.Fails request refusal := by
  intro fails
  obtain ⟨value, answers⟩ := succeeds request
  cases fails.symm.trans answers

/-- A program that reads the request fails as the rest of it does. -/
theorem get_bind_fails_iff {next : Request → Program β} :
    (get >>= next).Fails request refusal ↔ (next request).Fails request refusal := Iff.rfl

/-- What begins with a computation fails as that does, under another name, or else as the rest. -/
theorem attempt_fails_iff {rename : ε → Refusal} {result : Except ε α} :
    (attempt rename result >>= next).Fails request refusal
      ↔ (∃ cause, result = .error cause ∧ rename cause = refusal)
        ∨ ∃ value, result = .ok value ∧ (next value).Fails request refusal := by
  rw [fails_bind_iff, Fails, runFrom_attempt]
  simp only [mapError_eq_error_iff, mapError_eq_ok_iff]

/-- What cannot fail after a computation fails for the computation's reasons. -/
theorem attempt_fails_iff_of_succeeds {rename : ε → Refusal} {result : Except ε α}
    (succeeds : ∀ value, (next value).Succeeds) :
    (attempt rename result >>= next).Fails request refusal
      ↔ ∃ cause, result = .error cause ∧ rename cause = refusal := by
  rw [attempt_fails_iff]
  refine or_iff_left ?_
  rintro ⟨value, -, fails⟩
  exact not_fails_of_succeeds (succeeds value) fails

/-- What begins with a value that has to be there fails without it, or else as the rest. -/
theorem require_fails_iff {missing : Refusal} {value : Option α} :
    (require missing value >>= next).Fails request refusal
      ↔ value = none ∧ missing = refusal
        ∨ ∃ found, value = some found ∧ (next found).Fails request refusal := by
  rw [fails_bind_iff, Fails, runFrom_require]
  cases value <;> simp

/-! ## 4. Invariants -/

/-- Whether a program keeps a property of the request, also where it fails. -/
def Preserves (holds : Request → Prop) (program : Program α) : Prop :=
  ∀ request, holds request → holds (program.runFrom request).2

variable {holds : Request → Prop}

theorem Reads.preserves (reads : program.Reads) : program.Preserves holds := by
  intro request start
  rw [reads request]
  exact start

/-- What the parts of a program preserve, each for the values that come up, the whole preserves. -/
theorem preserves_bind (first : program.Preserves holds)
    (second : ∀ request value, holds request → (program.runFrom request).1 = .ok value →
      (next value).Preserves holds) : (program >>= next).Preserves holds := by
  intro request start
  have middle := first request start
  have rest := second request
  rw [runFrom_bind]
  rcases result : program.runFrom request with ⟨_ | value, after⟩ <;> rw [result] at middle rest
  · exact middle
  · exact rest value start rfl after middle

theorem preserves_get_bind {next : Request → Program β}
    (rest : ∀ request, holds request → (next request).Preserves holds) :
    (get >>= next).Preserves holds := by
  refine preserves_bind reads_get.preserves fun request value start answers => ?_
  cases answers
  exact rest request start

theorem preserves_attempt_bind {rename : ε → Refusal} {result : Except ε α}
    (rest : ∀ value, result = .ok value → (next value).Preserves holds) :
    (attempt rename result >>= next).Preserves holds := by
  refine preserves_bind (reads_attempt rename result).preserves fun request value _ answers => ?_
  rw [runFrom_attempt] at answers
  exact rest value (mapError_eq_ok_iff.mp answers)

theorem preserves_require_bind {missing : Refusal} {value : Option α}
    (rest : ∀ found, (next found).Preserves holds) :
    (require missing value >>= next).Preserves holds :=
  preserves_bind (reads_require missing value).preserves fun _ found _ _ => rest found

/-- A change that keeps the property, and the answer to it. -/
theorem preserves_change {change : Request → Request}
    (keeps : ∀ request, holds request → holds (change request)) :
    (do modify change; answerState : Program Answer).Preserves holds := keeps

end Program

end QueryScribe.Session
