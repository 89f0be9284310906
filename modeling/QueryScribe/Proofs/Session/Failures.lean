import QueryScribe.Proofs.Query.Tag
import QueryScribe.Proofs.Session.Program
import QueryScribe.Proofs.Verdict

/-!
# Failing steps

A step of a session fails for one reason at a time: a text or a tag that is not understood, a
position or a field that is not there, selections that nothing can be generated from. Its program
writes nothing before it is past all of them, so that a session without its failing steps is the
same session.

Results:
1. `resolve_error_iff`: why a draft is not resolved.
2. `perform_fails_iff`: why a step fails, kind by kind.
3. `atomic_perform`, `step_error_iff`: a step that fails has changed nothing.
4. `answered_successes`, `failures_leave_no_trace`: what is left of a session without its failing
   steps.
-/

namespace QueryScribe

/-! ## 1. Drafts -/

/-- Why a draft is not resolved. The operator's tag is read first. -/
inductive Selection.Draft.Fails (draft : Selection.Draft) : Failure → Prop
  | operator {tag : String} (given : draft.operator = some tag)
      (unknown : Unknown Operator.ofTag tag) : draft.Fails (.unknownOperator tag)
  | connector {tag : String}
      (known : ∀ tag, draft.operator = some tag → ¬ Unknown Operator.ofTag tag)
      (given : draft.connector = some tag) (unknown : Unknown Connector.ofTag tag) :
      draft.Fails (.unknownConnector tag)

namespace FailureLemmas

variable {read : String → Except Failure α} {given : Option String}

/-- Only a tag that is given can fail to be understood. -/
theorem elim_eq_error_iff (fallback : α) (failure : Failure) :
    given.elim (.ok fallback) read = .error failure
      ↔ ∃ tag, given = some tag ∧ read tag = .error failure := by
  cases given <;> simp

theorem elim_eq_ok_iff (fallback : α) :
    (∃ value, given.elim (.ok fallback) read = .ok value)
      ↔ ∀ tag, given = some tag → ¬ Unknown read tag := by
  cases given <;> simp [Unknown]

end FailureLemmas

open FailureLemmas

/-- A draft is not resolved exactly when a tag that it gives is not understood. -/
theorem Selection.Draft.resolve_error_iff (draft : Selection.Draft) (failure : Failure) :
    draft.resolve = .error failure ↔ draft.Fails failure := by
  rw [resolve, bind_eq_error_iff, elim_eq_error_iff]
  constructor
  · rintro (⟨tag, given, unread⟩ | ⟨operator, found, unread⟩)
    · obtain ⟨unknown, rfl⟩ := (Operator.ofTag_eq_error_iff tag failure).mp unread
      exact .operator given unknown
    · obtain missed | ⟨connector, -, impossible⟩ := bind_eq_error_iff.mp unread
      · obtain ⟨tag, given, unread⟩ := (elim_eq_error_iff default failure).mp missed
        obtain ⟨unknown, rfl⟩ := (Connector.ofTag_eq_error_iff tag failure).mp unread
        exact .connector ((elim_eq_ok_iff default).mp ⟨operator, found⟩) given unknown
      · cases impossible
  · rintro (⟨given, unknown⟩ | ⟨known, given, unknown⟩)
    · exact .inl ⟨_, given, (Operator.ofTag_eq_error_iff ..).mpr ⟨unknown, rfl⟩⟩
    · obtain ⟨operator, found⟩ := (elim_eq_ok_iff default).mpr known
      refine .inr ⟨operator, found, bind_eq_error_iff.mpr (.inl ?_)⟩
      exact (elim_eq_error_iff ..).mpr
        ⟨_, given, (Connector.ofTag_eq_error_iff ..).mpr ⟨unknown, rfl⟩⟩

/-! ## 2. Steps -/

namespace Session

/-- The position of the selection that a step is about. -/
def Step.position? : Step → Option Nat
  | connector index _ | column index _ | operator index _ | autoColumn index | drop index =>
    some index
  | _ => none

/-- Why a step fails. A selection or a field that is not there counts before any tag does. -/
inductive Fails (request : Request) : Step → Refusal → Prop
  | load {json : String} {fault : Json.Fault}
      (unread : Json.decodeText Request.decode json = .error fault) :
      Fails request (.load json) (.fault fault)
  | describe {side : Side} {moduleName code : String} {problem : Declaration.Problem}
      (undescribed : Declaration.describe moduleName code = .error problem) :
      Fails request (.describe side moduleName code) (.problem problem)
  | dialect {tag : String} (unknown : Unknown Dialect.ofTag tag) :
      Fails request (.dialect tag) (.failure (.unsupportedDialect tag))
  | operation {tag : String} (unknown : Unknown Operation.ofTag tag) :
      Fails request (.operation tag) (.failure (.unknownOperation tag))
  | select {draft : Selection.Draft} {failure : Failure} (fails : draft.Fails failure) :
      Fails request (.select draft) (.failure failure)
  | noField {name : String} {operator : Option String}
      (undeclared : request.source.field? name = none) :
      Fails request (.selectField name operator) .noSuchField
  | selectField {name : String} {field : Field} {operator : Option String} {failure : Failure}
      (declared : request.source.field? name = some field)
      (fails : Selection.Draft.Fails { field, operator } failure) :
      Fails request (.selectField name operator) (.failure failure)
  | noSelection {step : Step} {index : Nat} (about : step.position? = some index)
      (outside : request.selections.length ≤ index) : Fails request step .noSuchSelection
  | connector {index : Nat} {tag : String} (inside : index < request.selections.length)
      (unknown : Unknown Connector.ofTag tag) :
      Fails request (.connector index tag) (.failure (.unknownConnector tag))
  | operator {index : Nat} {tag : String} (inside : index < request.selections.length)
      (unknown : Unknown Operator.ofTag tag) :
      Fails request (.operator index tag) (.failure (.unknownOperator tag))
  | context {failure : Failure} (refuses : Refuses request.selections failure) :
      Fails request .context (.failure failure)
  | generate {failure : Failure} (refuses : Refuses request.selections failure) :
      Fails request .generate (.failure failure)

namespace FailureLemmas

variable {request : Request} {refusal : Refusal}

open Program

theorem succeeds_change (change : Request → Request) :
    (do modify change; answerState : Program Answer).Succeeds :=
  succeeds_bind (succeeds_modify change) fun _ => succeeds_answerState

theorem succeeds_putSelections (change : List Selection → List Selection) :
    (do putSelections change; answerState : Program Answer).Succeeds :=
  succeeds_change _

theorem addSelection_fails_iff (draft : Selection.Draft) :
    (addSelection draft).Fails request refusal
      ↔ ∃ failure, draft.Fails failure ∧ .failure failure = refusal := by
  simp only [← draft.resolve_error_iff]
  exact attempt_fails_iff_of_succeeds fun _ => succeeds_putSelections _

/-- A selection is not changed if it is not there, or if the change of it fails. -/
theorem changeSelection_fails_iff (index : Nat) (change : Selection → Except Failure Selection) :
    (changeSelection index change).Fails request refusal
      ↔ request.selections.length ≤ index ∧ .noSuchSelection = refusal
        ∨ ∃ selection failure, request.selections[index]? = some selection
          ∧ change selection = .error failure ∧ .failure failure = refusal := by
  rw [changeSelection, get_bind_fails_iff, require_fails_iff, List.getElem?_eq_none_iff]
  refine or_congr_right (exists_congr fun selection => ?_)
  rw [attempt_fails_iff_of_succeeds fun changed => succeeds_putSelections (·.set index changed)]
  exact exists_and_left.symm

/-- A change by a tag fails if the selection is not there, or else if the tag is not understood. -/
theorem changeByTag_fails_iff {index : Nat} {tag : String} {read : String → Except Failure α}
    {missing : Failure}
    (fails : ∀ failure, read tag = .error failure ↔ Unknown read tag ∧ failure = missing)
    (change : Selection → α → Selection) :
    (changeSelection index fun selection => do
        let value ← read tag
        return change selection value).Fails request refusal
      ↔ request.selections.length ≤ index ∧ .noSuchSelection = refusal
        ∨ index < request.selections.length ∧ Unknown read tag ∧ .failure missing = refusal := by
  rw [changeSelection_fails_iff]
  refine or_congr_right ⟨?_, ?_⟩
  · rintro ⟨selection, failure, found, unchanged, rfl⟩
    obtain unread | ⟨_, _, impossible⟩ := bind_eq_error_iff.mp unchanged
    · obtain ⟨unknown, rfl⟩ := (fails failure).mp unread
      exact ⟨(List.getElem?_eq_some_iff.mp found).1, unknown, rfl⟩
    · cases impossible
  · rintro ⟨inside, unknown, rfl⟩
    have unread := (fails missing).mpr ⟨unknown, rfl⟩
    exact ⟨_, missing, List.getElem?_eq_getElem inside, bind_eq_error_iff.mpr (.inl unread), rfl⟩

theorem of_eq_error_iff (source target : Entity) (selections : List Selection)
    (operation : Operation) (failure : Failure) :
    Query.of source target selections operation = .error failure ↔ Refuses selections failure := by
  rw [← verdict_error_iff, ← of_verdict source target selections operation]
  cases Query.of source target selections operation <;> simp [Except.map]

theorem generate_eq_error_iff (failure : Failure) :
    request.generate = .error failure ↔ Refuses request.selections failure := by
  rw [← of_eq_error_iff request.source request.target request.selections request.operation,
    Request.generate, generate_eq]
  cases Query.of request.source request.target request.selections request.operation <;>
    simp [Except.map]

theorem fails_of_perform {step : Step} (failed : (perform step).Fails request refusal) :
    Fails request step refusal := by
  cases step with
  | load json =>
    obtain ⟨fault, unread, rfl⟩ := (attempt_fails_iff_of_succeeds fun _ =>
      succeeds_bind (succeeds_set _) fun _ => succeeds_answerState).mp failed
    exact .load unread
  | describe side moduleName code =>
    obtain ⟨problem, undescribed, rfl⟩ :=
      (attempt_fails_iff_of_succeeds fun _ => succeeds_change _).mp failed
    exact .describe undescribed
  | dialect tag =>
    obtain ⟨failure, unread, rfl⟩ :=
      (attempt_fails_iff_of_succeeds fun _ => succeeds_change _).mp failed
    obtain ⟨unknown, rfl⟩ := (Dialect.ofTag_eq_error_iff tag failure).mp unread
    exact .dialect unknown
  | operation tag =>
    obtain ⟨failure, unread, rfl⟩ :=
      (attempt_fails_iff_of_succeeds fun _ => succeeds_change _).mp failed
    obtain ⟨unknown, rfl⟩ := (Operation.ofTag_eq_error_iff tag failure).mp unread
    exact .operation unknown
  | select draft =>
    obtain ⟨failure, fails, rfl⟩ := (addSelection_fails_iff draft).mp failed
    exact .select fails
  | selectField name operator =>
    obtain ⟨undeclared, rfl⟩ | ⟨field, declared, failed⟩ :=
      require_fails_iff.mp (get_bind_fails_iff.mp failed)
    · exact .noField undeclared
    · obtain ⟨failure, fails, rfl⟩ := (addSelection_fails_iff _).mp failed
      exact .selectField declared fails
  | connector index tag =>
    obtain ⟨outside, rfl⟩ | ⟨inside, unknown, rfl⟩ :=
      (changeByTag_fails_iff (Connector.ofTag_eq_error_iff tag) _).mp failed
    · exact .noSelection rfl outside
    · exact .connector inside unknown
  | column index name =>
    obtain ⟨outside, rfl⟩ | ⟨_, _, _, impossible, _⟩ :=
      (changeSelection_fails_iff index _).mp failed
    · exact .noSelection rfl outside
    · cases impossible
  | operator index tag =>
    obtain ⟨outside, rfl⟩ | ⟨inside, unknown, rfl⟩ :=
      (changeByTag_fails_iff (Operator.ofTag_eq_error_iff tag) _).mp failed
    · exact .noSelection rfl outside
    · exact .operator inside unknown
  | autoColumn index =>
    obtain ⟨outside, rfl⟩ | ⟨_, _, _, impossible, _⟩ :=
      (changeSelection_fails_iff index _).mp (get_bind_fails_iff.mp failed)
    · exact .noSelection rfl outside
    · cases impossible
  | drop index =>
    obtain ⟨outside, rfl⟩ | ⟨_, _, failed⟩ := require_fails_iff.mp (get_bind_fails_iff.mp failed)
    · exact .noSelection rfl (List.getElem?_eq_none_iff.mp outside)
    · exact absurd failed (not_fails_of_succeeds (succeeds_putSelections _))
  | context =>
    obtain ⟨failure, refused, rfl⟩ :=
      (attempt_fails_iff_of_succeeds fun _ => succeeds_pure _).mp (get_bind_fails_iff.mp failed)
    exact .context ((of_eq_error_iff ..).mp refused)
  | generate =>
    obtain ⟨failure, refused, rfl⟩ :=
      (attempt_fails_iff_of_succeeds fun _ => succeeds_pure _).mp (get_bind_fails_iff.mp failed)
    exact .generate ((generate_eq_error_iff failure).mp refused)
  -- Declaring fields, exchanging the sides and asking for the selections never fail.
  | entity | field | swap | selections => cases failed

theorem perform_of_fails {step : Step} (fails : Fails request step refusal) :
    (perform step).Fails request refusal := by
  cases fails with
  | load unread => exact attempt_fails_iff.mpr (.inl ⟨_, unread, rfl⟩)
  | describe undescribed => exact attempt_fails_iff.mpr (.inl ⟨_, undescribed, rfl⟩)
  | dialect unknown =>
    have unread := (Dialect.ofTag_eq_error_iff _ _).mpr ⟨unknown, rfl⟩
    exact attempt_fails_iff.mpr (.inl ⟨_, unread, rfl⟩)
  | operation unknown =>
    have unread := (Operation.ofTag_eq_error_iff _ _).mpr ⟨unknown, rfl⟩
    exact attempt_fails_iff.mpr (.inl ⟨_, unread, rfl⟩)
  | select fails => exact (addSelection_fails_iff _).mpr ⟨_, fails, rfl⟩
  | noField undeclared =>
    exact get_bind_fails_iff.mpr (require_fails_iff.mpr (.inl ⟨undeclared, rfl⟩))
  | selectField declared fails =>
    exact get_bind_fails_iff.mpr (require_fails_iff.mpr
      (.inr ⟨_, declared, (addSelection_fails_iff _).mpr ⟨_, fails, rfl⟩⟩))
  | @noSelection _ index about outside =>
    have missing (change : Selection → Except Failure Selection) :
        (changeSelection index change).Fails request .noSuchSelection :=
      (changeSelection_fails_iff index change).mpr (.inl ⟨outside, rfl⟩)
    cases step with
    | connector | column | operator =>
      cases about
      exact missing _
    | autoColumn =>
      cases about
      exact get_bind_fails_iff.mpr (missing _)
    | drop =>
      cases about
      exact get_bind_fails_iff.mpr
        (require_fails_iff.mpr (.inl ⟨List.getElem?_eq_none_iff.mpr outside, rfl⟩))
    | _ => cases about
  | connector inside unknown =>
    exact (changeByTag_fails_iff (Connector.ofTag_eq_error_iff _) _).mpr
      (.inr ⟨inside, unknown, rfl⟩)
  | operator inside unknown =>
    exact (changeByTag_fails_iff (Operator.ofTag_eq_error_iff _) _).mpr
      (.inr ⟨inside, unknown, rfl⟩)
  | context refuses =>
    have refused :=
      (of_eq_error_iff request.source request.target _ request.operation _).mpr refuses
    exact get_bind_fails_iff.mpr (attempt_fails_iff.mpr (.inl ⟨_, refused, rfl⟩))
  | generate refuses =>
    have refused := (generate_eq_error_iff _).mpr refuses
    exact get_bind_fails_iff.mpr (attempt_fails_iff.mpr (.inl ⟨_, refused, rfl⟩))

end FailureLemmas

open FailureLemmas

/-- A step fails for the reason that its kind gives, and for no other. -/
theorem perform_fails_iff (request : Request) (step : Step) (refusal : Refusal) :
    (perform step).Fails request refusal ↔ Fails request step refusal :=
  ⟨fails_of_perform, perform_of_fails⟩

/-! ## 3. Steps that fail -/

namespace FailureLemmas

open Program

/-- What is left to do once a computation has succeeded cannot fail any more. -/
theorem atomic_attempt {α ε : Type} {next : α → Program Answer} {rename : ε → Refusal}
    (result : Except ε α)
    (succeeds : ∀ value, (next value).Succeeds) : (attempt rename result >>= next).Atomic :=
  atomic_bind_of_reads (reads_attempt rename result) fun value => (succeeds value).atomic

theorem atomic_addSelection (draft : Selection.Draft) : (addSelection draft).Atomic :=
  atomic_attempt draft.resolve fun _ => succeeds_putSelections _

theorem atomic_changeSelection (index : Nat) (change : Selection → Except Failure Selection) :
    (changeSelection index change).Atomic :=
  atomic_bind_of_reads reads_get fun request =>
    atomic_bind_of_reads (reads_require _ request.selections[index]?) fun selection =>
      atomic_attempt (change selection) fun _ => succeeds_putSelections _

end FailureLemmas

/-- The program of every step is past all that can fail before it writes anything. -/
theorem atomic_perform (step : Step) : (perform step).Atomic := by
  cases step with
  | load json =>
    exact atomic_attempt _ fun _ =>
      Program.succeeds_bind (Program.succeeds_set _) fun _ => Program.succeeds_answerState
  | describe | dialect | operation => exact atomic_attempt _ fun _ => succeeds_change _
  | select draft => exact atomic_addSelection draft
  | selectField name operator =>
    exact Program.atomic_bind_of_reads Program.reads_get fun request =>
      Program.atomic_bind_of_reads (Program.reads_require _ (request.source.field? name))
        fun field => atomic_addSelection _
  | connector index | column index | operator index => exact atomic_changeSelection index _
  | autoColumn index =>
    exact Program.atomic_bind_of_reads Program.reads_get fun request =>
      atomic_changeSelection index _
  | drop index =>
    exact Program.atomic_bind_of_reads Program.reads_get fun request =>
      Program.atomic_bind_of_reads (Program.reads_require _ request.selections[index]?)
        fun _ => (succeeds_putSelections _).atomic
  | context | generate =>
    exact Program.atomic_bind_of_reads Program.reads_get fun request =>
      atomic_attempt _ fun _ => Program.succeeds_pure _
  -- The others have nothing in them that can fail.
  | entity | field | swap | selections => exact Program.Succeeds.atomic fun _ => ⟨_, rfl⟩

/-- A step answers with an error exactly if it fails, and then leaves the request as it is. -/
theorem step_error_iff (request : Request) (step : Step) (refusal : Refusal) :
    ((Session.step request step).1 = .error refusal ↔ Fails request step refusal)
      ∧ (Fails request step refusal → (Session.step request step).2 = request) := by
  have reason := perform_fails_iff request step refusal
  exact ⟨reason, fun fails => atomic_perform step request refusal (reason.mpr fails)⟩

/-! ## 4. Sessions -/

/-- The steps of a session, each with its answer. -/
def answered (request : Request) (steps : List Step) : List (Step × Except Refusal Answer) :=
  steps.zip (run request steps).1

/-- The steps of a session that succeed. -/
def successes (request : Request) (steps : List Step) : List Step :=
  ((answered request steps).filter (·.2.isOk)).map Prod.fst

namespace FailureLemmas

theorem answered_cons (request : Request) (first : Step) (steps : List Step) :
    answered request (first :: steps)
      = (first, (Session.step request first).1)
        :: answered (Session.step request first).2 steps := rfl

theorem run_cons (request : Request) (first : Step) (steps : List Step) :
    (run request (first :: steps)).2 = (run (Session.step request first).2 steps).2 := rfl

/-- A first step that fails is left out, and the others go on from the same request. -/
theorem successes_cons_of_error {request : Request} {first : Step} {refusal : Refusal}
    (fails : Fails request first refusal) (steps : List Step) :
    successes request (first :: steps) = successes request steps := by
  obtain ⟨answer, unchanged⟩ := step_error_iff request first refusal
  rw [successes, answered_cons, answer.mpr fails, unchanged fails]
  rfl

theorem successes_cons_of_ok {request : Request} {first : Step} {answer : Answer}
    (answers : (Session.step request first).1 = .ok answer) (steps : List Step) :
    successes request (first :: steps)
      = first :: successes (Session.step request first).2 steps := by
  rw [successes, answered_cons, answers]
  rfl

end FailureLemmas

/-- Without its failing steps, a session has the same answers to all others, by induction on the
steps: where the first one fails, the others begin with the request that it was given. -/
theorem answered_successes (request : Request) (steps : List Step) :
    answered request (successes request steps)
      = (answered request steps).filter (·.2.isOk) := by
  induction steps generalizing request with
  | nil => rfl
  | cons first steps ih =>
    cases answers : (Session.step request first).1 with
    | error refusal =>
      have fails := (step_error_iff request first refusal).1.mp answers
      have unchanged := (step_error_iff request first refusal).2 fails
      rw [successes_cons_of_error fails, ih, answered_cons, answers, unchanged]
      rfl
    | ok answer =>
      rw [successes_cons_of_ok answers, answered_cons, answered_cons, ih, answers]
      rfl

/-- Without its failing steps, a session ends in the same request. -/
theorem run_successes (request : Request) (steps : List Step) :
    (run request (successes request steps)).2 = (run request steps).2 := by
  induction steps generalizing request with
  | nil => rfl
  | cons first steps ih =>
    rw [run_cons]
    cases answers : (Session.step request first).1 with
    | error refusal =>
      have fails := (step_error_iff request first refusal).1.mp answers
      rw [successes_cons_of_error fails, ih, (step_error_iff request first refusal).2 fails]
    | ok answer => rw [successes_cons_of_ok answers, run_cons, ih]

/-- Failing steps leave no trace. In whatever request, a step answers with an error exactly for the
reasons that its kind has, and then the request stays as it is. A session without its failing steps
gives all its other steps the same answers, and ends in the same request. -/
theorem failures_leave_no_trace (request : Request) (steps : List Step) :
    (∀ step refusal,
        ((Session.step request step).1 = .error refusal ↔ Fails request step refusal)
        ∧ (Fails request step refusal → (Session.step request step).2 = request))
      ∧ answered request (successes request steps)
        = (answered request steps).filter (·.2.isOk)
      ∧ (run request (successes request steps)).2 = (run request steps).2 :=
  ⟨step_error_iff request, answered_successes request steps, run_successes request steps⟩

/-- What is left of a session that asks for a selection that is not there, and for an operation that
does not exist. -/
example :
    successes start [.dialect "XML", .connector 0 "or", .swap, .operation "upsert"]
      = [.dialect "XML", .swap] := by
  decide +kernel

end Session

end QueryScribe
