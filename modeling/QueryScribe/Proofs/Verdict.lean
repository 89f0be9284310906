import QueryScribe.Generation

/-!
# Verdicts

Whether there is a text for a request is decided before any dialect comes into it. The selections
are checked one after the other, and the first one whose operator does not fit its field is
reported.

Results:
1. `checkAll_ok_iff`, `checkAll_error_iff`: what the checks of all selections come to.
2. `of_eq_ok_iff`, `of_verdict`: a query is there exactly when the checks succeed.
3. `generate_decided`: every generation ends as the checks do, and reports it.
-/

namespace QueryScribe

/-! ## Verdicts on selections -/

/-- Whether selections can be generated from: there are some, and every operator accepts the
category of its field. -/
def Usable (selections : List Selection) : Prop :=
  selections ≠ [] ∧ ∀ selection ∈ selections,
    selection.operator.accepts selection.category = true

/-- Why selections cannot be generated from: there are none, or there is a first one whose operator
does not accept the category of its field. -/
inductive Refuses : List Selection → Failure → Prop
  | empty : Refuses [] .emptySelection
  | misfit {before : List Selection} {selection : Selection} {after : List Selection}
      (accepted : ∀ other ∈ before, other.operator.accepts other.category = true)
      (refused : selection.operator.accepts selection.category = false) :
      Refuses (before ++ selection :: after)
        (.incompatibleOperator selection.name selection.operator selection.category)

/-- The checks of selections, one after the other. -/
def checkAll : List Selection → Except Failure Unit
  | [] => .ok ()
  | selection :: selections => do
    selection.check
    checkAll selections

/-- The verdict on selections. -/
def verdict : List Selection → Except Failure Unit
  | [] => .error .emptySelection
  | selections => checkAll selections

/-- What an event says about a failure. -/
def Event.error? : Event → Option String
  | rejected _ _ failure => some failure.message
  | _ => none

/-- That a generation reports its start and its end, and nothing else. -/
structure Reports (dialect : Dialect) (source target : Entity) (selections : List Selection)
    (operation : Operation) (last : Event) : Prop where
  both : events dialect source target selections operation
    = [.started dialect operation source.name target.name selections.length, last]
  success : ∀ text, generate dialect source target selections operation = .ok text →
    last = .generated dialect text.toUTF8.size
  failure : ∀ failure, generate dialect source target selections operation = .error failure →
    last = .rejected dialect operation failure ∧ last.error? = some failure.message

/-! ## 1. All checks -/

namespace VerdictLemmas

theorem checkAll_cons_of_fits {selection : Selection} (fits : selection.fits = true)
    (selections : List Selection) : checkAll (selection :: selections) = checkAll selections := by
  rw [checkAll, Selection.check, if_pos fits]
  rfl

theorem checkAll_cons_of_misfit {selection : Selection} (misfit : selection.fits = false)
    (selections : List Selection) :
    checkAll (selection :: selections) = .error selection.misfit := by
  rw [checkAll, Selection.check, if_neg (by simp [misfit])]
  rfl

end VerdictLemmas

open VerdictLemmas

/-- The checks succeed exactly when every operator fits. -/
theorem checkAll_ok_iff (selections : List Selection) :
    checkAll selections = .ok () ↔ ∀ selection ∈ selections, selection.fits = true := by
  induction selections with
  | nil => simp [checkAll]
  | cons selection selections ih =>
    cases fits : selection.fits with
    | true => simp [checkAll_cons_of_fits fits, ih, fits]
    | false => simp [checkAll_cons_of_misfit fits, fits]

/-- The checks fail at the first operator that does not fit. -/
theorem checkAll_error_iff (selections : List Selection) (failure : Failure) :
    checkAll selections = .error failure
      ↔ ∃ before selection after, selections = before ++ selection :: after
        ∧ (∀ other ∈ before, other.fits = true) ∧ selection.fits = false
        ∧ selection.misfit = failure := by
  induction selections with
  | nil => simp [checkAll]
  | cons selection selections ih =>
    cases fits : selection.fits with
    | true =>
      rw [checkAll_cons_of_fits fits, ih]
      constructor
      · rintro ⟨before, first, after, rfl, accepted, refused⟩
        exact ⟨selection :: before, first, after, rfl, by simpa [fits] using accepted, refused⟩
      · rintro ⟨before, first, after, whole, accepted, refused⟩
        cases before with
        | nil =>
          obtain ⟨rfl, -⟩ := List.cons.inj whole
          exact absurd (fits.symm.trans refused.1) (by simp)
        | cons other before =>
          exact ⟨before, first, after, (List.cons.inj whole).2,
            fun other mem => accepted other (List.mem_cons_of_mem _ mem), refused⟩
    | false =>
      rw [checkAll_cons_of_misfit fits]
      constructor
      · intro same
        exact ⟨[], selection, selections, rfl, by simp, fits, Except.error.inj same⟩
      · rintro ⟨before, first, after, whole, accepted, refused, rfl⟩
        cases before with
        | nil =>
          obtain ⟨rfl, -⟩ := List.cons.inj whole
          rfl
        | cons other before =>
          obtain ⟨rfl, -⟩ := List.cons.inj whole
          exact absurd (fits.symm.trans (accepted selection (by simp))) (by simp)

/-! ## 2. Queries -/

/-- The verdict is in favour of usable selections. -/
theorem verdict_ok_iff (selections : List Selection) :
    verdict selections = .ok () ↔ Usable selections := by
  cases selections with
  | nil => simp [verdict, Usable]
  | cons selection selections => simp [verdict, checkAll_ok_iff, Usable, Selection.fits]

/-- The verdict against selections says why they are refused. -/
theorem verdict_error_iff (selections : List Selection) (failure : Failure) :
    verdict selections = .error failure ↔ Refuses selections failure := by
  constructor
  · intro refused
    cases selections with
    | nil =>
      cases refused
      exact .empty
    | cons selection selections =>
      obtain ⟨before, first, after, whole, accepted, misfit, rfl⟩ :=
        (checkAll_error_iff _ failure).mp refused
      rw [whole]
      exact .misfit accepted misfit
  · intro refuses
    cases refuses with
    | empty => rfl
    | @misfit before selection after accepted refused =>
      have checked := (checkAll_error_iff (before ++ selection :: after) selection.misfit).mpr
        ⟨before, selection, after, rfl, accepted, refused, rfl⟩
      cases before <;> exact checked

/-- The query for a request asks for what the request asks for, and there is no other. -/
theorem of_eq_ok_iff {source target : Entity} {selections : List Selection} {operation : Operation}
    {query : Query} :
    Query.of source target selections operation = .ok query
      ↔ query.source = source ∧ query.target = target ∧ query.selections = selections
        ∧ query.operation = operation := by
  constructor
  · intro made
    rw [Query.of] at made
    split at made
    · cases made
    · split at made
      · cases made
      · cases made
        exact ⟨rfl, rfl, rfl, rfl⟩
  · rintro ⟨rfl, rfl, rfl, rfl⟩
    rw [Query.of, dif_neg query.selections_ne_nil]
    split
    · next selection found =>
      have misfit := List.find?_some found
      simp [query.fits selection (List.mem_of_find?_eq_some found)] at misfit
    · rfl

/-- There is a query exactly when the verdict is in favour of its selections. -/
theorem of_verdict (source target : Entity) (selections : List Selection) (operation : Operation) :
    (Query.of source target selections operation).map (fun _ => ()) = verdict selections := by
  cases selections with
  | nil => rfl
  | cons selection selections =>
    have decided : verdict (selection :: selections) = checkAll (selection :: selections) := rfl
    rw [decided, Query.of, dif_neg (List.cons_ne_nil selection selections)]
    split
    · next first found =>
      obtain ⟨refused, before, after, whole, accepted⟩ := List.find?_eq_some_iff_append.mp found
      have checked := (checkAll_error_iff _ first.misfit).mpr
        ⟨before, first, after, whole, by simpa using accepted, by simpa using refused, rfl⟩
      exact checked.symm
    · next found => exact ((checkAll_ok_iff _).mpr (by simpa using found)).symm

/-! ## 3. Generations -/

namespace VerdictLemmas

variable (source target : Entity) (selections : List Selection)

theorem generate_verdict (dialect : Dialect) (operation : Operation) :
    (generate dialect source target selections operation).map (fun _ => ())
      = verdict selections := by
  rw [← of_verdict source target selections operation, generate_eq]
  cases Query.of source target selections operation <;> rfl

/-- A generation reports its end behind its start, whichever way it takes. -/
theorem exists_reports (dialect : Dialect) (operation : Operation) :
    ∃ last, Reports dialect source target selections operation last := by
  cases made : Query.of source target selections operation with
  | error failure =>
    refine ⟨.rejected dialect operation failure, ?_, fun text generated => ?_,
      fun other failed => ?_⟩
    · rw [events, generation, made]
      rfl
    · rw [generate_eq, made] at generated
      cases generated
    · rw [generate_eq, made] at failed
      cases failed
      exact ⟨rfl, rfl⟩
  | ok query =>
    refine ⟨.generated dialect (query.text dialect).utf8ByteSize, ?_, fun text generated => ?_,
      fun other failed => ?_⟩
    · rw [events, generation, made]
      rfl
    · rw [generate_eq, made] at generated
      cases generated
      rfl
    · rw [generate_eq, made] at failed
      cases failed

end VerdictLemmas

/-- Selections decide alone how generations end: with a text exactly when they are usable, or else
with the reason why they are refused, whatever is generated from them. Every generation reports
this. -/
theorem generate_decided (selections : List Selection) :
    ∃ decision : Except Failure Unit,
      (decision = .ok () ↔ Usable selections)
      ∧ (∀ failure, decision = .error failure ↔ Refuses selections failure)
      ∧ ∀ source target,
        (∀ dialect operation,
          (generate dialect source target selections operation).map (fun _ => ()) = decision
          ∧ ∃ last, Reports dialect source target selections operation last)
        ∧ (generateAll source target selections).map (·.1)
          = Dialect.all.flatMap (fun dialect => Operation.all.map (dialect, ·))
        ∧ (generateAll source target selections).length = 15
        ∧ ∀ cell ∈ generateAll source target selections,
          cell.2 = generate cell.1.1 source target selections cell.1.2
          ∧ cell.2.map (fun _ => ()) = decision := by
  refine ⟨verdict selections, verdict_ok_iff selections, verdict_error_iff selections,
    fun source target => ⟨fun dialect operation => ⟨?_, exists_reports ..⟩, rfl, rfl, ?_⟩⟩
  · exact generate_verdict source target selections dialect operation
  · intro cell mem
    obtain ⟨dialect, -, mem⟩ := List.mem_flatMap.mp mem
    obtain ⟨operation, -, rfl⟩ := List.mem_map.mp mem
    exact ⟨rfl, generate_verdict source target selections dialect operation⟩

end QueryScribe
