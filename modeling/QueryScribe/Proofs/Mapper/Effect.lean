import QueryScribe.Mapper.Layout
import QueryScribe.Proofs.Mapper.Expression

/-!
# Conditions in effect

The criteria of every statement but a page's are guarded: when what is needed is missing, a
condition that is never true goes first. Behind it stand the conditions of the selected fields whose
values are there.

Results:
1. `keep_append`, `keep_map`: which items their tests leave.
2. `holds_unusableTest`, `holds_suppliedTest`: what the tests of a guard ask for.
3. `inEffect_ofQuery`, `conditions_ne_nil`: the conditions that the criteria of a query put into
   effect, of which a guarded query has at least one.
-/

namespace QueryScribe

/-! ## Queries and contents -/

/-- Whether the fields of a query can be asked for in tests. -/
structure Query.HasTestNames (query : Query) : Prop where
  selected : ∀ selection ∈ query.selections, Mapper.IsTestName selection.name
  declared : ∀ field ∈ query.source.fields, Mapper.IsTestName field.name

/-- Whether criteria on the values are unusable: reading lacks all of them, writing some. -/
def Query.lacksCriteria (contents : String → Content) (query : Query) : Bool :=
  match query.operation with
  | .update | .delete => query.selections.any fun selection => !selection.isPresent contents
  | .select | .selectPage | .insert =>
    query.selections.all fun selection => !selection.isPresent contents

/-- Whether a query comes to nothing: nothing is deleted when all values are null. -/
def Query.isSkipped (contents : String → Content) (query : Query) : Bool :=
  query.operation = .delete
    && query.selections.all fun selection => contents selection.name = .null

namespace Mapper

variable {contents : String → Content}

/-! ## Conditions -/

/-- A condition among the criteria of an assembled statement: the one that is never true, or that of
the selected field at a position. -/
inductive Condition
  | never
  | clause (position : Nat) (clause : Clause)
  deriving Repr, DecidableEq

/-- How a condition joins the one before it. -/
def Condition.connector : Condition → Connector
  | never => .and
  | clause _ body => body.connector

/-- The conditions that criteria may put into effect, each with its test. -/
def Criteria.conditions (criteria : Criteria) : List (Optional Condition) :=
  (criteria.unusable.toList.map fun test => ⟨test, .never⟩)
    ++ criteria.clauses.zipIdx.map fun item => ⟨item.1.test, .clause item.2 item.1.body⟩

/-- The bodies of the items whose test holds. -/
def keep (contents : String → Content) : List (Optional α) → Except Fault (List α)
  | [] => .ok []
  | item :: items => do
    let here ← holds contents item.test.text
    let others ← keep contents items
    return if here then item.body :: others else others

/-- The conditions that criteria put into effect. -/
def Criteria.inEffect (contents : String → Content) (criteria : Criteria) :
    Except Fault (List Condition) :=
  keep contents criteria.conditions

/-! ## 1. Items under tests -/

theorem keep_append (contents : String → Content) (first second : List (Optional α)) :
    keep contents (first ++ second)
      = (keep contents first).bind fun kept => (keep contents second).map (kept ++ ·) := by
  induction first with
  | nil =>
    rw [List.nil_append, keep]
    cases keep contents second <;> rfl
  | cons item items ih =>
    rw [List.cons_append, keep, keep, ih]
    cases holds contents item.test.text with
    | error fault => rfl
    | ok here =>
      cases keep contents items with
      | error fault => rfl
      | ok kept =>
        cases keep contents second with
        | error fault => rfl
        | ok more => cases here <;> simp [bind, Except.bind, Except.map, pure, Except.pure]

/-- Which items are kept, once the values of all tests are known. -/
theorem keep_map {contents : String → Content} {write : β → Optional α} {answer : β → Bool}
    {items : List β}
    (answers : ∀ item ∈ items, holds contents (write item).test.text = .ok (answer item)) :
    keep contents (items.map write)
      = .ok ((items.filter answer).map fun item => (write item).body) := by
  induction items with
  | nil => rfl
  | cons item items ih =>
    rw [List.map_cons, keep, answers item (by simp),
      ih fun other mem => answers other (List.mem_cons_of_mem _ mem)]
    cases value : answer item <;> simp [value, bind, Except.bind, pure, Except.pure]

/-! ## 2. The tests of a guard -/

namespace EffectLemmas

theorem holds_ofCheck (check : Check) (named : IsTestName check.subject) :
    holds contents (Test.ofCheck check).text
      = .ok (check.presence.holds check.category (contents check.subject)) := by
  rw [holds_text (Test.isNamed_ofCheck check named) (Test.fits_ofCheck check), Test.value_ofCheck]

theorem holds_presentTest {field : Field} (named : IsTestName field.name) :
    holds contents (presentTest field).text
      = .ok ((contents field.name).isPresent field.category) :=
  holds_ofCheck (fieldCheck .present field) named

theorem value_missingTest (selection : Selection) :
    (missingTest selection.field).expression.value contents
      = .ok (!selection.isPresent contents) := by
  rw [missingTest, Test.value_ofCheck]
  simp [fieldCheck, Presence.holds, Selection.isPresent, Content.isPresent, Selection.name,
    Selection.category]

/-- The check that the value of a selected field is missing, in parentheses. -/
def missingGroup (selection : Selection) : Test :=
  .group (missingTest selection.field)

theorem isNamed_missingTest {selection : Selection} (named : IsTestName selection.name) :
    (missingTest selection.field).IsNamed :=
  Test.isNamed_ofCheck (fieldCheck .missing selection.field) named

theorem fits_missingGroup (selection : Selection) (level : Nat) :
    (missingGroup selection).Fits level := by
  have fits := Test.fits_ofCheck (fieldCheck .missing selection.field)
  cases level <;> exact fits

/-- Joined by `or`, the checks ask whether some value is missing. -/
theorem holds_join_either {first : Selection} {others : List Selection}
    (named : ∀ selection ∈ first :: others, IsTestName selection.name) :
    holds contents (Test.join .either (missingGroup first) (others.map missingGroup)).text
      = .ok ((first :: others).any fun selection => !selection.isPresent contents) := by
  rw [holds_text]
  · exact Test.value_join_either missingGroup fun selection _ => value_missingTest selection
  · exact Test.isNamed_join missingGroup (fun _ _ first second => ⟨first, second⟩)
      fun selection mem => isNamed_missingTest (named selection mem)
  · exact Test.fits_join_either missingGroup fun selection _ => fits_missingGroup selection 1

/-- Joined by `and`, the checks ask whether all values are missing. -/
theorem holds_join_both {first : Selection} {others : List Selection}
    (named : ∀ selection ∈ first :: others, IsTestName selection.name) :
    holds contents (Test.join .both (missingGroup first) (others.map missingGroup)).text
      = .ok ((first :: others).all fun selection => !selection.isPresent contents) := by
  have fits : (Test.join .both (missingGroup first) (others.map missingGroup)).Fits 1 :=
    Test.fits_join_both missingGroup fun selection _ => fits_missingGroup selection 0
  rw [holds_text]
  · exact Test.value_join_both missingGroup fun selection _ => value_missingTest selection
  · exact Test.isNamed_join missingGroup (fun _ _ first second => ⟨first, second⟩)
      fun selection mem => isNamed_missingTest (named selection mem)
  · exact fits.mono (by decide)

end EffectLemmas

open EffectLemmas

/-- The test of the guard asks whether the criteria are unusable. -/
theorem holds_unusableTest (contents : String → Content) {query : Query}
    (named : ∀ selection ∈ query.selections, IsTestName selection.name) :
    holds contents
        (unusableTest query.operation (firstSelection query) query.selections.tail).text
      = .ok (query.lacksCriteria contents) := by
  rw [← firstSelection_cons_tail query] at named
  rw [Query.lacksCriteria, ← firstSelection_cons_tail query]
  generalize firstSelection query = first at named ⊢
  generalize query.selections.tail = others at named ⊢
  rw [List.tail_cons]
  cases others with
  | nil =>
    have single : holds contents (missingTest first.field).text
        = .ok (!first.isPresent contents) := by
      have isNamed := isNamed_missingTest (named first (by simp))
      rw [holds_text isNamed (Test.fits_ofCheck _), value_missingTest]
    cases query.operation <;> simpa [unusableTest] using single
  | cons second others =>
    cases query.operation with
    | update | delete => exact holds_join_either named
    | select | selectPage | insert => exact holds_join_both named

/-- The test of a deletion asks whether some value is not null. -/
theorem holds_suppliedTest (contents : String → Content) {query : Query}
    (named : ∀ selection ∈ query.selections, IsTestName selection.name) :
    holds contents (suppliedTest (firstSelection query) query.selections.tail).text
      = .ok (query.selections.any fun selection => contents selection.name ≠ .null) := by
  rw [← firstSelection_cons_tail query] at named ⊢
  rw [holds_text, suppliedTest]
  · refine Test.value_join_either (fun selection : Selection => .isNotNull selection.name)
      fun selection _ => ?_
    simp [Test.expression, Expression.value, Except.map]
  · exact Test.isNamed_join (fun selection : Selection => .isNotNull selection.name)
      (fun _ _ first second => ⟨first, second⟩) named
  · exact Test.fits_join_either (fun selection : Selection => .isNotNull selection.name)
      fun _ _ => trivial

/-! ## 3. The conditions of a query -/

/-- The conditions of the selected fields whose values are there, in their order. -/
def presentClauses (contents : String → Content) (query : Query) : List Condition :=
  (query.selections.zipIdx.filter fun (selection, _) => selection.isPresent contents).map
    fun (selection, position) => .clause position (Clause.ofSelection selection)

/-- The condition that is never true, if the criteria of a query are guarded and unusable. -/
def guardClauses (contents : String → Content) (query : Query) : List Condition :=
  if query.operation.isGuarded && query.lacksCriteria contents then [.never] else []

/-- The criteria of a query put the guard's condition and those of its present fields into
effect. -/
theorem inEffect_ofQuery (contents : String → Content) {query : Query}
    (named : ∀ selection ∈ query.selections, IsTestName selection.name) :
    (Criteria.ofQuery query).inEffect contents
      = .ok (guardClauses contents query ++ presentClauses contents query) := by
  have never : keep contents ((Criteria.ofQuery query).unusable.toList.map fun test =>
        (⟨test, .never⟩ : Optional Condition))
      = .ok (guardClauses contents query) := by
    rw [guardClauses]
    cases guarded : query.operation.isGuarded with
    | false => simp [Criteria.ofQuery, guarded, keep]
    | true =>
      simp [Criteria.ofQuery, guarded, keep, holds_unusableTest contents named, bind, Except.bind,
        pure, Except.pure]
  have clauses : keep contents ((Criteria.ofQuery query).clauses.zipIdx.map fun item =>
        (⟨item.1.test, .clause item.2 item.1.body⟩ : Optional Condition))
      = .ok (presentClauses contents query) := by
    rw [Criteria.ofQuery, List.zipIdx_map, List.map_map]
    exact keep_map fun item mem =>
      holds_presentTest (named item.1 (List.fst_mem_of_mem_zipIdx mem))
  rw [Criteria.inEffect, Criteria.conditions, keep_append, never, clauses]
  rfl

namespace EffectLemmas

theorem presentClauses_ne_nil {query : Query} {selection : Selection}
    (mem : selection ∈ query.selections) (isPresent : selection.isPresent contents = true) :
    presentClauses contents query ≠ [] := by
  obtain ⟨position, inRange, rfl⟩ := List.getElem_of_mem mem
  have item : (query.selections[position], position) ∈ query.selections.zipIdx :=
    List.mem_zipIdx_iff_getElem?.mpr (List.getElem?_eq_getElem inRange)
  exact List.ne_nil_of_mem (List.mem_map_of_mem (List.mem_filter.mpr ⟨item, isPresent⟩))

theorem isGuarded_of_mem {operation : Operation}
    (guarded : operation ∈ [.select, .update, .delete]) : operation.isGuarded = true := by
  cases operation <;> first | rfl | exact absurd guarded (by decide)

/-- Either something is lacking, and the guard's condition is there, or some field is present. -/
theorem conditions_ne_nil (contents : String → Content) {query : Query}
    (guarded : query.operation.isGuarded = true) :
    guardClauses contents query ++ presentClauses contents query ≠ [] := by
  cases lacks : query.lacksCriteria contents with
  | true => simp [guardClauses, guarded, lacks]
  | false =>
    obtain ⟨selection, mem, isPresent⟩ :
        ∃ selection ∈ query.selections, selection.isPresent contents = true := by
      have first := List.head_mem query.selections_ne_nil
      -- Writing lacks nothing when all fields are present: the first one will do.
      cases operation : query.operation with
      | update | delete =>
        simp only [Query.lacksCriteria, operation] at lacks
        exact ⟨_, first, by simpa using List.any_eq_false.mp lacks _ first⟩
      | select | selectPage | insert =>
        simp only [Query.lacksCriteria, operation] at lacks
        simpa using List.all_eq_false.mp lacks
    exact List.append_ne_nil_of_right_ne_nil _ (presentClauses_ne_nil mem isPresent)

end EffectLemmas

end Mapper

end QueryScribe
