import QueryScribe.Proofs.Java.Call
import QueryScribe.Proofs.Mapper.Clause

/-!
# Conditions across dialects

A specification, a chain and a statement write the same conditions, each with operators, guards and
columns of its own. Read back from the three texts of a query, the conditions are as many as the
selected fields, and those at the same place say the same of the same field and column. What joins
them shows in the chain and in the statement only.

Results:
1. `getElem?_ofSelections`: which links of a chain come after an `or`.
2. `conditions_agree`: what is read from the three texts of a query.
-/

namespace QueryScribe

open Java Mapper Markup

/-! ## Conditions that say the same -/

/-- Whether a predicate, a call and a clause all compare a selected field with its column in the
target. Code reads the field by its accessor, a statement by its name; a column is a name in a
predicate, the reference to an accessor in a call, and in snake case in a clause. -/
structure Alike (target : String) (selection : Selection) (predicate call clause : Comparison) :
    Prop where
  operators : predicate.operator = selection.operator ∧ call.operator = selection.operator
    ∧ clause.operator = selection.operator
  categories : predicate.guard.category = selection.category
    ∧ call.guard.category = selection.category ∧ clause.guard.category = selection.category
  presences : predicate.guard.presence = .present ∧ call.guard.presence = .present
    ∧ clause.guard.presence = .present
  subjects : predicate.guard.subject = accessor selection.name
    ∧ call.guard.subject = accessor selection.name ∧ clause.guard.subject = selection.name
  values : predicate.value = accessor selection.name ∧ call.value = accessor selection.name
    ∧ clause.value = selection.name
  columns : predicate.column = selection.column
    ∧ call.column = methodReference target selection.column
    ∧ clause.column = snakeCase selection.column

namespace ConditionsLemmas

theorem alike_ofSelection (target : String) (afterOr : Bool) (selection : Selection) :
    Alike target selection (Predicate.ofSelection selection).comparison
      (Link.ofSelection target afterOr selection).comparison
      (Criterion.ofSelection selection).comparison where
  operators := ⟨rfl, rfl, rfl⟩
  categories := ⟨rfl, rfl, rfl⟩
  presences := ⟨rfl, rfl, rfl⟩
  subjects := ⟨rfl, rfl, rfl⟩
  values := ⟨rfl, rfl, rfl⟩
  columns := ⟨rfl, rfl, rfl⟩

end ConditionsLemmas

open ConditionsLemmas

/-! ## 1. Links at their places -/

/-- A link comes after an `or` if its connector is one, unless it is the first. -/
theorem getElem?_ofSelections (target : String) {selections : List Selection} {i : Nat}
    {selection : Selection} (found : selections[i]? = some selection) :
    (Link.ofSelections target selections)[i]?
      = some (Link.ofSelection target (i ≠ 0 ∧ selection.connector = .or) selection) := by
  cases selections with
  | nil => simp at found
  | cons first others =>
    cases i with
    | zero =>
      rw [List.getElem?_cons_zero, Option.some.injEq] at found
      subst found
      simp [Link.ofSelections]
    | succ i =>
      rw [List.getElem?_cons_succ] at found
      simp [Link.ofSelections, found]

/-! ## 2. The same conditions -/

/-- The three dialects render the same conditions. What is read from the predicates of the
specification, from the chain of the service method and from the criteria of the statement are three
lists with one condition for each selected field, and at every place they agree. A call comes
directly after an `or` exactly when the clause at its place is joined by one, the first place
aside. -/
theorem conditions_agree (query : Query) (named : query.HasIdentifiers)
    (filtered : query.operation ∈ [.select, .selectPage, .update, .delete]) :
    ∃ predicates links criteria,
      (∃ block, query.text .specification = specificationText query block
        ∧ readPredicates block = some predicates)
      ∧ (∃ kind calls ending, query.text .fluent = serviceText query (chainText kind calls ending)
        ∧ '\n' ∉ kind.toList ∧ '\n' ∉ ending.toList
        ∧ readChain calls = some links)
      ∧ (∃ content, query.text .markup = statementMarkup query content
        ∧ readClauses content = some criteria)
      ∧ predicates.length = query.selections.length
      ∧ links.length = query.selections.length
      ∧ criteria.length = query.selections.length
      ∧ ∀ i selection, query.selections[i]? = some selection →
        ∃ predicate link criterion, predicates[i]? = some predicate ∧ links[i]? = some link
          ∧ criteria[i]? = some criterion
          ∧ Alike query.target.name selection predicate link.comparison criterion.comparison
          ∧ criterion.connector = selection.connector
          ∧ (link.afterOr = true ↔ i ≠ 0 ∧ criterion.connector = .or) := by
  obtain ⟨kind, calls, ending, chain, oneLine, lastLine, links⟩ := readChain_ofQuery named filtered
  have fluent : query.text .fluent = serviceText query (chainText kind calls ending) := by
    rw [text_fluent, chain]
  refine ⟨_, _, _, ⟨_, text_specification query, readPredicates_predicatesText named⟩,
    ⟨kind, calls, ending, fluent, oneLine, lastLine, links⟩, readClauses_ofQuery named filtered,
    by simp, ?_, by simp, fun i selection found => ?_⟩
  · cases query.selections <;> simp [Link.ofSelections]
  · refine ⟨_, _, _, by rw [List.getElem?_map, found]; rfl, getElem?_ofSelections _ found,
      by rw [List.getElem?_map, found]; rfl, alike_ofSelection _ _ selection, rfl, ?_⟩
    simp [Link.ofSelection, Criterion.ofSelection]

theorem memberSearch_conditions :
    memberSearch.HasIdentifiers
      ∧ ∃ links criteria,
        (∃ kind calls ending,
          memberSearch.text .fluent = serviceText memberSearch (chainText kind calls ending)
          ∧ readChain calls = some links)
        ∧ (∃ content, memberSearch.text .markup = statementMarkup memberSearch content
          ∧ readClauses content = some criteria)
        ∧ ∃ link criterion, links[1]? = some link ∧ criteria[1]? = some criterion
          ∧ link.afterOr = true ∧ criterion.connector = .or
          ∧ link.comparison.operator = .isIn ∧ criterion.comparison.value = "groupIds"
          ∧ criterion.comparison.column = "group_id" := by
  have named : memberSearch.HasIdentifiers := by constructor <;> decide
  obtain ⟨_, links, criteria, -, service, markup, -, -, -, each⟩ :=
    conditions_agree memberSearch named (by decide)
  obtain ⟨kind, calls, ending, fluent, -, -, chain⟩ := service
  obtain ⟨_, link, criterion, -, atLink, atCriterion, alike, connector, joins⟩ := each 1 _ rfl
  exact ⟨named, links, criteria, ⟨kind, calls, ending, fluent, chain⟩, markup, link, criterion,
    atLink, atCriterion, joins.mpr ⟨by decide, connector⟩, connector, alike.operators.2.1,
    alike.values.2.2, alike.columns.2.2.trans (by decide)⟩

end QueryScribe
