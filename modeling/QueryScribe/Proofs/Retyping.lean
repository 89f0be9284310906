import Mathlib.Data.List.Forall2
import QueryScribe.Proofs.Verdict

/-!
# Retyping

A declared type is looked at for its category and for nothing else. When the types of a request are
replaced by others of the same categories, its fields, selections and entities stay related part by
part, every dialect makes the same parts of related ones, and so the texts are the same.

Results:
1. `hasField_retyped`, `sharedFields_retyped`: names do not depend on types.
2. `specification_retyped`, `serviceMethod_retyped`, `statement_retyped`: what the dialects make of
   related queries.
3. `generate_retyped`: related requests end alike, in every dialect and for every operation.
-/

namespace QueryScribe

/-! ## Replaced types -/

/-- Whether a field is another one with a declared type of the same category. -/
structure Field.Retyped (field other : Field) : Prop where
  name : field.name = other.name
  category : field.category = other.category

/-- Whether an entity is another one up to the declared types of its fields. -/
structure Entity.Retyped (entity other : Entity) : Prop where
  name : entity.name = other.name
  qualifiedName : entity.qualifiedName = other.qualifiedName
  fields : List.Forall₂ Field.Retyped entity.fields other.fields

/-- Whether a selection is another one up to the declared type of its field. -/
structure Selection.Retyped (selection other : Selection) : Prop where
  field : selection.field.Retyped other.field
  operator : selection.operator = other.operator
  connector : selection.connector = other.connector
  targetColumn : selection.targetColumn = other.targetColumn

/-- Whether a request is another one up to declared types, each of which is replaced by one of the
same category. -/
structure Request.Retyped (request other : Request) : Prop where
  dialect : request.dialect = other.dialect
  operation : request.operation = other.operation
  source : request.source.Retyped other.source
  target : request.target.Retyped other.target
  selections : List.Forall₂ Selection.Retyped request.selections other.selections

/-- Whether a query is another one up to declared types. -/
structure Query.Retyped (query other : Query) : Prop where
  source : query.source.Retyped other.source
  target : query.target.Retyped other.target
  selections : List.Forall₂ Selection.Retyped query.selections other.selections
  operation : query.operation = other.operation

/-! ## 1. Names -/

namespace RetypingLemmas

/-- What comes out the same for related items comes out the same for related lists. -/
theorem map_eq_of_related {α β : Type} {R : α → α → Prop} {write : α → β} {items others : List α}
    (related : List.Forall₂ R items others)
    (same : ∀ {item other}, R item other → write item = write other) :
    items.map write = others.map write := by
  induction related with
  | nil => rfl
  | cons first _ ih => rw [List.map_cons, List.map_cons, same first, ih]

end RetypingLemmas

open RetypingLemmas

/-- Related entities declare the same names. -/
theorem hasField_retyped {entity other : Entity} (retyped : entity.Retyped other) (name : String) :
    entity.hasField name = other.hasField name := by
  have names : entity.fields.map (·.name) = other.fields.map (·.name) :=
    map_eq_of_related retyped.fields (·.name)
  have declares (entity : Entity) :
      entity.hasField name = (entity.fields.map (·.name)).any (· = name) := by
    rw [Entity.hasField, Entity.field?, List.isSome_find?, List.any_map]
    rfl
  rw [declares, declares, names]

/-- Related queries share fields of the same names, which are related in turn. -/
theorem sharedFields_retyped {query other : Query} (retyped : query.Retyped other) :
    List.Forall₂ Field.Retyped query.sharedFields other.sharedFields := by
  refine List.rel_filter (fun field field' fields => ?_) retyped.source.fields
  show query.target.hasField field.name = true ↔ other.target.hasField field'.name = true
  rw [hasField_retyped retyped.target, fields.name]

/-- Related selections stand for the same column. -/
theorem Selection.Retyped.column {selection other : Selection} (retyped : selection.Retyped other) :
    selection.column = other.column := by
  rw [Selection.column, Selection.column, retyped.targetColumn, Selection.name, Selection.name,
    retyped.field.name]

/-! ## 2. Dialects -/

section Java

open Java

namespace RetypingLemmas

theorem beanCheck_retyped {field other : Field} (retyped : field.Retyped other)
    (presence : Presence) : Java.fieldCheck presence field = Java.fieldCheck presence other := by
  rw [Java.fieldCheck, Java.fieldCheck, retyped.name, retyped.category]

theorem rejections_retyped {query other : Query} (retyped : query.Retyped other) :
    Rejection.ofQuery query = Rejection.ofQuery other := by
  have missing : query.selections.map (Java.fieldCheck .missing ·.field)
      = other.selections.map (Java.fieldCheck .missing ·.field) :=
    map_eq_of_related retyped.selections fun selections => beanCheck_retyped selections.field _
  have each : query.selections.map Rejection.missingField
      = other.selections.map Rejection.missingField :=
    map_eq_of_related retyped.selections fun selections => by
      rw [Rejection.missingField, Rejection.missingField, beanCheck_retyped selections.field,
        Selection.name, Selection.name, selections.field.name]
  rw [Rejection.ofQuery, Rejection.ofQuery, Rejection.ofCriteria, Rejection.ofCriteria,
    Rejection.noCriterion, Rejection.noCriterion, retyped.operation, missing, each]

theorem predicate_retyped {selection other : Selection} (retyped : selection.Retyped other) :
    Predicate.ofSelection selection = Predicate.ofSelection other := by
  rw [Predicate.ofSelection, Predicate.ofSelection, beanCheck_retyped retyped.field,
    retyped.operator, retyped.column, Selection.name, Selection.name, retyped.field.name]

theorem comparison_retyped (target : String) {selection other : Selection}
    (retyped : selection.Retyped other) :
    Call.ofSelection target selection = Call.ofSelection target other := by
  rw [Call.ofSelection, Call.ofSelection, beanCheck_retyped retyped.field, retyped.operator,
    retyped.column, Selection.name, Selection.name, retyped.field.name]

theorem joined_retyped (target : String) {selection other : Selection}
    (retyped : selection.Retyped other) :
    Call.joined target selection = Call.joined target other := by
  rw [Call.joined, Call.joined, retyped.connector, comparison_retyped target retyped]

theorem conditions_retyped (target : String) {selections others : List Selection}
    (related : List.Forall₂ Selection.Retyped selections others) :
    Call.ofSelections target selections = Call.ofSelections target others := by
  cases related with
  | nil => rfl
  | cons first later =>
    rw [Call.ofSelections, Call.ofSelections, comparison_retyped target first, List.flatMap,
      List.flatMap, map_eq_of_related later (joined_retyped target)]

theorem assignment_retyped (target : String) {field other : Field} (retyped : field.Retyped other) :
    Call.ofField target field = Call.ofField target other := by
  rw [Call.ofField, Call.ofField, beanCheck_retyped retyped, retyped.name]

end RetypingLemmas

/-- Related queries have the same specification. -/
theorem specification_retyped {query other : Query} (retyped : query.Retyped other) :
    Specification.ofQuery query = Specification.ofQuery other := by
  rw [Specification.ofQuery, Specification.ofQuery, retyped.operation, retyped.source.name,
    retyped.target.name, rejections_retyped retyped,
    map_eq_of_related retyped.selections predicate_retyped]

/-- Related queries have the same service method. -/
theorem serviceMethod_retyped {query other : Query} (retyped : query.Retyped other) :
    ServiceMethod.ofQuery query = ServiceMethod.ofQuery other := by
  have assignments : query.sharedFields.map (Call.ofField other.target.name)
      = other.sharedFields.map (Call.ofField other.target.name) :=
    map_eq_of_related (sharedFields_retyped retyped) (assignment_retyped _)
  rw [ServiceMethod.ofQuery, ServiceMethod.ofQuery, retyped.operation, retyped.source.name,
    retyped.target.name, rejections_retyped retyped, Chain.ofQuery, Chain.ofQuery,
    retyped.operation, retyped.target.name, conditions_retyped _ retyped.selections, assignments]

end Java

section Mapper

open Mapper

namespace RetypingLemmas

theorem valueCheck_retyped {field other : Field} (retyped : field.Retyped other)
    (presence : Presence) :
    Mapper.fieldCheck presence field = Mapper.fieldCheck presence other := by
  rw [Mapper.fieldCheck, Mapper.fieldCheck, retyped.name, retyped.category]

theorem ifPresent_retyped {α : Type} {field other : Field} (retyped : field.Retyped other)
    (body : α) : ifPresent field body = ifPresent other body := by
  rw [ifPresent, ifPresent, presentTest, presentTest, valueCheck_retyped retyped]

theorem missingTest_retyped {field other : Field} (retyped : field.Retyped other) :
    missingTest field = missingTest other := by
  rw [missingTest, missingTest, valueCheck_retyped retyped]

/-- The first selections of related queries are related, and so are those after them. -/
theorem selections_retyped {query other : Query} (retyped : query.Retyped other) :
    (firstSelection query).Retyped (firstSelection other)
      ∧ List.Forall₂ Selection.Retyped query.selections.tail other.selections.tail := by
  have selections := retyped.selections
  rw [← firstSelection_cons_tail query, ← firstSelection_cons_tail other] at selections
  exact List.forall₂_cons.mp selections

theorem unusableTest_retyped (operation : Operation) {first first' : Selection}
    {others others' : List Selection} (firsts : first.Retyped first')
    (later : List.Forall₂ Selection.Retyped others others') :
    unusableTest operation first others = unusableTest operation first' others' := by
  have tests : others.map (fun selection => Test.group (missingTest selection.field))
      = others'.map fun selection => Test.group (missingTest selection.field) :=
    map_eq_of_related later fun selections => by rw [missingTest_retyped selections.field]
  cases later with
  | nil => rw [unusableTest, unusableTest, missingTest_retyped firsts.field]
  | cons second rest =>
    rw [unusableTest, unusableTest, tests, missingTest_retyped firsts.field]
    all_goals exact fun empty => nomatch empty

theorem suppliedTest_retyped {first first' : Selection} {others others' : List Selection}
    (firsts : first.Retyped first') (later : List.Forall₂ Selection.Retyped others others') :
    suppliedTest first others = suppliedTest first' others' := by
  have name {selection other : Selection} (retyped : selection.Retyped other) :
      Test.isNotNull selection.name = Test.isNotNull other.name := by
    rw [Selection.name, Selection.name, retyped.field.name]
  rw [suppliedTest, suppliedTest, name firsts, map_eq_of_related later name]

theorem clause_retyped {selection other : Selection} (retyped : selection.Retyped other) :
    ifPresent selection.field (Clause.ofSelection selection)
      = ifPresent other.field (Clause.ofSelection other) := by
  rw [ifPresent_retyped retyped.field, Clause.ofSelection, Clause.ofSelection, retyped.connector,
    retyped.column, retyped.operator, Selection.name, Selection.name, retyped.field.name]

theorem criteria_retyped {query other : Query} (retyped : query.Retyped other) :
    Criteria.ofQuery query = Criteria.ofQuery other := by
  obtain ⟨first, later⟩ := selections_retyped retyped
  rw [Criteria.ofQuery, Criteria.ofQuery, retyped.operation, unusableTest_retyped _ first later,
    map_eq_of_related retyped.selections clause_retyped]

theorem action_retyped {query other : Query} (retyped : query.Retyped other) :
    Action.ofQuery query = Action.ofQuery other := by
  obtain ⟨first, later⟩ := selections_retyped retyped
  have columns : query.target.fields.map (snakeCase ·.name)
      = other.target.fields.map (snakeCase ·.name) :=
    map_eq_of_related retyped.target.fields fun fields => by rw [fields.name]
  have assignments : (query.sharedFields.map fun field =>
        ifPresent field (Assignment.mk (snakeCase field.name) field.name))
      = other.sharedFields.map fun field =>
        ifPresent field (Assignment.mk (snakeCase field.name) field.name) :=
    map_eq_of_related (sharedFields_retyped retyped) fun fields => by
      rw [ifPresent_retyped fields, fields.name]
  have inserted : (query.selections.map fun selection =>
        ifPresent selection.field (snakeCase selection.column))
      = other.selections.map fun selection =>
        ifPresent selection.field (snakeCase selection.column) :=
    map_eq_of_related retyped.selections fun selections => by
      rw [ifPresent_retyped selections.field, selections.column]
  have values : (query.selections.map fun selection => ifPresent selection.field selection.name)
      = other.selections.map fun selection => ifPresent selection.field selection.name :=
    map_eq_of_related retyped.selections fun selections => by
      rw [ifPresent_retyped selections.field, Selection.name, Selection.name,
        selections.field.name]
  rw [Action.ofQuery, Action.ofQuery, retyped.operation, retyped.target.qualifiedName, columns,
    assignments, inserted, values, criteria_retyped retyped, suppliedTest_retyped first later]

end RetypingLemmas

/-- Related queries have the same statement. -/
theorem statement_retyped {query other : Query} (retyped : query.Retyped other) :
    Statement.ofQuery query = Statement.ofQuery other := by
  rw [Statement.ofQuery, Statement.ofQuery, retyped.operation, retyped.source.name,
    retyped.target.name, action_retyped retyped]

end Mapper

/-! ## 3. Generations -/

/-- Related queries have the same texts. -/
theorem text_retyped {query other : Query} (retyped : query.Retyped other) (dialect : Dialect) :
    query.text dialect = other.text dialect := by
  cases dialect with
  | specification => rw [Query.text, Query.text, specification_retyped retyped]
  | fluent => rw [Query.text, Query.text, serviceMethod_retyped retyped]
  | markup => rw [Query.text, Query.text, statement_retyped retyped]

namespace RetypingLemmas

theorem check_retyped {selection other : Selection} (retyped : selection.Retyped other) :
    selection.check = other.check := by
  rw [Selection.check, Selection.check, Selection.fits, Selection.fits, Selection.misfit,
    Selection.misfit, Selection.category, Selection.category, Selection.name, Selection.name,
    retyped.operator, retyped.field.category, retyped.field.name]

/-- By induction on the selections: each check has the same outcome as the one it is related to. -/
theorem checkAll_retyped {selections others : List Selection}
    (related : List.Forall₂ Selection.Retyped selections others) :
    checkAll selections = checkAll others := by
  induction related with
  | nil => rfl
  | cons first _ ih => rw [checkAll, checkAll, check_retyped first, ih]

theorem verdict_retyped {selections others : List Selection}
    (related : List.Forall₂ Selection.Retyped selections others) :
    verdict selections = verdict others := by
  cases related with
  | nil => rfl
  | cons first later => exact checkAll_retyped (.cons first later)

end RetypingLemmas

/-- The types of a request matter for their categories alone: where each is replaced by one of the
same category, the request has the same text, or is refused for the same reason, in every dialect
and for every operation. -/
theorem generate_retyped {request other : Request} (retyped : request.Retyped other)
    (dialect : Dialect) (operation : Operation) :
    Request.generate { request with dialect, operation }
      = Request.generate { other with dialect, operation } := by
  have verdicts := verdict_retyped retyped.selections
  rw [← of_verdict request.source request.target request.selections operation,
    ← of_verdict other.source other.target other.selections operation] at verdicts
  rw [Request.generate, Request.generate, generate_eq, generate_eq]
  cases made : Query.of request.source request.target request.selections operation with
  | error failure =>
    cases made' : Query.of other.source other.target other.selections operation with
    | error failure' =>
      rw [made, made'] at verdicts
      rw [Except.error.inj verdicts]
    | ok query' => rw [made, made'] at verdicts; cases verdicts
  | ok query =>
    cases made' : Query.of other.source other.target other.selections operation with
    | error failure' => rw [made, made'] at verdicts; cases verdicts
    | ok query' =>
      obtain ⟨source, target, selections, operation⟩ := of_eq_ok_iff.mp made
      obtain ⟨source', target', selections', operation'⟩ := of_eq_ok_iff.mp made'
      have related : query.Retyped query' :=
        ⟨source ▸ source' ▸ retyped.source, target ▸ target' ▸ retyped.target,
          selections ▸ selections' ▸ retyped.selections, operation.trans operation'.symm⟩
      simp only [Except.map, text_retyped related]

/-- An update of orders whose shared fields and selections are of all three categories. -/
def orderUpdate : Request where
  dialect := .fluent
  operation := .update
  source := ⟨"OrderForm", "app.OrderForm",
    [⟨"code", "String"⟩, ⟨"total", "Long"⟩, ⟨"tags", "List<String>"⟩]⟩
  target := ⟨"Order", "app.Order", [⟨"total", "Long"⟩, ⟨"tags", "List<String>"⟩]⟩
  selections :=
    [⟨⟨"code", "String"⟩, .like, .and, ""⟩, ⟨⟨"tags", "List<String>"⟩, .isIn, .or, "tag"⟩]

/-- The same update with another scalar type and other collection types. -/
def orderUpdateRetyped : Request :=
  { orderUpdate with
    source := ⟨"OrderForm", "app.OrderForm",
      [⟨"code", "String"⟩, ⟨"total", "BigDecimal"⟩, ⟨"tags", "Set<Tag>"⟩]⟩
    target := ⟨"Order", "app.Order", [⟨"total", "Map<K, V>"⟩, ⟨"tags", "Collection<?>"⟩]⟩
    selections :=
      [⟨⟨"code", "String"⟩, .like, .and, ""⟩, ⟨⟨"tags", "ArrayList"⟩, .isIn, .or, "tag"⟩] }

theorem orderUpdate_retyped :
    orderUpdate.Retyped orderUpdateRetyped
      ∧ ∀ dialect operation, Request.generate { orderUpdate with dialect, operation }
        = Request.generate { orderUpdateRetyped with dialect, operation } := by
  have retyped : orderUpdate.Retyped orderUpdateRetyped := by
    refine ⟨rfl, rfl, ⟨rfl, rfl, ?_⟩, ⟨rfl, rfl, ?_⟩, ?_⟩
    · exact .cons ⟨rfl, rfl⟩ (.cons ⟨rfl, by decide⟩ (.cons ⟨rfl, by decide⟩ .nil))
    · exact .cons ⟨rfl, by decide⟩ (.cons ⟨rfl, by decide⟩ .nil)
    · exact .cons ⟨⟨rfl, rfl⟩, rfl, rfl, rfl⟩ (.cons ⟨⟨rfl, by decide⟩, rfl, rfl, rfl⟩ .nil)
  exact ⟨retyped, generate_retyped retyped⟩

end QueryScribe
