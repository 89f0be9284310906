import QueryScribe.Mapper.Column
import QueryScribe.Mapper.Test
import QueryScribe.Query.Basic

/-!
# Mapper statements

A mapper statement is SQL with parts that are left out when their test fails. The criteria of every
statement but a page's are guarded: when what is needed is missing, a clause that is never true goes
first.
-/

namespace QueryScribe.Mapper

/-- A part of a statement that is there when its test holds. -/
structure Optional (α : Type) where
  test : Test
  body : α
  deriving Repr, DecidableEq

/-- A comparison of a column with the value passed for a field. -/
structure Clause where
  connector : Connector
  column : String
  operator : Operator
  field : String
  deriving Repr, DecidableEq

/-- The criteria of a statement: the test for the clause that is never true, if there is one, and
the clauses of the selected fields. -/
structure Criteria where
  unusable : Option Test
  clauses : List (Optional Clause)
  deriving Repr, DecidableEq

/-- A column that is set to the value passed for a field. -/
structure Assignment where
  column : String
  field : String
  deriving Repr, DecidableEq

/-- What a statement does with its table. A deletion as a whole depends on a test. -/
inductive Action
  | select (resultType : String) (columns : List String) (criteria : Criteria)
  | update (assignments : List (Optional Assignment)) (criteria : Criteria)
  | delete (supplied : Test) (criteria : Criteria)
  | insert (columns fields : List (Optional String))
  deriving Repr, DecidableEq

/-- A statement on a table. -/
structure Statement where
  id : String
  table : String
  action : Action
  deriving Repr, DecidableEq

/-! ## The statement of a query -/

/-- The check on the value passed for a field. -/
def fieldCheck (presence : Presence) (field : Field) : Check :=
  ⟨field.name, field.category, presence⟩

/-- The test that the value of a field is there. -/
def presentTest (field : Field) : Test :=
  .ofCheck (fieldCheck .present field)

/-- The test that the value of a field is missing. -/
def missingTest (field : Field) : Test :=
  .ofCheck (fieldCheck .missing field)

/-- How the missing fields of a statement add up: reading is refused when all are missing, writing
when one is. -/
def missingJoin : Operation → Test → Test → Test
  | .update | .delete => .either
  | .select | .selectPage | .insert => .both

/-- The test that the criteria cannot be used. Several checks are put in parentheses each. -/
def unusableTest (operation : Operation) (first : Selection) : List Selection → Test
  | [] => missingTest first.field
  | others =>
    .join (missingJoin operation) (.group (missingTest first.field))
      (others.map fun selection => .group (missingTest selection.field))

/-- The test that some selected field is not null. -/
def suppliedTest (first : Selection) (others : List Selection) : Test :=
  .join .either (.isNotNull first.name) (others.map fun selection => .isNotNull selection.name)

/-- The clause of a selected field. -/
def Clause.ofSelection (selection : Selection) : Clause :=
  ⟨selection.connector, snakeCase selection.column, selection.operator, selection.name⟩

/-- The part of a statement that is there when the selected field is. -/
def ifPresent (field : Field) (body : α) : Optional α :=
  ⟨presentTest field, body⟩

/-- The first selection of a query. -/
def firstSelection (query : Query) : Selection :=
  query.selections.head query.selections_ne_nil

theorem firstSelection_cons_tail (query : Query) :
    firstSelection query :: query.selections.tail = query.selections :=
  List.cons_head_tail _

/-- The criteria of a query. -/
def Criteria.ofQuery (query : Query) : Criteria where
  unusable :=
    if query.operation.isGuarded then
      some (unusableTest query.operation (firstSelection query) query.selections.tail)
    else none
  clauses := query.selections.map fun selection =>
    ifPresent selection.field (Clause.ofSelection selection)

/-- The action of a query. -/
def Action.ofQuery (query : Query) : Action :=
  match query.operation with
  | .select | .selectPage =>
    .select query.target.qualifiedName (query.target.fields.map (snakeCase ·.name))
      (.ofQuery query)
  | .update =>
    .update (query.sharedFields.map fun field => ifPresent field ⟨snakeCase field.name, field.name⟩)
      (.ofQuery query)
  | .delete => .delete (suppliedTest (firstSelection query) query.selections.tail) (.ofQuery query)
  | .insert =>
    .insert
      (query.selections.map fun selection =>
        ifPresent selection.field (snakeCase selection.column))
      (query.selections.map fun selection => ifPresent selection.field selection.name)

/-- An update sets the columns of the shared fields, each in snake case of the field's name. -/
theorem Action.assignments_of_update {query : Query} {assignments : List (Optional Assignment)}
    {criteria : Criteria} (updates : Action.ofQuery query = .update assignments criteria) :
    assignments
      = query.sharedFields.map fun field => ifPresent field ⟨snakeCase field.name, field.name⟩ := by
  rw [Action.ofQuery] at updates
  split at updates <;> cases updates
  rfl

/-- The statement of a query. It is identified by the operation and the source, and works on the
target's table. -/
def Statement.ofQuery (query : Query) : Statement where
  id := query.operation.name ++ query.source.name
  table := snakeCase query.target.name
  action := .ofQuery query

end QueryScribe.Mapper
