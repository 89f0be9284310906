import QueryScribe.Query.Tag

/-!
# Drafts

A draft names operations, operators and connectors by tags. Tags are read from left to right, and
the first one that is not understood counts.
-/

namespace QueryScribe

/-- A selection with its operator and connector as tags. What is not given is equality, conjunction
and the field's own column. -/
structure Selection.Draft where
  field : Field
  operator : Option String := none
  connector : Option String := none
  column : Option String := none
  deriving Repr, DecidableEq

/-- The selection of a draft. -/
def Selection.Draft.resolve (draft : Selection.Draft) : Except Failure Selection := do
  let operator ← draft.operator.elim (.ok default) Operator.ofTag
  let connector ← draft.connector.elim (.ok default) Connector.ofTag
  return ⟨draft.field, operator, connector, draft.column.getD ""⟩

/-- A query with its operation as a tag. Reading is the default. -/
structure Query.Draft where
  operation : Option String := none
  source : Entity
  target : Entity
  selections : List Selection.Draft
  deriving Repr, DecidableEq

namespace Query.Draft

/-- The operation and the selections of a draft. -/
def resolve (draft : Query.Draft) : Except Failure (Operation × List Selection) := do
  let operation ← draft.operation.elim (.ok default) Operation.ofTag
  let selections ← draft.selections.mapM (·.resolve)
  return (operation, selections)

/-- The query of a draft. -/
def query (draft : Query.Draft) : Except Failure Query := do
  let (operation, selections) ← draft.resolve
  Query.of draft.source draft.target selections operation

end Query.Draft

end QueryScribe
