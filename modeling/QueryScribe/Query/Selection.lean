import QueryScribe.Query.Entity
import QueryScribe.Query.Failure

/-!
# Selections

A field of the source that takes part in a query, with the comparison it makes.
-/

namespace QueryScribe

/-- A selected field: the operator that compares it, how it joins the fields selected before it,
and the column it is compared with. An empty column stands for the field's own name. -/
structure Selection where
  field : Field
  operator : Operator := .eq
  connector : Connector := .and
  targetColumn : String := ""
  deriving Repr, DecidableEq

namespace Selection

/-- The name of the selected field. -/
def name (selection : Selection) : String :=
  selection.field.name

/-- The category of the selected field. -/
def category (selection : Selection) : Category :=
  selection.field.category

/-- The column that the field is compared with. -/
def column (selection : Selection) : String :=
  if selection.targetColumn = "" then selection.name else selection.targetColumn

/-- Whether the operator can compare values of the field. -/
def fits (selection : Selection) : Bool :=
  selection.operator.accepts selection.category

/-- The failure of a selection whose operator does not fit. -/
def misfit (selection : Selection) : Failure :=
  .incompatibleOperator selection.name selection.operator selection.category

/-- Refuses a selection whose operator does not fit its field. -/
def check (selection : Selection) : Except Failure Unit :=
  if selection.fits then .ok () else .error selection.misfit

end Selection

end QueryScribe
