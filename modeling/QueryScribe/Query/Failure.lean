import QueryScribe.Query.Comparison

/-!
# Failures

Why a tag is not understood or a query cannot be generated. Text that could not be understood is
kept exactly as it was given.
-/

namespace QueryScribe

/-- The cause for which there is no result. -/
inductive Failure
  | unsupportedDialect (tag : String)
  | incompatibleOperator (field : String) (operator : Operator) (category : Category)
  | emptySelection
  | unknownOperator (symbol : String)
  | unknownConnector (keyword : String)
  | unknownOperation (name : String)
  deriving Repr, DecidableEq

/-- The wording of a failure. -/
def Failure.message : Failure → String
  | unsupportedDialect tag =>
    "unsupported dialect `" ++ tag ++ "` (expected specification, fluent or markup)"
  | incompatibleOperator field operator category =>
    "operator `" ++ operator.symbol ++ "` cannot be applied to " ++ category.name ++ " field `"
      ++ field ++ "`"
  | emptySelection => "at least one field must be selected"
  | unknownOperator symbol => "unknown condition operator `" ++ symbol ++ "`"
  | unknownConnector keyword =>
    "unknown logical connector `" ++ keyword ++ "` (expected AND or OR)"
  | unknownOperation name => "unknown operation `" ++ name ++ "`"

end QueryScribe
