import QueryScribe.Query.Basic
import QueryScribe.Query.Dialect

/-!
# Requests

Everything a generation needs, in one value.
-/

namespace QueryScribe

/-- A request for the text of a query. It may ask for something that cannot be generated. -/
structure Request where
  dialect : Dialect
  operation : Operation
  source : Entity
  target : Entity
  selections : List Selection
  deriving Repr, DecidableEq

end QueryScribe
