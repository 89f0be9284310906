import QueryScribe.Json.Decoder
import QueryScribe.Json.Writer
import QueryScribe.Query.Tag

/-!
# Stored tags

Tags are stored as strings. Categories, operators, connectors and operations are read back by their
exact text, with a few spellings besides the one that is written; a dialect is read like a tag given
by hand.
-/

namespace QueryScribe

open Json

/-- Reads a category. -/
def Category.decode : Decoder Category :=
  decodeVariants [("text", text), ("collection", collection), ("scalar", scalar)]

/-- Writes a category. -/
def Category.encode (category : Category) : String :=
  quote category.name

/-- Reads an operator. The two that are words may be in capitals. -/
def Operator.decode : Decoder Operator :=
  decodeVariants
    [("=", eq), ("!=", ne), ("<", lt), ("<=", le), (">", gt), (">=", ge), ("LIKE", like),
     ("like", like), ("IN", isIn), ("in", isIn)]

/-- Writes an operator. -/
def Operator.encode (operator : Operator) : String :=
  quote operator.symbol

/-- Reads a connector, all in capitals or all small. -/
def Connector.decode : Decoder Connector :=
  decodeVariants [("AND", and), ("and", and), ("OR", or), ("or", or)]

/-- Writes a connector. -/
def Connector.encode (connector : Connector) : String :=
  quote connector.keyword

/-- Reads an operation. -/
def Operation.decode : Decoder Operation :=
  decodeVariants (all.map fun operation => (operation.name, operation))

/-- Writes an operation. -/
def Operation.encode (operation : Operation) : String :=
  quote operation.name

/-- Reads a dialect. -/
def Dialect.decode : Decoder Dialect := fun value => do
  let tag ← decodeString value
  (Dialect.ofTag tag).mapError .refused

/-- Writes a dialect. -/
def Dialect.encode (dialect : Dialect) : String :=
  quote dialect.tag

end QueryScribe
