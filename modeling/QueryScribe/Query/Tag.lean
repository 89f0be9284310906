import QueryScribe.Query.Basic
import QueryScribe.Query.Dialect
import QueryScribe.Text.Blank
import QueryScribe.Text.Case

/-!
# Reading tags

Dialects, operations, operators and connectors are named by tags in free text. White space around a
tag does not count and neither does case: dialects and operations are lowered with Unicode's full
mapping before the comparison, operators and connectors in their ASCII letters only.
-/

namespace QueryScribe

open Text

/-- The names under which a dialect is known. -/
def Dialect.aliases : List (String × Dialect) :=
  [("specification", specification), ("jpa", specification), ("criteria", specification),
   ("fluent", fluent), ("mybatis-plus", fluent), ("mybatis_plus", fluent), ("mp", fluent),
   ("markup", markup), ("mybatis", markup), ("xml", markup)]

/-- The dialect named by a tag. -/
def Dialect.ofTag (tag : String) : Except Failure Dialect :=
  match aliases.lookup (lower (trim tag)) with
  | some dialect => .ok dialect
  | none => .error (.unsupportedDialect tag)

/-- The names under which an operation is known. -/
def Operation.aliases : List (String × Operation) :=
  [("select", select), ("select_page", selectPage), ("selectpage", selectPage),
   ("select-page", selectPage), ("page", selectPage), ("update", update), ("delete", delete),
   ("insert", insert)]

/-- The operation named by a tag. -/
def Operation.ofTag (tag : String) : Except Failure Operation :=
  match aliases.lookup (lower (trim tag)) with
  | some operation => .ok operation
  | none => .error (.unknownOperation tag)

/-- The operator named by a tag. -/
def Operator.ofTag (tag : String) : Except Failure Operator :=
  match all.find? fun operator => eqIgnoringAsciiCase operator.symbol (trim tag) with
  | some operator => .ok operator
  | none => .error (.unknownOperator tag)

/-- The connector named by a tag. -/
def Connector.ofTag (tag : String) : Except Failure Connector :=
  match [and, or].find? fun connector => eqIgnoringAsciiCase connector.keyword (trim tag) with
  | some connector => .ok connector
  | none => .error (.unknownConnector tag)

end QueryScribe
