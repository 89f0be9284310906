import QueryScribe.Query.Field

/-!
# Comparisons

A selected field is compared with a column by one of eight operators, and the comparison joins those
before it by one of two connectors.
-/

namespace QueryScribe

/-! ## Operators -/

/-- A comparison between a column and a value. -/
inductive Operator
  | eq
  | ne
  | lt
  | le
  | gt
  | ge
  | like
  | isIn
  deriving Repr, DecidableEq

namespace Operator

/-- Every operator, in the order in which they are listed to users. -/
def all : List Operator :=
  [eq, ne, lt, le, gt, ge, like, isIn]

/-- The symbol of the operator. -/
def symbol : Operator → String
  | eq => "="
  | ne => "!="
  | lt => "<"
  | le => "<="
  | gt => ">"
  | ge => ">="
  | like => "like"
  | isIn => "in"

/-- Whether the operator can compare values of the category: patterns need text, membership needs a
collection. -/
def accepts : Operator → Category → Bool
  | like, category => category = .text
  | isIn, category => category = .collection
  | _, _ => true

/-- Equality, unless something else is asked for. -/
instance : Inhabited Operator := ⟨eq⟩

end Operator

/-! ## Connectors -/

/-- How a criterion joins those before it. -/
inductive Connector
  | and
  | or
  deriving Repr, DecidableEq

namespace Connector

/-- The keyword of the connector. -/
def keyword : Connector → String
  | and => "AND"
  | or => "OR"

/-- Conjunction, unless something else is asked for. -/
instance : Inhabited Connector := ⟨and⟩

end Connector

end QueryScribe
