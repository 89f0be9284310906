/-!
# Dialects

The forms in which a query can be written out.
-/

namespace QueryScribe

/-- The form of the generated text: a criteria specification, a fluent call chain, or a mapper
statement in markup. -/
inductive Dialect
  | specification
  | fluent
  | markup
  deriving Repr, DecidableEq

namespace Dialect

/-- Every dialect, in the order in which they are listed to users. -/
def all : List Dialect :=
  [specification, fluent, markup]

/-- The tag that names the dialect. -/
def tag : Dialect → String
  | specification => "specification"
  | fluent => "fluent"
  | markup => "markup"

/-- Whether the dialect writes program code. -/
def isCode : Dialect → Bool
  | specification | fluent => true
  | markup => false

end Dialect

end QueryScribe
