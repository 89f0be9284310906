import QueryScribe.Java.Bean
import QueryScribe.Query.Basic

/-!
# Rejections

A generated method begins by refusing input it cannot work with. A null bean is always refused.
Reading needs at least one criterion, writing needs all of them, and a page can be read without any.
-/

namespace QueryScribe.Java

/-- An exception with the message, thrown when all the checks hold. -/
structure Rejection where
  checks : List Check
  message : String
  deriving Repr, DecidableEq

namespace Rejection

/-- The refusal of a null bean. -/
def nullEntity : Rejection :=
  ⟨[⟨"entity", .scalar, .missing⟩], "Entity must not be null"⟩

/-- The refusal of a bean in which every selected field is missing. -/
def noCriterion (selections : List Selection) : Rejection :=
  ⟨selections.map (fieldCheck .missing ·.field), "At least one search criterion must be provided"⟩

/-- The refusal of a bean in which the selected field is missing. -/
def missingField (selection : Selection) : Rejection :=
  ⟨[fieldCheck .missing selection.field], selection.name ++ " must not be null or empty"⟩

/-- The rejections that guard a query's criteria, in the order in which they are tried. -/
def ofCriteria (query : Query) : List Rejection :=
  if !query.operation.isGuarded then []
  else if query.operation.isSelect then [noCriterion query.selections]
  else query.selections.map missingField

/-- All rejections of a query's method. -/
def ofQuery (query : Query) : List Rejection :=
  nullEntity :: ofCriteria query

/-- The rejection as a statement of the method's body. -/
def text (rejection : Rejection) : String :=
  "    if (" ++ " &&\n        ".intercalate (rejection.checks.map condition) ++ ") \x7b\n"
    ++ "        throw new IllegalArgumentException(\"" ++ rejection.message ++ "\");\n"
    ++ "    \x7d\n"

end Rejection

end QueryScribe.Java
