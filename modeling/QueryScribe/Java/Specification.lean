import QueryScribe.Java.Rejection

/-!
# Criteria specifications

A specification is a factory method for a predicate on the target's rows. Every selected field that
is present adds one comparison, and all comparisons must hold: connectors do not show here.
-/

namespace QueryScribe.Java

/-- A comparison that takes part when its guard holds. -/
structure Predicate where
  guard : Check
  operator : Operator
  column : String
  value : String
  deriving Repr, DecidableEq

namespace Predicate

/-- The predicate of a selected field. -/
def ofSelection (selection : Selection) : Predicate :=
  ⟨fieldCheck .present selection.field, selection.operator, selection.column,
   accessor selection.name⟩

/-- The path to the predicate's column. -/
def path (predicate : Predicate) : String :=
  "root.get(\"" ++ predicate.column ++ "\")"

/-- A comparison made by a method of the criteria builder. -/
def builderCall (predicate : Predicate) (method : String) : String :=
  "cb." ++ method ++ "(" ++ predicate.path ++ ", " ++ predicate.value ++ ")"

/-- The comparison as an expression. -/
def expression (predicate : Predicate) : String :=
  match predicate.operator with
  | .eq => predicate.builderCall "equal"
  | .ne => predicate.builderCall "notEqual"
  | .lt => predicate.builderCall "lessThan"
  | .le => predicate.builderCall "lessThanOrEqualTo"
  | .gt => predicate.builderCall "greaterThan"
  | .ge => predicate.builderCall "greaterThanOrEqualTo"
  | .like => "cb.like(" ++ predicate.path ++ ", \"%\" + " ++ predicate.value ++ " + \"%\")"
  | .isIn => predicate.path ++ ".in(" ++ predicate.value ++ ")"

/-- The guarded comparison as a statement. -/
def text (predicate : Predicate) : String :=
  "        if (" ++ condition predicate.guard ++ ") \x7b\n"
    ++ "            predicates.add(" ++ predicate.expression ++ ");\n"
    ++ "        \x7d\n"

end Predicate

/-- A factory method for a specification. -/
structure Specification where
  operation : Operation
  source : String
  target : String
  rejections : List Rejection
  predicates : List Predicate
  deriving Repr, DecidableEq

namespace Specification

/-- The specification of a query. -/
def ofQuery (query : Query) : Specification where
  operation := query.operation
  source := query.source.name
  target := query.target.name
  rejections := Rejection.ofQuery query
  predicates := query.selections.map Predicate.ofSelection

/-- The method as text. -/
def text (specification : Specification) : String :=
  "public static Specification<" ++ specification.target ++ "> get"
    ++ specification.operation.pascalName ++ "Specification(" ++ specification.source
    ++ " entity) \x7b\n"
    ++ String.join (specification.rejections.map Rejection.text)
    ++ "    return (root, query, cb) -> \x7b\n"
    ++ "        List<Predicate> predicates = new ArrayList<>();\n\n"
    ++ String.join (specification.predicates.map Predicate.text)
    ++ "        return cb.and(predicates.toArray(new Predicate[0]));\n"
    ++ "    \x7d;\n"
    ++ "\x7d"

end Specification

end QueryScribe.Java
