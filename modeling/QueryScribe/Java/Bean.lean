import QueryScribe.Query.Check
import QueryScribe.Text.Case

/-!
# Beans

Generated methods take a bean named `entity` and read its values through accessors, which are named
after the fields with the first character in capitals. Checks on these values use the null-safe
helpers for strings and collections.
-/

namespace QueryScribe.Java

open Text

/-- The characters with the first one in capitals. -/
def capitalizeChars : List Char → List Char
  | [] => []
  | c :: cs => upperChar c ++ cs

/-- The name with its first character in capitals and the others as they are. -/
def capitalize (name : String) : String :=
  String.ofList (capitalizeChars name.toList)

/-- The expression that reads a field of the bean. -/
def accessor (field : String) : String :=
  "entity.get" ++ capitalize field ++ "()"

/-- The reference to the accessor of a column in a class. -/
def methodReference (className column : String) : String :=
  className ++ "::get" ++ capitalize column

/-- A check as a condition of the language. -/
def condition : Check → String
  | ⟨subject, .text, .missing⟩ => "StringUtils.isEmpty(" ++ subject ++ ")"
  | ⟨subject, .text, .present⟩ => "StringUtils.isNotEmpty(" ++ subject ++ ")"
  | ⟨subject, .collection, .missing⟩ => "CollectionUtils.isEmpty(" ++ subject ++ ")"
  | ⟨subject, .collection, .present⟩ => "CollectionUtils.isNotEmpty(" ++ subject ++ ")"
  | ⟨subject, .scalar, .missing⟩ => subject ++ " == null"
  | ⟨subject, .scalar, .present⟩ => subject ++ " != null"

/-- The check on a field of the bean. -/
def fieldCheck (presence : Presence) (field : Field) : Check :=
  ⟨accessor field.name, field.category, presence⟩

end QueryScribe.Java
