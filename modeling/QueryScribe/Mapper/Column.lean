import QueryScribe.Text.Case

/-!
# Columns and tables

Columns and tables are named in snake case, made from the names of fields and entities.
-/

namespace QueryScribe.Mapper

open Text

/-- Snake case of the rest of a name, when the character before it was or was not a small ASCII
letter: an underscore goes between such a letter and an ASCII capital, and every character is
lowered on its own. -/
def snakeChars (afterSmall : Bool) : List Char → List Char
  | [] => []
  | c :: cs =>
    (if afterSmall && isAsciiUpper c then ['_'] else [])
      ++ lowerChar c ++ snakeChars (isAsciiLower c) cs

/-- The column or table named after a field or an entity. -/
def snakeCase (name : String) : String :=
  String.ofList (snakeChars false name.toList)

end QueryScribe.Mapper
