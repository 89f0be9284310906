import QueryScribe.Text.Words

/-!
# Styles for the names of described fields

A declared name is taken apart into words and put together again in one of four styles.
-/

namespace QueryScribe.Declaration

open Text

/-- How the words of a name are put together. -/
inductive NameStyle
  | camel
  | snake
  | pascal
  | verbatim
  deriving Repr, DecidableEq

namespace NameStyle

/-- The names under which a style is known. -/
def aliases : List (String × NameStyle) :=
  [("camelcase", camel), ("camel", camel), ("snake_case", snake), ("snake", snake),
   ("pascalcase", pascal), ("pascal", pascal), ("verbatim", verbatim), ("none", verbatim)]

/-- The style of a name, in any case. -/
def ofName? (name : String) : Option NameStyle :=
  aliases.lookup (lower name)

/-- The characters of a name in the style. Camel case keeps the first word small, even an empty
one, so that a name with a leading underscore starts with a capital. -/
def applyChars (style : NameStyle) (name : List Char) : List Char :=
  let (first, others) := words name
  match style with
  | camel => lowerChars first ++ others.flatMap capitalizeWord
  | pascal => capitalizeWord first ++ others.flatMap capitalizeWord
  | snake => lowerChars first ++ others.flatMap fun word => '_' :: lowerChars word
  | verbatim => name

/-- The name in the style. -/
def apply (style : NameStyle) (name : String) : String :=
  String.ofList (style.applyChars name.toList)

end NameStyle

end QueryScribe.Declaration
