/-!
# Escaped text

The five characters that mean something in markup are written as entities inside text.
-/

namespace QueryScribe.Markup

/-- The entity that stands for a character with a meaning in markup. -/
def entity? : Char → Option String
  | '&' => some "&amp;"
  | '<' => some "&lt;"
  | '>' => some "&gt;"
  | '"' => some "&quot;"
  | '\'' => some "&apos;"
  | _ => none

/-- A character of a text as it is written. -/
def escapeChar (c : Char) : List Char :=
  match entity? c with
  | some entity => entity.toList
  | none => [c]

/-- The characters of a text as they are written. -/
def escapeChars (cs : List Char) : List Char :=
  cs.flatMap escapeChar

/-- The text as it is written. -/
def escape (s : String) : String :=
  String.ofList (escapeChars s.toList)

end QueryScribe.Markup
