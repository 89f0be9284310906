import QueryScribe.Text.Case.Runs
import QueryScribe.Text.Case.Context

/-!
# Upper and lower case

Unicode's case mappings, independent of any language. A character maps to one or more characters;
a text maps character by character, except that a capital sigma which ends a word becomes the final
form of the small letter.

Three ways to look away from case are kept apart: ASCII letters only (`asciiLower`,
`eqIgnoringAsciiCase`), each character on its own (`lowerChar`), and a whole text (`lowerChars`).
-/

namespace QueryScribe.Text

/-! ## ASCII letters -/

/-- Whether a character is one of `A` to `Z`. -/
def isAsciiUpper (c : Char) : Bool :=
  'A' ≤ c && c ≤ 'Z'

/-- Whether a character is one of `a` to `z`. -/
def isAsciiLower (c : Char) : Bool :=
  'a' ≤ c && c ≤ 'z'

/-- The small letter of an ASCII capital; any other character is its own. -/
def asciiLower (c : Char) : Char :=
  if isAsciiUpper c then Char.ofNat (c.toNat + 32) else c

/-- The capital of a small ASCII letter; any other character is its own. -/
def asciiUpper (c : Char) : Char :=
  if isAsciiLower c then Char.ofNat (c.toNat - 32) else c

/-- Equality of texts that differ at most in the case of their ASCII letters. -/
def eqIgnoringAsciiCase (s t : String) : Bool :=
  s.toList.map asciiLower == t.toList.map asciiLower

/-! ## Single characters -/

/-- The lowercase form of a character. The dotted capital I keeps its dot as a mark of its own. -/
def lowerChar (c : Char) : List Char :=
  if c.toNat < 128 then [asciiLower c]
  else if c = '\u0130' then ['i', '\u0307']
  else match CaseRun.find lowerRuns c.toNat with
    | some code => [Char.ofNat code]
    | none => [c]

/-- The uppercase form of a character. -/
def upperChar (c : Char) : List Char :=
  if c.toNat < 128 then [asciiUpper c]
  else match longUppers.lookup c.toNat with
    | some codes => codes.map Char.ofNat
    | none => match CaseRun.find upperRuns c.toNat with
      | some code => [Char.ofNat code]
      | none => [c]

/-! ## Whole texts -/

/-- Whether the next character that counts has case. -/
def meetsCased (cs : List Char) : Bool :=
  match cs.dropWhile caseIgnorable.has with
  | [] => false
  | c :: _ => cased.has c

/-- Lowers a text whose characters already passed are `before`, the last one first. A sigma is
final when a cased character comes before it and none comes after it. -/
def lowerAfter (before : List Char) : List Char → List Char
  | [] => []
  | c :: cs =>
    let lowered :=
      if c = 'Σ' then
        if meetsCased before && !meetsCased cs then ['ς'] else ['σ']
      else lowerChar c
    lowered ++ lowerAfter (c :: before) cs

/-- The lowercase form of a text. -/
def lowerChars (cs : List Char) : List Char :=
  lowerAfter [] cs

/-- The uppercase form of a text. -/
def upperChars (cs : List Char) : List Char :=
  cs.flatMap upperChar

/-- The lowercase form of a text. -/
def lower (s : String) : String :=
  String.ofList (lowerChars s.toList)

end QueryScribe.Text
