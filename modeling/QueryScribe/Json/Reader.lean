import QueryScribe.Json.Quoted
import QueryScribe.Json.Value

/-!
# Reading values

Reading never fails: what can be read of a text is a tree that may end in a problem, and the text
after it. After a problem nothing more is read.
-/

namespace QueryScribe.Json

open Text (isDigit)

/-- Whether a character may stand between the parts of a value. -/
def isSpace (c : Char) : Bool :=
  c = ' ' || c = '\n' || c = '\t' || c = '\r'

/-- The text without the space in front of it. -/
def skipSpace (cs : List Char) : List Char :=
  cs.dropWhile isSpace

/-! ## Numerals -/

/-- The digits in front of a text, and the text after them. -/
def readDigits (cs : List Char) : List Nat × List Char :=
  ((cs.takeWhile isDigit).map fun c => c.toNat - 48, cs.dropWhile isDigit)

/-- The digits before the point. A zero stands alone. -/
def readWhole (cs : List Char) : Option (List Nat × List Char) :=
  match readDigits cs with
  | ([], _) => none
  | (0 :: _ :: _, _) => none
  | (digits, rest) => some (digits, rest)

/-- The digits after the point, if there is one. -/
def readFraction : List Char → Option (Option (List Nat) × List Char)
  | '.' :: cs =>
    match readDigits cs with
    | ([], _) => none
    | (digits, rest) => some (some digits, rest)
  | cs => some (none, cs)

/-- The sign in front of an exponent: whether it is negative, and the text after it. -/
def readSign : List Char → Bool × List Char
  | '-' :: cs => (true, cs)
  | '+' :: cs => (false, cs)
  | cs => (false, cs)

/-- The number of a list of decimal digits. -/
def ofDigits (digits : List Nat) : Nat :=
  digits.foldl (fun n digit => n * 10 + digit) 0

/-- The exponent, if there is one. -/
def readExponent : List Char → Option (Option Int × List Char)
  | [] => some (none, [])
  | c :: cs =>
    if c = 'e' || c = 'E' then
      let (negative, cs) := readSign cs
      match readDigits cs with
      | ([], _) => none
      | (digits, rest) =>
        some (some (if negative then -(ofDigits digits : Int) else ofDigits digits), rest)
    else some (none, c :: cs)

/-- A numeral after its sign. -/
def readNumeral (negative : Bool) (cs : List Char) : Option (Numeral × List Char) := do
  let (whole, cs) ← readWhole cs
  let (fraction, cs) ← readFraction cs
  let (exponent, cs) ← readExponent cs
  return (⟨negative, whole, fraction, exponent⟩, cs)

/-! ## Values -/

/-- A value and the text after it; nothing is left after a problem. -/
def number (read : Option (Numeral × List Char)) : Value × List Char :=
  match read with
  | some (numeral, rest) => (.number numeral, rest)
  | none => (.broken, [])

/-- What stands in the place of a key, as far as its first character shows. -/
def misplaced (cs : List Char) : Value :=
  match cs with
  | '[' :: _ => .array .broken
  | '{' :: _ => .object (.broken .broken)
  | 'n' :: 'u' :: 'l' :: 'l' :: _ => .null
  | 't' :: 'r' :: 'u' :: 'e' :: _ => .bool true
  | 'f' :: 'a' :: 'l' :: 's' :: 'e' :: _ => .bool false
  | '-' :: cs => (number (readNumeral true cs)).1
  | cs => (number (readNumeral false cs)).1

mutual

/-- The value in front of a text. -/
def readValue : Nat → List Char → Value × List Char
  | 0, _ => (.broken, [])
  | fuel + 1, cs =>
    match skipSpace cs with
    | 'n' :: 'u' :: 'l' :: 'l' :: cs => (.null, cs)
    | 't' :: 'r' :: 'u' :: 'e' :: cs => (.bool true, cs)
    | 'f' :: 'a' :: 'l' :: 's' :: 'e' :: cs => (.bool false, cs)
    | '"' :: cs =>
      match readString cs with
      | some (content, rest) => (.string content, rest)
      | none => (.broken, [])
    | '[' :: cs =>
      match skipSpace cs with
      | ']' :: cs => (.array .done, cs)
      | cs =>
        let (items, rest) := readItems fuel cs
        (.array items, rest)
    | '{' :: cs =>
      match skipSpace cs with
      | '}' :: cs => (.object .done, cs)
      | cs =>
        let (members, rest) := readMembers fuel cs
        (.object members, rest)
    | '-' :: cs => number (readNumeral true cs)
    | cs => number (readNumeral false cs)

/-- The items of an array that has at least one more. -/
def readItems : Nat → List Char → Items × List Char
  | 0, _ => (.broken, [])
  | fuel + 1, cs =>
    let (item, rest) := readValue fuel cs
    match skipSpace rest with
    | ']' :: cs => (.cons item .done, cs)
    | ',' :: cs =>
      let (items, rest) := readItems fuel cs
      (.cons item items, rest)
    | _ => (.cons item .broken, [])

/-- The members of an object that has at least one more. -/
def readMembers : Nat → List Char → Members × List Char
  | 0, _ => (.broken .broken, [])
  | fuel + 1, cs =>
    match skipSpace cs with
    | '"' :: cs =>
      match readString cs with
      | none => (.broken .broken, [])
      | some (key, cs) =>
        match skipSpace cs with
        | ':' :: cs =>
          let (value, rest) := readValue fuel cs
          match skipSpace rest with
          | '}' :: cs => (.cons key value .done, cs)
          | ',' :: cs =>
            let (members, rest) := readMembers fuel cs
            (.cons key value members, rest)
          | _ => (.cons key value (.broken .broken), [])
        | _ => (.cons key .broken (.broken .broken), [])
    | cs => (.broken (misplaced cs), [])

end

/-- What can be read of a text, and whether anything but space follows it. No more than two steps
are taken for each character. -/
def read (text : String) : Value × Bool :=
  let cs := text.toList
  let (value, rest) := readValue (2 * cs.length + 2) cs
  (value, !(skipSpace rest).isEmpty)

end QueryScribe.Json
