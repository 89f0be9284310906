import QueryScribe.Declaration.Token
import QueryScribe.Text.Blank
import QueryScribe.Text.Digit

/-!
# The tokens of a source text

White space and comments separate tokens and leave no trace, and documentation comments are comments
like any other. Beyond ASCII, every character that is not white space may stand in a name.
-/

namespace QueryScribe.Declaration

open Text

/-! ## Characters -/

/-- Whether a character separates tokens. The marks of writing direction do. -/
def isSpace (c : Char) : Bool :=
  isBlank c || c = '\u200e' || c = '\u200f'

/-- Whether a name can begin with a character. -/
def startsName (c : Char) : Bool :=
  ('a' ≤ c && c ≤ 'z') || ('A' ≤ c && c ≤ 'Z') || c = '_' || (c.toNat ≥ 128 && !isSpace c)

/-- Whether a name can go on with a character. -/
def continuesName (c : Char) : Bool :=
  startsName c || isDigit c

/-- Whether a character is punctuation. -/
def isMark (c : Char) : Bool :=
  "~!@#$%^&*-=+|;:,<.>/?".toList.contains c

/-- The bracket that a character opens. -/
def opened? : Char → Option Bracket
  | '(' => some .paren
  | '[' => some .square
  | '\x7b' => some .brace
  | _ => none

/-- The bracket that a character closes. -/
def closed? : Char → Option Bracket
  | ')' => some .paren
  | ']' => some .square
  | '\x7d' => some .brace
  | _ => none

/-! ## Comments -/

/-- The text after a block comment with `depth` comments open inside it. -/
def skipComment (depth : Nat) : List Char → Option (List Char)
  | [] => none
  | '*' :: '/' :: cs => if depth = 0 then some cs else skipComment (depth - 1) cs
  | '/' :: '*' :: cs => skipComment (depth + 1) cs
  | _ :: cs => skipComment depth cs

/-! ## Quoted literals -/

/-- The text up to a closing quote, and the text after it. A backslash keeps the character after it
from closing anything. -/
def splitQuoted (quote : Char) : List Char → Option (List Char × List Char)
  | [] => none
  | '\\' :: c :: cs => (splitQuoted quote cs).map fun (body, rest) => ('\\' :: c :: body, rest)
  | c :: cs =>
    if c = quote then some ([], cs)
    else (splitQuoted quote cs).map fun (body, rest) => (c :: body, rest)

/-- The text up to a quote with that many number signs after it, and the text after them. -/
def splitRaw (signs : Nat) : List Char → Option (List Char × List Char)
  | [] => none
  | c :: cs =>
    if c = '"' && (List.replicate signs '#').isPrefixOf cs then some ([], cs.drop signs)
    else (splitRaw signs cs).map fun (body, rest) => (c :: body, rest)

/-- The character that a short escape stands for. -/
def shortEscape? : Char → Option Char
  | 'n' => some '\n'
  | 'r' => some '\r'
  | 't' => some '\t'
  | '0' => some '\x00'
  | '\\' => some '\\'
  | '\'' => some '\''
  | '"' => some '"'
  | _ => none

/-- The text of a string without the line breaks that follow a backslash, nor the space after such a
line break. -/
def joinLines (afterBreak : Bool) : List Char → List Char
  | [] => []
  | '\\' :: '\n' :: cs => joinLines true cs
  | '\\' :: c :: cs => '\\' :: c :: joinLines false cs
  | c :: cs =>
    if afterBreak && (c = ' ' || c = '\t' || c = '\n' || c = '\r') then joinLines true cs
    else c :: joinLines false cs

/-- The content of a string from its text between the quotes. Inside the braces of an escape, `code`
is the number that its digits so far make. -/
def unescape (code : Option Nat) : List Char → Option (List Char)
  | [] => if code.isNone then some [] else none
  | c :: cs =>
    match code, c, cs with
    | some n, '\x7d', cs => (unescape none cs).map (Char.ofNat n :: ·)
    | some n, '_', cs => unescape (some n) cs
    | some n, c, cs => do unescape (some (n * 16 + (← hexValue? c))) cs
    | none, '\\', 'u' :: '\x7b' :: cs => unescape (some 0) cs
    | none, '\\', 'x' :: a :: b :: cs => do
      let number := (← hexValue? a) * 16 + (← hexValue? b)
      (unescape none cs).map (Char.ofNat number :: ·)
    | none, '\\', e :: cs => do
      let c ← shortEscape? e
      (unescape none cs).map (c :: ·)
    | none, '\\', [] => none
    | none, c, cs => (unescape none cs).map (c :: ·)

/-- A string literal whose opening quote has been read. -/
def lexString (cs : List Char) : Option (Token × List Char) := do
  let (body, rest) ← splitQuoted '"' cs
  let content ← unescape none (joinLines false body)
  return (.literal (.string (String.ofList content)), rest)

/-- A literal in the given quotes whose content does not matter. -/
def lexOther (literal : Literal) (quote : Char) (cs : List Char) : Option (Token × List Char) := do
  let (_, rest) ← splitQuoted quote cs
  return (.literal literal, rest)

/-- A raw string after its letter: number signs, and the text between the quotes as it stands. -/
def lexRaw (literal : String → Literal) (cs : List Char) : Option (Token × List Char) :=
  let signs := (cs.takeWhile (· = '#')).length
  match cs.drop signs with
  | '"' :: cs => do
    let (body, rest) ← splitRaw signs cs
    return (.literal (literal (String.ofList body)), rest)
  | _ => none

/-- What a single quote begins: a character, or a lifetime. -/
def lexQuote (cs : List Char) : Option (Token × List Char) :=
  match cs with
  | '\\' :: _ => lexOther .char '\'' cs
  | _ :: '\'' :: rest => some (.literal .char, rest)
  | c :: _ => if startsName c then some (.lifetime, cs.dropWhile continuesName) else none
  | [] => none

/-! ## Names and numbers -/

/-- Whether a raw string begins after its letter. -/
def startsRaw (cs : List Char) : Bool :=
  (cs.dropWhile (· = '#')).head? = some '"'

/-- What a letter or an underscore begins: a name, or a literal with a letter in front. -/
def lexName (cs : List Char) : Option (Token × List Char) :=
  let text := String.ofList (cs.takeWhile continuesName)
  let rest := cs.dropWhile continuesName
  match text, rest with
  | "b", '"' :: rest => lexOther .byteString '"' rest
  | "c", '"' :: rest => lexOther .cString '"' rest
  | "b", '\'' :: rest => lexOther .byte '\'' rest
  | "r", _ =>
    if startsRaw rest then lexRaw .string rest
    else match rest with
      | '#' :: rest =>
        let raw := rest.takeWhile continuesName
        if raw.isEmpty then none
        else some (.name ("r#" ++ String.ofList raw), rest.dropWhile continuesName)
      | rest => some (.name text, rest)
  | "br", _ =>
    if startsRaw rest then lexRaw (fun _ => .byteString) rest else some (.name text, rest)
  | "cr", _ => if startsRaw rest then lexRaw (fun _ => .cString) rest else some (.name text, rest)
  | _, _ => some (.name text, rest)

/-- Whether the letters and digits of a number make it a float: an exponent does, unless the number
is written in another base than ten. -/
def hasExponent (digits : List Char) : Bool :=
  let digits := digits.dropWhile fun c => isDigit c || c = '_'
  digits.head? = some 'e' || digits.head? = some 'E'

/-- The sign and the digits of an exponent whose letter ends the text before it. -/
def lexExponentSign (before cs : List Char) : List Char :=
  match cs with
  | c :: d :: _ =>
    if (c = '+' || c = '-') && isDigit d && hasExponent before
        && (before.getLast? = some 'e' || before.getLast? = some 'E')
    then (cs.drop 1).dropWhile continuesName
    else cs
  | _ => cs

/-- A number. -/
def lexNumber (cs : List Char) : Token × List Char :=
  let whole := cs.takeWhile continuesName
  match cs.dropWhile continuesName with
  | '.' :: d :: rest =>
    if isDigit d then
      let fraction := (d :: rest).takeWhile continuesName
      (.literal .float, lexExponentSign fraction ((d :: rest).dropWhile continuesName))
    else if d = '.' || startsName d then (.literal .int, '.' :: d :: rest)
    else (.literal .float, d :: rest)
  | ['.'] => (.literal .float, [])
  | rest =>
    (.literal (if hasExponent whole then .float else .int), lexExponentSign whole rest)

/-! ## Tokens -/

/-- The token in front of a text that begins with neither space nor a comment. -/
def lexToken (c : Char) (cs : List Char) : Option (Token × List Char) :=
  if c = '"' then lexString cs
  else if c = '\'' then lexQuote cs
  else if startsName c then lexName (c :: cs)
  else if isDigit c then some (lexNumber (c :: cs))
  else match opened? c, closed? c with
    | some bracket, _ => some (.opening bracket, cs)
    | none, some bracket => some (.closing bracket, cs)
    | none, none => if isMark c then some (.mark c (cs.head?.any isMark), cs) else none

/-- The tokens of a text, as far as the fuel goes. -/
def lexFrom : Nat → List Char → Option (List Token)
  | _, [] => some []
  | 0, _ :: _ => none
  | fuel + 1, c :: cs =>
    if isSpace c then lexFrom fuel cs
    else match c, cs with
      | '/', '/' :: cs => lexFrom fuel (cs.dropWhile (· ≠ '\n'))
      | '/', '*' :: cs => do lexFrom fuel (← skipComment 0 cs)
      | _, _ => do
        let (token, rest) ← lexToken c cs
        return token :: (← lexFrom fuel rest)

/-- The tokens of a text. Every step takes at least one character. -/
def lex? (source : String) : Option (List Token) :=
  lexFrom source.toList.length source.toList

end QueryScribe.Declaration
