/-!
# Tokens of a declaration

Source text is a sequence of names, lifetimes, literals and punctuation, with brackets around parts
of it. Brackets are matched before anything else is looked at, so that a part in brackets is one
tree.
-/

namespace QueryScribe.Declaration

/-- A literal. Only the content of strings matters; of the others it matters what they are. -/
inductive Literal
  | string (content : String)
  | byteString
  | cString
  | byte
  | char
  | int
  | float
  | bool (value : Bool)
  deriving Repr, DecidableEq

/-- What a literal is, as messages name it. -/
def Literal.kind : Literal → String
  | string _ => "string"
  | byteString => "byte string"
  | cString => "C string"
  | byte => "byte"
  | char => "char"
  | int => "int"
  | float => "float"
  | bool _ => "bool"

/-- A kind of brackets. -/
inductive Bracket
  | paren
  | square
  | brace
  deriving Repr, DecidableEq

/-- A token of the source. A mark is one character of punctuation; it is joined when another one
follows at once. -/
inductive Token
  | name (text : String)
  | lifetime
  | literal (value : Literal)
  | mark (c : Char) (joined : Bool)
  | opening (bracket : Bracket)
  | closing (bracket : Bracket)
  deriving Repr, DecidableEq

/-- A token other than a bracket, or all that stands in a pair of brackets. -/
inductive Tree
  | name (text : String)
  | lifetime
  | literal (value : Literal)
  | mark (c : Char) (joined : Bool)
  | group (bracket : Bracket) (trees : List Tree)
  deriving Repr

namespace Tree

mutual

/-- The number of trees in a tree. -/
def size : Tree → Nat
  | .group _ trees => sizeAll trees + 1
  | _ => 1

/-- The number of trees in a sequence of trees. -/
def sizeAll : List Tree → Nat
  | [] => 0
  | tree :: trees => tree.size + sizeAll trees

end

/-- Matches the brackets of the tokens that follow. The trees of the innermost open bracket are in
`inner` and those around it in `outer`, the last one first. -/
def gather (outer : List (Bracket × List Tree)) (inner : List Tree) :
    List Token → Option (List Tree)
  | [] => if outer.isEmpty then some inner.reverse else none
  | token :: tokens =>
    match token with
    | .opening bracket => gather ((bracket, inner) :: outer) [] tokens
    | .closing bracket =>
      match outer with
      | [] => none
      | (opened, before) :: outer =>
        if opened = bracket then gather outer (.group bracket inner.reverse :: before) tokens
        else none
    | .name text => gather outer (.name text :: inner) tokens
    | .lifetime => gather outer (.lifetime :: inner) tokens
    | .literal value => gather outer (.literal value :: inner) tokens
    | .mark c joined => gather outer (.mark c joined :: inner) tokens

/-- The trees of a sequence of tokens, if every bracket has its partner. -/
def ofTokens? (tokens : List Token) : Option (List Tree) :=
  gather [] [] tokens

/-- The literal in front, a negative number included. -/
def literal? : List Tree → Option (Literal × List Tree)
  | .literal value :: trees => some (value, trees)
  | .name "true" :: trees => some (.bool true, trees)
  | .name "false" :: trees => some (.bool false, trees)
  | .mark '-' _ :: .literal .int :: trees => some (.int, trees)
  | .mark '-' _ :: .literal .float :: trees => some (.float, trees)
  | _ => none

end Tree

end QueryScribe.Declaration
