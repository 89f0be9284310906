import QueryScribe.Declaration.Item
import QueryScribe.Declaration.Lexer
import QueryScribe.Declaration.Setting.Reader
import QueryScribe.Declaration.TypeExpr.Reader

/-!
# Reading a declaration

A source text is read as one declaration: attributes, a visibility, a keyword, a name, generic
parameters and a body. Only what describes an entity is looked at closely; generic parameters,
bounds, and the bodies of declarations without named fields are passed over.
-/

namespace QueryScribe.Declaration

/-- The trees after a visibility. -/
def skipVisibility : List Tree → List Tree
  | .name "pub" :: .group .paren _ :: trees => trees
  | .name "pub" :: trees => trees
  | trees => trees

/-- The named field in front. -/
def field? (trees : List Tree) : Option (FieldItem × List Tree) := do
  let (settings, rest) ← readAttributes trees
  match skipVisibility rest with
  | .name word :: .mark ':' _ :: rest => do
    if !isName word then none
    let (type, rest) ← type? rest
    return (⟨word, type, settings⟩, rest)
  | _ => none

/-- The named fields of a struct, separated by commas. -/
def readFields : Nat → List Tree → Option (List FieldItem)
  | _, [] => some []
  | 0, _ => none
  | fuel + 1, trees => do
    let (field, rest) ← field? trees
    match rest with
    | [] => return [field]
    | .mark ',' _ :: rest => return field :: (← readFields fuel rest)
    | _ => none

/-- The trees from the end of a `where` clause on: a body in braces or a semicolon. -/
def skipBounds (depth : Nat) : List Tree → List Tree
  | [] => []
  | .mark '-' true :: .mark '>' _ :: trees => skipBounds depth trees
  | tree :: trees =>
    match tree, depth with
    | .mark '<' _, depth => skipBounds (depth + 1) trees
    | .mark '>' _, depth + 1 => skipBounds depth trees
    | .group .brace _, 0 => tree :: trees
    | .mark ';' _, 0 => tree :: trees
    | _, depth => skipBounds depth trees

/-- The trees after a `where` clause, if there is one. -/
def skipWhere : List Tree → List Tree
  | .name "where" :: trees => skipBounds 0 trees
  | trees => trees

/-- The shape of a struct, from what follows its generic parameters. -/
def structShape? (trees : List Tree) : Option Shape :=
  match trees with
  | .group .paren _ :: rest =>
    match skipWhere rest with
    | [.mark ';' _] => some .otherStruct
    | _ => none
  | trees =>
    match skipWhere trees with
    | [.mark ';' _] => some .otherStruct
    | [.group .brace content] => do return .namedFields (← readFields content.length content)
    | _ => none

/-- The shape of an enum or a union, from what follows its generic parameters. -/
def otherShape? (trees : List Tree) : Option Shape :=
  match skipWhere trees with
  | [.group .brace _] => some .noStruct
  | _ => none

/-- The declaration that a sequence of trees is. -/
def Item.ofTrees? (trees : List Tree) : Option Item := do
  let (settings, rest) ← readAttributes trees
  match skipVisibility rest with
  | .name keyword :: .name word :: rest => do
    if !isName word then none
    let rest ← match rest with
      | .mark '<' _ :: _ => skipAngles 0 rest
      | _ => some rest
    let shape ←
      if keyword = "struct" then structShape? rest
      else if keyword = "enum" || keyword = "union" then otherShape? rest
      else none
    return ⟨word, settings, shape⟩
  | _ => none

/-- The declaration that a source text is, if it is one. -/
def Item.read? (source : String) : Option Item := do
  Item.ofTrees? (← Tree.ofTokens? (← lex? source))

/-- Why a source text describes no entity. -/
inductive Problem
  | unreadable
  | refused (complaints : List Complaint)
  deriving Repr, DecidableEq

/-- The entity that a source text in a module describes. -/
def describe (moduleName source : String) : Except Problem Entity :=
  match Item.read? source with
  | none => .error .unreadable
  | some item => (item.describe moduleName).mapError .refused

end QueryScribe.Declaration
