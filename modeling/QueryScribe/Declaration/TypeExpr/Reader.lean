import QueryScribe.Declaration.Name
import QueryScribe.Declaration.Token
import QueryScribe.Declaration.TypeExpr

/-!
# Reading a type expression

A type is read from the trees in front of a sequence, as far as it goes. Of a type without a name
only the extent is found out.
-/

namespace QueryScribe.Declaration

/-! ## Passing over -/

/-- Passes over the rest of a type or bound, up to a comma, a semicolon, an equals sign or a closing
angle bracket outside of all angle brackets; `depth` of them are open. -/
def skipType (depth : Nat) : List Tree → List Tree
  | [] => []
  | .mark '-' true :: .mark '>' _ :: trees => skipType depth trees
  | tree :: trees =>
    match tree, depth with
    | .mark '<' _, depth => skipType (depth + 1) trees
    | .mark '>' _, depth + 1 => skipType depth trees
    | .mark '>' _, 0 => tree :: trees
    | .mark ',' _, 0 => tree :: trees
    | .mark ';' _, 0 => tree :: trees
    | .mark '=' _, 0 => tree :: trees
    | _, depth => skipType depth trees

/-- The trees after the angle brackets in front, and after those around them if `depth` are open. -/
def skipAngles (depth : Nat) : List Tree → Option (List Tree)
  | [] => none
  | .mark '-' true :: .mark '>' _ :: trees => skipAngles depth trees
  | tree :: trees =>
    match tree, depth with
    | .mark '<' _, depth => skipAngles (depth + 1) trees
    | .mark '>' _, 1 => some trees
    | .mark '>' _, depth + 1 => skipAngles depth trees
    | _, depth => skipAngles depth trees

/-! ## Types -/

/-- Whether a type without a name begins with the tree. -/
def startsUnnamed : Tree → Bool
  | .name word =>
    ["_", "fn", "unsafe", "extern", "for", "dyn", "impl"].contains word
  | .mark c _ => ['!', '*', '?'].contains c
  | .lifetime => true
  | _ => false

/-- The trees after the lifetime and `mut` of a reference. -/
def skipReference : List Tree → List Tree
  | .lifetime :: .name "mut" :: trees => trees
  | .lifetime :: trees => trees
  | .name "mut" :: trees => trees
  | trees => trees

/-- Whether a type is a single name, which a binding may follow. -/
def TypeExpr.isSingleName : TypeExpr → Bool
  | .path false [] (.mk _ .parenthesized) => false
  | .path false [] _ => true
  | _ => false

mutual

/-- The type in front. Where `sums` is set, a sum of bounds counts as a type. -/
def readType (sums : Bool) : Nat → List Tree → Option (TypeExpr × List Tree)
  | 0, _ => none
  | fuel + 1, trees =>
    match trees with
    | [] => none
    | .mark '&' _ :: trees => do
      let (element, rest) ← readType false fuel (skipReference trees)
      return (.reference element, rest)
    | .group .square content :: rest => do
      match ← readType true fuel content with
      | (element, []) => return (.slice element, rest)
      | (element, .mark ';' _ :: _ :: _) => return (.array element, rest)
      | _ => none
    | .group .paren [] :: rest => some (.unnamed, rest)
    | .group .paren content :: rest => do
      match ← readType true fuel content with
      | (element, []) =>
        if sums && (rest.head?.any fun | .mark '+' _ => true | _ => false) then
          return (.unnamed, skipType 0 rest)
        else return (.paren element, rest)
      | (_, .mark ',' _ :: _) => return (.unnamed, rest)
      | _ => none
    | .mark '<' _ :: _ => do
      match ← skipAngles 0 trees with
      | .mark ':' true :: .mark ':' _ :: rest => do
        let (earlier, last, rest) ← readSegments fuel rest
        return (.path true earlier last, rest)
      | _ => none
    | tree :: _ =>
      if startsUnnamed tree then some (.unnamed, skipType 0 trees)
      else do
        let (type, rest) ← readPath fuel trees
        match rest with
        | .mark '!' _ :: .group _ _ :: rest => return (.unnamed, rest)
        | .mark '+' _ :: _ => return if sums then (.unnamed, skipType 0 rest) else (type, rest)
        | rest => return (type, rest)

/-- The path in front. -/
def readPath : Nat → List Tree → Option (TypeExpr × List Tree)
  | 0, _ => none
  | fuel + 1, trees => do
    let trees := match trees with
      | .mark ':' true :: .mark ':' _ :: trees => trees
      | trees => trees
    let (earlier, last, rest) ← readSegments fuel trees
    return (.path false earlier last, rest)

/-- The segments of a path, the last one apart from those before it. -/
def readSegments : Nat → List Tree → Option (List Segment × Segment × List Tree)
  | 0, _ => none
  | fuel + 1, trees =>
    match trees with
    | .name word :: trees =>
      if !isPathWord word then none
      else do
        let (arguments, rest) ← readArguments fuel trees
        match rest with
        | .mark ':' true :: .mark ':' _ :: rest => do
          let (earlier, last, rest) ← readSegments fuel rest
          return (.mk word arguments :: earlier, last, rest)
        | rest => return ([], .mk word arguments, rest)
    | _ => none

/-- The arguments of a segment. -/
def readArguments : Nat → List Tree → Option (Arguments × List Tree)
  | 0, _ => none
  | fuel + 1, trees =>
    match trees with
    | .mark '<' _ :: trees => do
      let (arguments, rest) ← readArgumentList fuel trees
      return (.angled arguments, rest)
    | .mark ':' true :: .mark ':' _ :: .mark '<' _ :: trees => do
      let (arguments, rest) ← readArgumentList fuel trees
      return (.angled arguments, rest)
    | .group .paren _ :: .mark '-' true :: .mark '>' _ :: trees => do
      let (_, rest) ← readType false fuel trees
      return (.parenthesized, rest)
    | .group .paren _ :: trees => some (.parenthesized, trees)
    | trees => some (.none, trees)

/-- The arguments up to the closing angle bracket. -/
def readArgumentList : Nat → List Tree → Option (List Argument × List Tree)
  | 0, _ => none
  | fuel + 1, trees =>
    match trees with
    | .mark '>' _ :: rest => some ([], rest)
    | trees => do
      let (argument, rest) ← readArgument fuel trees
      match rest with
      | .mark '>' _ :: rest => return ([argument], rest)
      | .mark ',' _ :: rest => do
        let (arguments, rest) ← readArgumentList fuel rest
        return (argument :: arguments, rest)
      | _ => none

/-- The argument in front. -/
def readArgument : Nat → List Tree → Option (Argument × List Tree)
  | 0, _ => none
  | fuel + 1, trees =>
    match trees, Tree.literal? trees with
    | .lifetime :: rest, _ => some (.other, rest)
    | .group .brace _ :: rest, _ => some (.other, rest)
    | _, some (_, rest) => some (.other, rest)
    | trees, none => do
      let (type, rest) ← readType true fuel trees
      match rest with
      | .mark '=' _ :: rest =>
        if type.isSingleName then some (.other, skipType 0 rest) else none
      | .mark ':' _ :: rest =>
        if type.isSingleName then some (.other, skipType 0 rest) else none
      | rest => some (.type type, rest)

end

/-- The type in front. Each tree takes part in six steps at most. -/
def type? (trees : List Tree) : Option (TypeExpr × List Tree) :=
  readType true (6 * Tree.sizeAll trees + 6) trees

end QueryScribe.Declaration
