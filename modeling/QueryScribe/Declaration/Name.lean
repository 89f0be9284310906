/-!
# Names

Every word of the source that is no keyword can name something. A raw identifier begins with a sign
that takes away the meaning of a keyword and is not part of the name.
-/

namespace QueryScribe.Declaration

/-- The words of the language, which are no names. -/
def keywords : List String :=
  ["_", "abstract", "as", "async", "await", "become", "box", "break", "const", "continue", "crate",
   "do", "dyn", "else", "enum", "extern", "false", "final", "fn", "for", "if", "impl", "in", "let",
   "loop", "macro", "match", "mod", "move", "mut", "override", "priv", "pub", "ref", "return",
   "Self", "self", "static", "struct", "super", "trait", "true", "try", "type", "typeof", "unsafe",
   "unsized", "use", "virtual", "where", "while", "yield"]

/-- Whether a word can be the name of something. -/
def isName (word : String) : Bool :=
  !keywords.contains word

/-- Whether a word can be a segment of a path. -/
def isPathWord (word : String) : Bool :=
  isName word || ["Self", "self", "super", "crate"].contains word

/-- A name without the sign of a raw identifier. -/
def plainName (name : String) : String :=
  match name.toList with
  | 'r' :: '#' :: cs => String.ofList cs
  | _ => name

end QueryScribe.Declaration
