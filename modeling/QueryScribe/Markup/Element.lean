/-!
# Markup documents

A document is a tree of blocks. A block with children opens and closes on lines of its own, with its
children one level further in; a line holds text, comments and small elements.
-/

namespace QueryScribe.Markup

/-- An attribute, its value as it is written between the quotes. -/
structure Attribute where
  name : String
  value : String
  deriving Repr, DecidableEq

/-- The attribute as it follows a tag's name. -/
def Attribute.text : Attribute → String
  | ⟨name, value⟩ => " " ++ name ++ "=\"" ++ value ++ "\""

/-- The tag that opens an element. -/
def openingTag (tag : String) (attributes : List Attribute) : String :=
  "<" ++ tag ++ String.join (attributes.map Attribute.text) ++ ">"

/-- The tag that closes an element. -/
def closingTag (tag : String) : String :=
  "</" ++ tag ++ ">"

/-- A piece of a line. Text is given as it is written, with its entities. -/
inductive Inline
  | text (written : String)
  | comment (content : String)
  | element (tag : String) (attributes : List Attribute) (written : String)
  deriving Repr, DecidableEq

/-- The piece as it is written. -/
def Inline.render : Inline → String
  | text written => written
  | comment content => "<!--" ++ content ++ "-->"
  | element tag attributes written => openingTag tag attributes ++ written ++ closingTag tag

/-- A line, or an element with blocks in it. -/
inductive Block
  | line (pieces : List Inline)
  | element (tag : String) (attributes : List Attribute) (children : List Block)
  deriving Repr

/-- The space before a line at a depth: four blanks a level. -/
def indent (depth : Nat) : String :=
  String.join (List.replicate depth "    ")

mutual

/-- The block as lines at a depth. -/
def Block.render (depth : Nat) : Block → String
  | .line pieces => indent depth ++ String.join (pieces.map Inline.render) ++ "\n"
  | .element tag attributes children =>
    indent depth ++ openingTag tag attributes ++ "\n" ++ Block.renderAll (depth + 1) children
      ++ indent depth ++ closingTag tag ++ "\n"

/-- The blocks as lines at a depth. -/
def Block.renderAll (depth : Nat) : List Block → String
  | [] => ""
  | block :: blocks => Block.render depth block ++ Block.renderAll depth blocks

end

/-- The element that holds a whole document. -/
structure Document where
  tag : String
  attributes : List Attribute
  children : List Block
  deriving Repr

/-- The document as text. The closing tag ends it, without a line break. -/
def Document.render (document : Document) : String :=
  openingTag document.tag document.attributes ++ "\n" ++ Block.renderAll 1 document.children
    ++ closingTag document.tag

end QueryScribe.Markup
