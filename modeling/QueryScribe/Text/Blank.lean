import QueryScribe.Text.CharSet

/-!
# White space around a text

Tags are read with the white space at both ends removed. White space is Unicode's property
White_Space: it has the no-break space and the line separator, and it does not have the zero-width
space or the byte order mark.
-/

namespace QueryScribe.Text

/-- The property White_Space. -/
def whiteSpace : CharSet :=
  .ofSpans
    [(9, 13), (32, 32), (133, 133), (160, 160), (5760, 5760), (8192, 8202), (8232, 8233),
     (8239, 8239), (8287, 8287), (12288, 12288)]

/-- Whether a character is white space. -/
def isBlank (c : Char) : Bool :=
  whiteSpace.has c

/-- The characters without the white space at either end. -/
def trimChars (cs : List Char) : List Char :=
  ((cs.dropWhile isBlank).reverse.dropWhile isBlank).reverse

/-- The text without the white space at either end. -/
def trim (s : String) : String :=
  String.ofList (trimChars s.toList)

end QueryScribe.Text
