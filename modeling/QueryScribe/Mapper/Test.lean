import QueryScribe.Query.Check

/-!
# Tests

The condition of a mapper's `if` element. Parentheses are part of a test, since without them `and`
binds tighter than `or`. Asking a value that may be null for its size would fail, so a test for
emptiness always stands behind one for null.
-/

namespace QueryScribe.Mapper

/-- A condition on the values passed to a statement, as it is written. -/
inductive Test
  | isNull (subject : String)
  | isNotNull (subject : String)
  | isBlank (subject : String)
  | isNotBlank (subject : String)
  | isEmpty (subject : String)
  | isNotEmpty (subject : String)
  | both (first second : Test)
  | either (first second : Test)
  | group (test : Test)
  deriving Repr, DecidableEq

namespace Test

/-- The test as text. -/
def text : Test → String
  | isNull subject => subject ++ " == null"
  | isNotNull subject => subject ++ " != null"
  | isBlank subject => subject ++ " == ''"
  | isNotBlank subject => subject ++ " != ''"
  | isEmpty subject => subject ++ ".isEmpty()"
  | isNotEmpty subject => "!" ++ subject ++ ".isEmpty()"
  | both first second => first.text ++ " and " ++ second.text
  | either first second => first.text ++ " or " ++ second.text
  | group test => "(" ++ test.text ++ ")"

/-- The test that makes a check. -/
def ofCheck : Check → Test
  | ⟨subject, .text, .missing⟩ => either (isNull subject) (isBlank subject)
  | ⟨subject, .text, .present⟩ => both (isNotNull subject) (isNotBlank subject)
  | ⟨subject, .collection, .missing⟩ => either (isNull subject) (isEmpty subject)
  | ⟨subject, .collection, .present⟩ => both (isNotNull subject) (isNotEmpty subject)
  | ⟨subject, .scalar, .missing⟩ => isNull subject
  | ⟨subject, .scalar, .present⟩ => isNotNull subject

/-- Tests joined one after the other. -/
def join (op : Test → Test → Test) (first : Test) : List Test → Test
  | [] => first
  | second :: others => op first (join op second others)

end Test

end QueryScribe.Mapper
