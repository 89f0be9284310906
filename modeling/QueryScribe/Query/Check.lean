import QueryScribe.Query.Field

/-!
# Checks

Whether a value is there to compare with. Text and collections are missing when they are null or
empty, scalars only when they are null. Every dialect spells checks in its own way; what is checked
is decided here.
-/

namespace QueryScribe

/-- The two answers a check can ask for. -/
inductive Presence
  | missing
  | present
  deriving Repr, DecidableEq

/-- A question about the value that the expression `subject` reads. -/
structure Check where
  subject : String
  category : Category
  presence : Presence
  deriving Repr, DecidableEq

end QueryScribe
