/-!
# Sets of characters

A property of characters is given as the spans of code points that have it.
-/

namespace QueryScribe.Text

/-- A set of characters, as spans of code points with both ends included. -/
structure CharSet where
  ofSpans ::
  spans : List (Nat × Nat)
  deriving Repr, DecidableEq

namespace CharSet

/-- Membership: some span holds the character's code point. -/
def has (set : CharSet) (c : Char) : Bool :=
  set.spans.any fun (first, last) => first ≤ c.toNat && c.toNat ≤ last

theorem has_iff {set : CharSet} {c : Char} :
    set.has c = true ↔ ∃ span ∈ set.spans, span.1 ≤ c.toNat ∧ c.toNat ≤ span.2 := by
  simp [has]

end CharSet

end QueryScribe.Text
