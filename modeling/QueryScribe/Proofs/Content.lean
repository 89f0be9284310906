import QueryScribe.Query.Basic
import QueryScribe.Query.Check

/-!
# What fields hold

The generated texts ask about the values of fields, but only ever in three ways: whether a value is
null, whether it is an empty text or collection, and whether it is anything else. A valuation gives
each field one of these three contents.

The texts refer to fields by name, so the names have to be identifiers of the languages the texts
are written in. Beyond ASCII every character may be part of an identifier.
-/

namespace QueryScribe

/-! ## Contents -/

/-- What a field holds, as far as a check can tell. -/
inductive Content
  | null
  | empty
  | filled
  deriving Repr, DecidableEq

/-- Whether a field of the category has nothing to compare with. A scalar cannot be empty. -/
def Content.isMissing : Category → Content → Bool
  | _, null => true
  | .scalar, empty => false
  | _, empty => true
  | _, filled => false

/-- Whether a field of the category has something to compare with. -/
def Content.isPresent (category : Category) (content : Content) : Bool :=
  !content.isMissing category

/-- Whether the value of a field is there. -/
def Field.isPresent (contents : String → Content) (field : Field) : Bool :=
  (contents field.name).isPresent field.category

/-- Whether the value of a selected field is there. -/
def Selection.isPresent (contents : String → Content) (selection : Selection) : Bool :=
  (contents selection.name).isPresent selection.category

/-- The answer to a check. -/
def Presence.holds (presence : Presence) (category : Category) (content : Content) : Bool :=
  match presence with
  | .missing => content.isMissing category
  | .present => content.isPresent category

/-! ## Comparisons -/

/-- A comparison as a text has it: the check that it depends on, and the column and the value on
either side of its operator. -/
structure Comparison where
  guard : Check
  operator : Operator
  column : String
  value : String
  deriving Repr, DecidableEq

/-- Where each of several things is read back, all of them are. -/
theorem mapM_map_of_reads {α β γ : Type} {write : α → β} {read : β → Option γ} {meaning : α → γ}
    {items : List α} (reads : ∀ item ∈ items, read (write item) = some (meaning item)) :
    (items.map write).mapM read = some (items.map meaning) := by
  induction items with
  | nil => rfl
  | cons item items ih =>
    rw [List.map_cons, List.mapM_cons, reads item (by simp),
      ih fun other mem => reads other (List.mem_cons_of_mem _ mem)]
    rfl

/-! ## Identifiers -/

namespace Text

/-- Whether a character may stand in an identifier. -/
def isWordChar (c : Char) : Bool :=
  isAsciiUpper c || isAsciiLower c || ('0' ≤ c && c ≤ '9') || c = '_' || c = '$'
    || 128 ≤ c.toNat

/-- Whether a text has no other characters than those of identifiers. -/
def HasWordChars (s : String) : Prop :=
  ∀ c ∈ s.toList, isWordChar c = true

instance : DecidablePred HasWordChars := fun s => List.decidableBAll _ s.toList

/-- Whether a text is an identifier: it starts with no digit. -/
def isIdentifier (s : String) : Bool :=
  match s.toList with
  | [] => false
  | c :: cs => !('0' ≤ c && c ≤ '9') && (c :: cs).all isWordChar

theorem isIdentifier_ne_nil {s : String} (h : isIdentifier s = true) : s.toList ≠ [] := by
  intro empty
  simp [isIdentifier, empty] at h

theorem isWordChar_of_mem {s : String} (h : isIdentifier s = true) : HasWordChars s := by
  unfold isIdentifier at h
  split at h
  · next empty => exact absurd h (by simp)
  · next c cs chars =>
    rw [HasWordChars, chars]
    rw [Bool.and_eq_true] at h
    exact List.all_eq_true.mp h.2

end Text

/-- Whether the names of a query's columns and table are identifiers. -/
structure Query.HasIdentifiers (query : Query) : Prop where
  target : Text.isIdentifier query.target.name = true
  declared : ∀ field ∈ query.source.fields, Text.isIdentifier field.name = true
  targetDeclared : ∀ field ∈ query.target.fields, Text.isIdentifier field.name = true
  selected : ∀ selection ∈ query.selections, Text.isIdentifier selection.name = true
  columns : ∀ selection ∈ query.selections, Text.isIdentifier selection.column = true

end QueryScribe
