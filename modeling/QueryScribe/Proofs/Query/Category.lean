import Mathlib.Data.List.Basic
import QueryScribe.Query.Field

/-!
# Categories of declared types

A declared type is put into a category by what its text has: the one text type, a marker of
collections, or neither. Markers have letters only, so that none reaches across the brackets and
commas of a type with arguments.

Results:
1. `ofType_eq_text_iff`, `ofType_eq_collection_iff`, `ofType_eq_scalar_iff`: the three categories.
2. `hasMarker_applied`, `hasMarker_arguments`: markers in a type with arguments.
3. `category_by_occurrence`: the category of any text, and of one with a collection inside.
-/

namespace QueryScribe

/-- Whether one of the words for collections stands somewhere in a text. -/
def HasMarker (text : String) : Prop :=
  ∃ marker ∈ ["List", "Set", "Collection"], ∃ before after, text = before ++ marker ++ after

namespace Category

/-! ## 1. Categories -/

/-- Whether a marker is found among the characters of a text. -/
def marks (cs : List Char) : Bool :=
  collectionMarkers.any fun marker => Text.occurs marker.toList cs

theorem hasMarker_iff (text : String) : HasMarker text ↔ marks text.toList = true := by
  rw [marks, List.any_eq_true]
  refine exists_congr fun marker => and_congr_right fun _ => ?_
  rw [Text.occurs_iff]
  constructor
  · rintro ⟨before, after, rfl⟩
    exact ⟨before.toList, after.toList, by simp⟩
  · rintro ⟨before, after, chars⟩
    refine ⟨String.ofList before, String.ofList after, String.toList_injective ?_⟩
    simpa using chars

instance : DecidablePred HasMarker := fun text =>
  decidable_of_iff _ (hasMarker_iff text).symm

/-- Text is of one declared type only. -/
theorem ofType_eq_text_iff (declared : String) : ofType declared = .text ↔ declared = "String" := by
  rw [ofType]
  split
  · next text => simp [text]
  · next other => split <;> simp [other]

/-- Collections are known by their markers. -/
theorem ofType_eq_collection_iff (declared : String) :
    ofType declared = .collection ↔ HasMarker declared := by
  rw [hasMarker_iff, ofType, marks]
  split
  · next text =>
    subst text
    decide
  · split <;> simp_all

theorem ofType_eq_scalar_iff (declared : String) :
    ofType declared = .scalar ↔ declared ≠ "String" ∧ ¬ HasMarker declared := by
  rw [Ne, ← ofType_eq_text_iff, ← ofType_eq_collection_iff]
  cases ofType declared <;> simp

/-! ## 2. Types with arguments -/

theorem marks_nil : marks [] = false := rfl

/-- A character that no marker has keeps the markers on one side of it. -/
theorem marks_append_cons {c : Char} (absent : ∀ marker ∈ collectionMarkers, c ∉ marker.toList)
    (before after : List Char) :
    marks (before ++ c :: after) = (marks before || marks after) := by
  rw [Bool.eq_iff_iff, Bool.or_eq_true]
  simp only [marks, List.any_eq_true]
  constructor
  · rintro ⟨marker, listed, occurs⟩
    rw [Text.occurs_append_cons (absent marker listed), Bool.or_eq_true] at occurs
    exact occurs.imp (⟨marker, listed, ·⟩) (⟨marker, listed, ·⟩)
  · rintro (⟨marker, listed, occurs⟩ | ⟨marker, listed, occurs⟩) <;>
      exact ⟨marker, listed, by simp [Text.occurs_append_cons (absent marker listed), occurs]⟩

/-- A type with arguments has the markers of its name and of the arguments. -/
theorem hasMarker_applied (name content : String) :
    HasMarker (name ++ "<" ++ content ++ ">") ↔ HasMarker name ∨ HasMarker content := by
  have chars : (name ++ "<" ++ content ++ ">").toList
      = name.toList ++ '<' :: (content.toList ++ '>' :: []) := by simp
  rw [hasMarker_iff, chars, hasMarker_iff, hasMarker_iff, marks_append_cons (by decide),
    marks_append_cons (by decide), marks_nil, Bool.or_false, Bool.or_eq_true]

/-- Arguments have the markers of each of them. -/
theorem hasMarker_arguments (contents : List String) :
    HasMarker (", ".intercalate contents) ↔ ∃ content ∈ contents, HasMarker content := by
  induction contents with
  | nil => simpa using (by decide : ¬ HasMarker "")
  | cons first others ih =>
    cases others with
    | nil => simp
    | cons second others =>
      have chars : (first ++ ", " ++ ", ".intercalate (second :: others)).toList
          = first.toList ++ ',' :: ([] ++ ' ' :: (", ".intercalate (second :: others)).toList) := by
        simp
      rw [List.exists_mem_cons_iff, ← ih, String.intercalate_cons_cons, hasMarker_iff, chars,
        hasMarker_iff, hasMarker_iff, marks_append_cons (by decide), marks_append_cons (by decide),
        marks_nil, Bool.false_or, Bool.or_eq_true]

/-! ## 3. Types around a collection -/

/-- What is put in front of a text or behind it takes no marker away. -/
theorem hasMarker_around {text : String} (marked : HasMarker text) (front back : String) :
    HasMarker (front ++ text ++ back) := by
  obtain ⟨marker, listed, before, after, rfl⟩ := marked
  refine ⟨marker, listed, front ++ before, after ++ back, ?_⟩
  simp only [String.append_assoc]

/-- A declared type is a collection exactly if a marker stands anywhere in it, text exactly if it is
the one text type, and scalar otherwise. So a type that is written around a collection is a
collection. -/
theorem category_by_occurrence (declared : String) :
    (ofType declared = .collection ↔ HasMarker declared)
      ∧ (ofType declared = .text ↔ declared = "String")
      ∧ (ofType declared = .scalar ↔ declared ≠ "String" ∧ ¬ HasMarker declared)
      ∧ ∀ front back, ofType declared = .collection →
        ofType (front ++ declared ++ back) = .collection := by
  refine ⟨ofType_eq_collection_iff declared, ofType_eq_text_iff declared,
    ofType_eq_scalar_iff declared, ?_⟩
  intro front back collection
  have marked : HasMarker declared := (ofType_eq_collection_iff declared).mp collection
  exact (ofType_eq_collection_iff _).mpr (hasMarker_around marked front back)

/-- A marker counts inside another word, too. -/
example : ofType "UserSettings" = .collection := by decide

theorem optionalSet_collection :
    ofType "HashSet<Long>" = .collection
      ∧ ofType ("Optional<" ++ "HashSet<Long>" ++ ">") = .collection := by
  have inner : ofType "HashSet<Long>" = .collection := by decide
  obtain ⟨_, _, _, around⟩ := category_by_occurrence "HashSet<Long>"
  exact ⟨inner, around "Optional<" ">" inner⟩

end Category

end QueryScribe
