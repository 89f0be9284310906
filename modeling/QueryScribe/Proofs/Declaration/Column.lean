import QueryScribe.Declaration.Item
import QueryScribe.Mapper.Statement
import QueryScribe.Proofs.Declaration.Setting
import QueryScribe.Proofs.Text.Decoding
import QueryScribe.Proofs.Text.Words

/-!
# Columns of described fields

A field that is described in camel case is written in snake case again where it names a column. The
way back finds the words of the name by their capitals, but only behind a small letter: a capital
that is a word of its own hides the beginning of the next word.

Results:
1. `applyChars_camel`: camel case, word by word.
2. `snakeChars_letters`, `snakeChars_capitalized`: snake case, word by word.
3. `snakeChars_capitals_iff`, `snakeCase_camel_iff`: which words are found again.
4. `column_eq_name_iff`: which fields get a column of their own name.
-/

namespace QueryScribe

open Mapper Text Declaration

namespace ColumnLemmas

/-! ## 1. Camel case -/

theorem applyChars_camel {first : List Char} {others : List (List Char)}
    (lettered : ∀ word ∈ first :: others, IsLettered word) :
    NameStyle.camel.applyChars (joined first others)
      = first ++ others.flatMap capitalizeWord := by
  rw [NameStyle.applyChars, words_joined lettered]
  dsimp only
  rw [lowerChars_letters (lettered first List.mem_cons_self)]

/-! ## 2. Snake case -/

/-- Letters stay as they are, and a word of them ends in a small one. -/
theorem snakeChars_letters {word : List Char} (lettered : IsLettered word) (some : word ≠ [])
    (afterSmall : Bool) (rest : List Char) :
    snakeChars afterSmall (word ++ rest) = word ++ snakeChars true rest := by
  induction word generalizing afterSmall with
  | nil => exact absurd rfl some
  | cons c word ih =>
    obtain ⟨letter, later⟩ := isLettered_cons.mp lettered
    have small := WordsLemmas.forall_letter (fun c => isAsciiUpper c = false ∧ lowerChar c = [c])
      (by decide +kernel) letter
    rw [List.cons_append, snakeChars, letter, small.1, small.2, Bool.and_false]
    cases word with
    | nil => rfl
    | cons d word =>
      rw [ih later (List.cons_ne_nil _ _)]
      rfl

/-- The capital of a word is found behind a small letter. It is no small letter itself, so that only
a longer word ends in one. -/
theorem snakeChars_capitalized {word : List Char} (lettered : IsLettered word) (some : word ≠ [])
    (afterSmall : Bool) (rest : List Char) :
    snakeChars afterSmall (capitalizeWord word ++ rest)
      = (if afterSmall then ['_'] else []) ++ word
        ++ snakeChars (decide (2 ≤ word.length)) rest := by
  cases word with
  | nil => exact absurd rfl some
  | cons c word =>
    obtain ⟨letter, later⟩ := isLettered_cons.mp lettered
    have capital := WordsLemmas.forall_letter (fun c => isAsciiUpper (asciiUpper c) = true
      ∧ isAsciiLower (asciiUpper c) = false ∧ lowerChar (asciiUpper c) = [c])
      (by decide +kernel) letter
    rw [capitalizeWord_letters lettered, List.cons_append, snakeChars, capital.1, capital.2.1,
      capital.2.2, Bool.and_true]
    cases word with
    | nil => simp
    | cons d word =>
      have tail := snakeChars_letters later (List.cons_ne_nil _ _) false rest
      simpa using tail

/-! ## 3. There and back -/

/-- Behind a small letter the words are found again if all but the last have a second letter, and
elsewhere only if there are none. By induction on the words: a word that is not found leaves a
letter where there was an underscore. -/
theorem snakeChars_capitals_iff {words : List (List Char)}
    (lettered : ∀ word ∈ words, IsLettered word ∧ word ≠ []) (afterSmall : Bool) :
    snakeChars afterSmall (words.flatMap capitalizeWord) = words.flatMap ('_' :: ·)
      ↔ words = [] ∨ afterSmall = true ∧ ∀ word ∈ words.dropLast, 2 ≤ word.length := by
  induction words generalizing afterSmall with
  | nil => simp [snakeChars]
  | cons word words ih =>
    obtain ⟨letters, some⟩ := lettered word List.mem_cons_self
    have later := ih fun other mem => lettered other (List.mem_cons_of_mem _ mem)
    rw [List.flatMap_cons, List.flatMap_cons, snakeChars_capitalized letters some]
    cases afterSmall with
    | false =>
      obtain ⟨c, cs, rfl⟩ := List.exists_cons_of_ne_nil some
      have noSeparator := WordsLemmas.forall_letter (· ≠ '_') (by decide +kernel)
        (letters c List.mem_cons_self)
      simp [noSeparator]
    | true =>
      simp only [if_true, List.cons_append, List.nil_append, List.cons.injEq,
        true_and, List.append_cancel_left_eq, later, decide_eq_true_eq]
      cases words with
      | nil => simp
      | cons second words => simp

/-- A name of lettered words, in camel case and back. The first word stays as it is, and behind it
there is a small letter. -/
theorem snakeCase_camel_iff {first : String} {others : List String}
    (lettered : ∀ word ∈ first :: others, IsLettered word.toList ∧ word.toList ≠ []) :
    snakeCase (NameStyle.camel.apply ("_".intercalate (first :: others)))
        = "_".intercalate (first :: others)
      ↔ ∀ word ∈ others.dropLast, 2 ≤ word.length := by
  have chars : ("_".intercalate (first :: others)).toList
      = joined first.toList (others.map String.toList) := by
    rw [intercalate_cons_eq, joined]
    simp [String.toList_join, List.flatMap_map]
  obtain ⟨letters, some⟩ := lettered first List.mem_cons_self
  have all : ∀ word ∈ others.map String.toList, IsLettered word ∧ word ≠ [] :=
    List.forall_mem_map.mpr fun word mem => lettered word (List.mem_cons_of_mem _ mem)
  rw [← String.toList_inj, snakeCase, NameStyle.apply, String.toList_ofList,
    String.toList_ofList, chars,
    applyChars_camel (List.forall_mem_cons.mpr ⟨letters, fun word mem => (all word mem).1⟩),
    snakeChars_letters letters some, joined, List.append_cancel_left_eq,
    snakeChars_capitals_iff all, ← List.map_dropLast, List.forall_mem_map]
  cases others with
  | nil => simp
  | cons second others =>
    simp only [List.map_eq_nil_iff, List.cons_ne_nil, false_or, true_and, String.length_toList]

/-- An update sets the column in snake case of each field that is shared. -/
theorem mem_assignments_iff {query : Query} {assignments : List (Optional Assignment)}
    {criteria : Criteria} (updates : Action.ofQuery query = .update assignments criteria)
    {field : Field} (shared : field ∈ query.sharedFields) (column : String) :
    ifPresent field ⟨column, field.name⟩ ∈ assignments ↔ snakeCase field.name = column := by
  rw [Action.assignments_of_update updates, List.mem_map]
  constructor
  · rintro ⟨other, -, same⟩
    simp only [ifPresent, Optional.mk.injEq, Assignment.mk.injEq] at same
    rw [← same.2.2, same.2.1]
  · rintro rfl
    exact ⟨field, shared, rfl⟩

/-- A field without settings for its name is described in camel case. -/
theorem describedName_eq {item : Item} {field : FieldItem}
    (unstyled : Setting.Lacks "rename_all" item.settings)
    (unnamed : Setting.Lacks "rename" field.settings) :
    field.describedName item.style = NameStyle.camel.apply field.name := by
  rw [FieldItem.describedName, Item.style, Setting.textOf?,
    Setting.styleOf?, Setting.SettingLemmas.find?_eq_none_iff.mpr unstyled,
    Setting.SettingLemmas.find?_eq_none_iff.mpr unnamed]
  rfl

end ColumnLemmas

open ColumnLemmas

/-- Take a field without settings for its name, whose name is made of lettered words with
underscores in between. It gets a column of its own name exactly when all words between the first
and the last have a second letter. So it does in every update that sets it. -/
theorem column_eq_name_iff {item : Item} {field : FieldItem} {words : List String}
    (unstyled : Setting.Lacks "rename_all" item.settings)
    (unnamed : Setting.Lacks "rename" field.settings) (worded : words ≠ [])
    (lettered : ∀ word ∈ words, word ≠ "" ∧ IsLettered word.toList)
    (named : field.name = "_".intercalate words) :
    let survives := ∀ word ∈ words.tail.dropLast, 2 ≤ word.length
    (snakeCase (field.describedName item.style) = field.name ↔ survives)
    ∧ ∀ query assignments criteria described,
      Action.ofQuery query = .update assignments criteria →
      field.describe? item.style = some described → described ∈ query.sharedFields →
      (ifPresent described ⟨field.name, described.name⟩ ∈ assignments ↔ survives) := by
  intro survives
  have back : snakeCase (field.describedName item.style) = field.name ↔ survives := by
    obtain ⟨first, others, rfl⟩ := List.exists_cons_of_ne_nil worded
    rw [describedName_eq unstyled unnamed, named]
    refine snakeCase_camel_iff fun word mem => ⟨(lettered word mem).2, ?_⟩
    exact String.toList_eq_nil_iff.not.mpr (lettered word mem).1
  refine ⟨back, fun query assignments criteria described updates describes shared => ?_⟩
  obtain ⟨declaredType, -, rfl⟩ := Option.map_eq_some_iff.mp describes
  exact (mem_assignments_iff updates shared field.name).trans back

/-- A field with words of two letters and more. -/
def timeField : FieldItem :=
  ⟨"created_at_utc", .path false [] (.mk "i64" .none), []⟩

/-- A field with a letter for a word in the middle, and another one in front. -/
def placeField : FieldItem :=
  ⟨"x_y_pos", .path false [] (.mk "f64" .none), [.value "type_name" (.string "Decimal")]⟩

/-- A measured position. -/
def positionItem : Item where
  word := "Position"
  settings := [.value "name" (.string "StoredPosition")]
  shape := .namedFields [timeField, placeField]

/-- An update of positions by their time. -/
def positionUpdate : Query where
  source := ⟨"StoredPosition", "app::StoredPosition",
    [⟨"createdAtUtc", "Long"⟩, ⟨"xYPos", "Decimal"⟩]⟩
  target := ⟨"Position", "app::Position", [⟨"xYPos", "Decimal"⟩, ⟨"createdAtUtc", "Long"⟩]⟩
  selections := [⟨⟨"createdAtUtc", "Long"⟩, .ge, .and, ""⟩]
  operation := .update
  selections_ne_nil := by decide
  fits := by decide

theorem positionUpdate_columns :
    positionItem.describe "app" = .ok positionUpdate.source
      ∧ snakeCase (timeField.describedName positionItem.style) = "created_at_utc"
      ∧ snakeCase (placeField.describedName positionItem.style) ≠ "x_y_pos"
      ∧ ∃ assignments criteria, Action.ofQuery positionUpdate = .update assignments criteria
        ∧ ifPresent ⟨"createdAtUtc", "Long"⟩ ⟨"created_at_utc", "createdAtUtc"⟩ ∈ assignments
        ∧ ifPresent ⟨"xYPos", "Decimal"⟩ ⟨"x_y_pos", "xYPos"⟩ ∉ assignments := by
  have unstyled : Setting.Lacks "rename_all" positionItem.settings := by decide
  have timeName : timeField.name = "_".intercalate ["created", "at", "utc"] := by decide
  have placeName : placeField.name = "_".intercalate ["x", "y", "pos"] := by decide
  obtain ⟨time, timeIn⟩ :=
    column_eq_name_iff unstyled (by decide) (by decide) (by decide) timeName
  obtain ⟨place, placeIn⟩ :=
    column_eq_name_iff unstyled (by decide) (by decide) (by decide) placeName
  refine ⟨by decide +kernel, time.mpr (by decide), fun same => absurd (place.mp same) (by decide),
    _, _, rfl, ?_, fun mem => ?_⟩
  · exact (timeIn positionUpdate _ _ ⟨"createdAtUtc", "Long"⟩ rfl (by decide +kernel)
      (by decide)).mpr (by decide)
  · exact absurd ((placeIn positionUpdate _ _ ⟨"xYPos", "Decimal"⟩ rfl (by decide +kernel)
      (by decide)).mp mem) (by decide)

end QueryScribe
