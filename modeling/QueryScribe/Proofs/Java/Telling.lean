import QueryScribe.Proofs.Java.Validation
import QueryScribe.Proofs.Text.Decoding

/-!
# What validations tell

A method begins with its validation. The condition of a field tells the field's category and its
name with the first character in capitals, since this is how accessors are named; a message tells
the name itself. Other methods of the validation tell nothing.

Results:
1. `tells_condition`: what the condition of a field tells.
2. `tells_validation`: what the validation of a query tells, and that it can be told from what
   follows.
3. `shownCriteria_eq_iff`, `map_named_eq_iff`: when two validations show the same.
-/

namespace QueryScribe

/-- Whether the names that a query brings into its methods have no other characters than those of
identifiers. -/
structure Query.HasWords (query : Query) : Prop where
  source : Text.HasWordChars query.source.name
  target : Text.HasWordChars query.target.name
  declared : ∀ field ∈ query.source.fields, Text.HasWordChars field.name
  selected : ∀ selection ∈ query.selections, Text.HasWordChars selection.name
  columns : ∀ selection ∈ query.selections, Text.HasWordChars selection.targetColumn

namespace Java

open Text

/-- What a condition shows of a field: its category, and its name as it is in accessors. -/
def shownField (field : Field) : Category × String :=
  (field.category, capitalize field.name)

/-- What the validation of a query shows of its selections: nothing for a page; the fields for
reading, as conditions show them; the fields for writing, with their exact names. -/
def shownCriteria (operation : Operation) (query : Query) : List (Category × String) :=
  match operation with
  | .selectPage => []
  | .select => query.selections.map fun selection => shownField selection.field
  | .update | .delete | .insert =>
    query.selections.map fun selection => (selection.category, selection.name)

/-! ## 1. Conditions -/

namespace TellingLemmas

/-- What stands in front of the accessor in a condition. -/
def helper (presence : Presence) (category : Category) : String :=
  match category, presence with
  | .text, .missing => "StringUtils.isEmpty("
  | .text, .present => "StringUtils.isNotEmpty("
  | .collection, .missing => "CollectionUtils.isEmpty("
  | .collection, .present => "CollectionUtils.isNotEmpty("
  | .scalar, _ => ""

/-- What stands behind the accessor in a condition. -/
def closing (presence : Presence) (category : Category) : String :=
  match category, presence with
  | .text, _ | .collection, _ => ")"
  | .scalar, .missing => " == null"
  | .scalar, .present => " != null"

theorem condition_eq (presence : Presence) (field : Field) :
    condition (fieldCheck presence field)
      = helper presence field.category ++ "entity.get" ++ (capitalize field.name ++ "()")
        ++ closing presence field.category := by
  unfold condition fieldCheck accessor helper closing
  cases field.category <;> cases presence <;>
    simp only [String.append_assoc, String.empty_append, -String.reduceAppend]

theorem not_mem_of_hasWordChars {c : Char} (other : isWordChar c = false) {s : String}
    (word : HasWordChars s) : c ∉ s.toList := by
  intro mem
  rw [word c mem] at other
  exact absurd other (by decide)

/-- A name goes on to the next character that stands in no name. -/
theorem tells_capitalized {α : Type} {ok : α → Prop} {name : α → String}
    (word : ∀ x, ok x → HasWordChars (name x)) {stop : String} {c : Char}
    (begins : stop.toList.head? = some c) (other : isWordChar c = false) :
    Tells ok (fun x => capitalize (name x) ++ stop) (fun x => capitalize (name x)) :=
  Tells.word begins fun x isOk =>
    not_mem_of_hasWordChars other (isWordChar_capitalize (word x isOk))

/-- Whether the names in a comparison have no other characters than those of identifiers. -/
def IsWritten (selection : Selection) : Prop :=
  HasWordChars selection.name ∧ HasWordChars selection.column

theorem isWritten_of_hasWords {query : Query} (words : query.HasWords) :
    ∀ selection ∈ query.selections, IsWritten selection := by
  intro selection mem
  refine ⟨words.selected selection mem, ?_⟩
  rw [Selection.column]
  split
  · exact words.selected selection mem
  · exact words.columns selection mem

end TellingLemmas

open TellingLemmas

/-- The condition of a field tells its category and its name as it is in accessors. -/
theorem tells_condition (presence : Presence) :
    Tells (fun field : Field => HasWordChars field.name)
      (fun field => condition (fieldCheck presence field)) shownField := by
  have free (a b : Category) :
      (helper presence a ++ "entity.get").toList <+: (helper presence b ++ "entity.get").toList →
        a = b := by
    cases presence <;> cases a <;> cases b <;> decide
  have name : Tells (fun field : Field => HasWordChars field.name)
      (fun field => capitalize field.name ++ "()") (fun field => capitalize field.name) :=
    Tells.word (c := '(') rfl fun field word =>
      not_mem_of_hasWordChars (by decide) (isWordChar_capitalize word)
  have front := (Tells.ofTable free Field.category).append name
  exact (front.before (fun field => closing presence field.category)
    fun x y same => congrArg (closing presence ·.1) same).congr
      fun field _ => condition_eq presence field

/-! ## 2. Validations -/

namespace TellingLemmas

/-- What stands between the condition of a rejection and its message. -/
def throwing : String :=
  ") \x7b\n" ++ "        throw new IllegalArgumentException(\""

/-- What stands behind the message of a rejection. -/
def thrown : String :=
  "\");\n" ++ "    \x7d\n"

theorem text_missingField (selection : Selection) :
    (Rejection.missingField selection).text
      = "    if (" ++ (condition (fieldCheck .missing selection.field)
        ++ (throwing ++ (selection.name ++ (" must not be null or empty" ++ thrown)))) := by
  unfold Rejection.text Rejection.missingField throwing thrown
  simp only [List.map_cons, List.map_nil, String.intercalate_singleton, String.append_assoc,
    -String.reduceAppend]

theorem text_noCriterion (query : Query) :
    (Rejection.noCriterion query.selections).text
      = "    if (" ++ (condition (fieldCheck .missing (Mapper.firstSelection query).field)
        ++ (String.join (query.selections.tail.map fun selection =>
            " &&\n        " ++ condition (fieldCheck .missing selection.field))
          ++ (throwing ++ "At least one search criterion must be provided" ++ thrown))) := by
  have checks : (query.selections.map (fieldCheck .missing ·.field)).map condition
      = condition (fieldCheck .missing (Mapper.firstSelection query).field)
        :: query.selections.tail.map fun selection =>
          condition (fieldCheck .missing selection.field) := by
    conv => lhs; rw [← Mapper.firstSelection_cons_tail query]
    rw [List.map_map]
    rfl
  unfold Rejection.text Rejection.noCriterion throwing thrown
  rw [checks, intercalate_cons_eq, List.map_map]
  simp only [String.append_assoc, -String.reduceAppend]
  rfl

end TellingLemmas

/-- The condition of a selected field tells what it shows of the field. -/
theorem tells_check (presence : Presence) :
    Tells (fun selection : Selection => HasWordChars selection.name)
      (fun selection => condition (fieldCheck presence selection.field))
      (fun selection => shownField selection.field) :=
  (tells_condition presence).comap Selection.field fun _ word => word

/-- The rejection of a missing field tells the field's category and its exact name. -/
theorem tells_missingField :
    Tells (fun selection : Selection => HasWordChars selection.name)
      (fun selection => (Rejection.missingField selection).text)
      (fun selection => (selection.category, selection.name)) := by
  have check := tells_check .missing
  have message : Tells (fun selection : Selection => HasWordChars selection.name)
      (fun selection => selection.name ++ (" must not be null or empty" ++ thrown))
      Selection.name :=
    Tells.word (c := ' ') rfl fun _ word => not_mem_of_hasWordChars (by decide) word
  refine (((check.append (message.after throwing)).after "    if (").congr
    fun selection _ => text_missingField selection).tell fun x y => ?_
  -- The exact name settles how it is written in accessors.
  simp only [Prod.mk.injEq, shownField]
  constructor
  · rintro ⟨⟨category, _⟩, name⟩
    exact ⟨category, name⟩
  · rintro ⟨category, name⟩
    exact ⟨⟨category, congrArg capitalize name⟩, name⟩

namespace TellingLemmas

/-- Something is the same for all selections of two queries if it is for the first one and for the
others. -/
theorem map_selections_eq_iff (f : Selection → κ) (x y : Query) :
    x.selections.map f = y.selections.map f
      ↔ f (Mapper.firstSelection x) = f (Mapper.firstSelection y)
        ∧ x.selections.tail.map f = y.selections.tail.map f := by
  rw [← List.cons.injEq, ← List.map_cons, ← List.map_cons, Mapper.firstSelection_cons_tail,
    Mapper.firstSelection_cons_tail]

section Criteria

variable {κ : Type} {ok : Query → Prop} {rest : Query → String} {key : Query → κ}

/-- By the separators between conditions, one rejection tells all of them. -/
theorem tells_noCriterion (words : ∀ query, ok query → query.HasWords)
    (last : Tells ok rest key) :
    Tells ok (fun query => (Rejection.noCriterion query.selections).text ++ rest query)
      (fun query =>
        (query.selections.map fun selection => shownField selection.field, key query)) := by
  have first : Tells ok
      (fun query => condition (fieldCheck .missing (Mapper.firstSelection query).field))
      (fun query => shownField (Mapper.firstSelection query).field) :=
    (tells_check .missing).comap Mapper.firstSelection fun query isOk =>
      (words query isOk).selected _ (List.head_mem query.selections_ne_nil)
  have others := ((tells_check .missing).after " &&\n        ").list
    (fun query : Query => query.selections.tail)
    (fun query isOk selection mem =>
      (words query isOk).selected selection (List.mem_of_mem_tail mem))
    (last.after (throwing ++ "At least one search criterion must be provided" ++ thrown))
    fun selection query _ _ =>
      ((Apart.of_neither (by decide) (by decide)).append_left _).append_right _
  refine (((first.append others).after "    if (").congr fun query isOk => ?_).tell fun x y => ?_
  · rw [text_noCriterion]
    simp only [String.append_assoc, -String.reduceAppend]
  · have all := map_selections_eq_iff (fun selection => shownField selection.field) x y
    constructor
    · intro same
      obtain ⟨here, rest⟩ := Prod.mk.inj same
      obtain ⟨later, keys⟩ := Prod.mk.inj rest
      exact Prod.ext (all.mpr ⟨here, later⟩) keys
    · intro same
      obtain ⟨shown, keys⟩ := Prod.mk.inj same
      exact Prod.ext (all.mp shown).1 (Prod.ext (all.mp shown).2 keys)

end Criteria

end TellingLemmas

/-- What the validation of a query shows is told from the statement behind it, which does not begin
like a rejection. -/
theorem tells_validation {κ : Type} {operation : Operation} {ok : Query → Prop}
    {rest : Query → String} {key : Query → κ} (words : ∀ query, ok query → query.HasWords)
    (does : ∀ query, ok query → query.operation = operation) (last : Tells ok rest key)
    (apart : ∀ query, ok query → Apart "    if (" (rest query)) :
    Tells ok (fun query => validationText query ++ rest query)
      (fun query => (shownCriteria operation query, key query)) := by
  have criteria : Tells ok
      (fun query => String.join ((Rejection.ofCriteria query).map Rejection.text) ++ rest query)
      (fun query => (shownCriteria operation query, key query)) := by
    cases operation with
    | selectPage =>
      refine (last.congr fun query isOk => ?_).tell fun x y => by simp [shownCriteria]
      simp [Rejection.ofCriteria, does query isOk, Operation.isGuarded]
    | select =>
      refine (tells_noCriterion words last).congr fun query isOk => ?_
      simp [Rejection.ofCriteria, does query isOk, Operation.isGuarded, Operation.isSelect]
    | update | delete | insert =>
      have each (query : Query) (isOk : ok query) :
          Rejection.ofCriteria query = query.selections.map .missingField := by
        simp [Rejection.ofCriteria, does query isOk, Operation.isGuarded, Operation.isSelect]
      refine (tells_missingField.list Query.selections
        (fun query isOk => (words query isOk).selected) last
        fun selection query _ isOk => ?_).congr fun query isOk => ?_
      · rw [text_missingField]
        exact (apart query isOk).append_left _
      · rw [each query isOk, List.map_map]
        rfl
  refine (criteria.after Rejection.nullEntity.text).congr fun query _ => ?_
  rw [validationText, Rejection.ofQuery, List.map_cons, String.join_cons, String.append_assoc]

/-! ## 3. Agreement -/

namespace TellingLemmas

section Agreement

variable {first second : Query}

theorem shownCriteria_eq_iff (operation : Operation) :
    shownCriteria operation first = shownCriteria operation second
      ↔ (operation = .select →
          first.selections.map (fun selection => shownField selection.field)
            = second.selections.map fun selection => shownField selection.field)
        ∧ (operation ∈ [.update, .delete, .insert] →
          first.selections.map (fun selection => (selection.category, selection.name))
            = second.selections.map fun selection => (selection.category, selection.name)) := by
  cases operation <;> simp [shownCriteria]

/-- Exact names settle how names are written in accessors. -/
theorem map_named_eq_iff :
    first.selections.map (fun selection => (selection.category, selection.name))
        = second.selections.map (fun selection => (selection.category, selection.name))
      ↔ first.selections.map (fun selection => shownField selection.field)
          = second.selections.map (fun selection => shownField selection.field)
        ∧ first.selections.map (·.name) = second.selections.map (·.name) := by
  have fields := map_pair_eq_iff Selection.category (fun selection => capitalize selection.name)
    first.selections second.selections
  rw [map_pair_eq_iff Selection.category Selection.name]
  constructor
  · rintro ⟨categories, names⟩
    have capitals := congrArg (List.map capitalize) names
    rw [List.map_map, List.map_map] at capitals
    exact ⟨fields.mpr ⟨categories, capitals⟩, names⟩
  · rintro ⟨shown, names⟩
    exact ⟨(fields.mp shown).1, names⟩

end Agreement

end TellingLemmas

end Java

end QueryScribe
