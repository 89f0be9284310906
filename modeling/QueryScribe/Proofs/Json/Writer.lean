import QueryScribe.Json.Reader
import QueryScribe.Json.Writer
import QueryScribe.Proofs.Json.Quoted

/-!
# Reading written values

A written value begins with a quote, a bracket or a brace and says where it ends, so that it is read
back in front of anything. Two steps for each of its characters are enough, as those of a part are
paid for by the part and by what separates it from the next.

Results:
1. `spells_quote`: a written string is read back.
2. `spells_writeArray`, `spells_writeObject`: arrays and objects are read back when their parts are.
3. `read_of_spells`: the whole text of a written value is read as the value, with nothing left.
-/

namespace QueryScribe.Json

/-! ## 1. Strings -/

/-- Whether a character opens a string, an array or an object. -/
def isOpening (c : Char) : Bool :=
  c = '"' || c = '[' || c = '\x7b'

/-- Whether a text is read as a value, in front of anything. -/
structure Spells (text : List Char) (value : Value) : Prop where
  opens : ∃ c cs, text = c :: cs ∧ isOpening c = true
  reads : ∀ fuel rest, 2 * text.length ≤ fuel → readValue fuel (text ++ rest) = (value, rest)

namespace WriterLemmas

theorem toList_quote (s : String) :
    (quote s).toList = '"' :: (s.toList.flatMap escapeChar ++ ['"']) := by
  simp [quote]

theorem skipSpace_cons {c : Char} (visible : isSpace c = false) (cs : List Char) :
    skipSpace (c :: cs) = c :: cs :=
  List.dropWhile_cons_of_neg (by simp [visible])

theorem readValue_array {c : Char} (opens : isOpening c = true) {fuel : Nat}
    {cs rest : List Char} {items : Items} (read : readItems fuel (c :: cs) = (items, rest)) :
    readValue (fuel + 1) ('[' :: c :: cs) = (.array items, rest) := by
  rw [readValue, skipSpace_cons (by decide)]
  simp only [isOpening, Bool.or_eq_true, decide_eq_true_eq] at opens
  rcases opens with (rfl | rfl) | rfl <;> simp [skipSpace_cons, isSpace, read]

theorem readValue_object {fuel : Nat} {cs rest : List Char} {members : Members}
    (read : readMembers fuel ('"' :: cs) = (members, rest)) :
    readValue (fuel + 1) ('\x7b' :: '"' :: cs) = (.object members, rest) := by
  rw [readValue, skipSpace_cons (by decide)]
  simp [skipSpace_cons, isSpace, read]

end WriterLemmas

open WriterLemmas

/-- A written string is read back. -/
theorem spells_quote (s : String) : Spells (quote s).toList (.string (some s)) := by
  rw [toList_quote]
  refine ⟨⟨_, _, rfl, rfl⟩, fun fuel rest enough => ?_⟩
  obtain ⟨more, rfl⟩ : ∃ more, fuel = more + 1 := ⟨fuel - 1, by simp at enough; omega⟩
  have string := readString_escaped s rest
  rw [List.cons_append, List.append_assoc, List.singleton_append, readValue,
    skipSpace_cons (by decide)]
  simp [string]

/-! ## 2. Arrays and objects -/

/-- Whether texts are read as the items of an array. -/
inductive SpellsItems : List String → Items → Prop
  | done : SpellsItems [] .done
  | cons {text : String} {texts : List String} {value : Value} {items : Items} :
      Spells text.toList value → SpellsItems texts items →
      SpellsItems (text :: texts) (.cons value items)

/-- Whether the texts of members are read as the members of an object, under the same keys. -/
inductive SpellsMembers : List (String × String) → Members → Prop
  | done : SpellsMembers [] .done
  | cons {key text : String} {others : List (String × String)} {value : Value}
      {members : Members} :
      Spells text.toList value → SpellsMembers others members →
      SpellsMembers ((key, text) :: others) (.cons (some key) value members)

namespace WriterLemmas

theorem toList_intercalate_of_cons {text : String} (texts : List String) {c : Char}
    {cs : List Char} (eq : text.toList = c :: cs) :
    ∃ more, (",".intercalate (text :: texts)).toList = c :: more := by
  cases texts with
  | nil => exact ⟨cs, by rw [String.intercalate_singleton, eq]⟩
  | cons second texts =>
    rw [String.intercalate_cons_cons, String.toList_append, String.toList_append, eq]
    exact ⟨_, rfl⟩

theorem toList_intercalate_cons (first second : String) (others : List String) :
    (",".intercalate (first :: second :: others)).toList
      = first.toList ++ ',' :: (",".intercalate (second :: others)).toList := by
  rw [String.intercalate_cons_cons, String.toList_append, String.toList_append, List.append_assoc]
  rfl

/-- By induction on the items. The fuel of an item is paid for by its own characters, that of the
items after it by theirs, and one step by the comma or bracket in between. -/
theorem readItems_spelled {text : String} {texts : List String} {items : Items}
    (spells : SpellsItems (text :: texts) items) (fuel : Nat) (rest : List Char)
    (enough : 2 * (",".intercalate (text :: texts)).toList.length + 2 ≤ fuel) :
    readItems fuel ((",".intercalate (text :: texts)).toList ++ ']' :: rest) = (items, rest) := by
  induction texts generalizing text items fuel with
  | nil =>
    obtain ⟨more, rfl⟩ : ∃ more, fuel = more + 1 := ⟨fuel - 1, by omega⟩
    cases spells with
    | cons first others =>
      cases others
      rw [String.intercalate_singleton] at enough ⊢
      rw [readItems, first.reads more _ (by omega)]
      simp [skipSpace_cons (show isSpace ']' = false by decide)]
  | cons second texts ih =>
    obtain ⟨more, rfl⟩ : ∃ more, fuel = more + 1 := ⟨fuel - 1, by omega⟩
    cases spells with
    | cons first others =>
      rw [toList_intercalate_cons] at enough ⊢
      rw [List.length_append, List.length_cons] at enough
      have later := ih others more (by omega)
      rw [List.append_assoc, List.cons_append, readItems, first.reads more _ (by omega)]
      generalize (",".intercalate (second :: texts)).toList ++ ']' :: rest = behind at later ⊢
      simp [skipSpace_cons (show isSpace ',' = false by decide), later]

end WriterLemmas

/-- An array is read back when its items are. -/
theorem spells_writeArray {texts : List String} {items : Items} (spells : SpellsItems texts items) :
    Spells (writeArray texts).toList (.array items) := by
  have whole : (writeArray texts).toList = '[' :: ((",".intercalate texts).toList ++ [']']) := by
    rw [writeArray, String.toList_append, String.toList_append]
    rfl
  rw [whole]
  refine ⟨⟨_, _, rfl, rfl⟩, fun fuel rest enough => ?_⟩
  simp only [List.length_cons, List.length_append, List.length_nil] at enough
  obtain ⟨more, rfl⟩ : ∃ more, fuel = more + 1 := ⟨fuel - 1, by omega⟩
  rw [List.cons_append, List.append_assoc, List.singleton_append]
  cases spells with
  | done => simp [readValue, skipSpace_cons, isSpace]
  | @cons text texts value items first others =>
    have read := readItems_spelled (.cons first others) more rest (by omega)
    obtain ⟨c, cs, start, opens⟩ := first.opens
    obtain ⟨cs, eq⟩ := toList_intercalate_of_cons texts start
    rw [eq] at read ⊢
    exact readValue_array opens read

namespace WriterLemmas

theorem toList_writeMember (key text : String) :
    (writeMember (key, text)).toList
      = '"' :: (key.toList.flatMap escapeChar ++ '"' :: ':' :: text.toList) := by
  rw [writeMember, String.toList_append, String.toList_append, toList_quote]
  simp

theorem readMembers_last (key : String) {text : String} {value : Value}
    (spells : Spells text.toList value) {fuel : Nat} (enough : 2 * text.toList.length ≤ fuel)
    (rest : List Char) :
    readMembers (fuel + 1) ((writeMember (key, text)).toList ++ '\x7d' :: rest)
      = (.cons (some key) value .done, rest) := by
  have string := readString_escaped key (':' :: (text.toList ++ '\x7d' :: rest))
  have read := spells.reads fuel ('\x7d' :: rest) enough
  rw [toList_writeMember]
  generalize text.toList = written at string read ⊢
  simp [readMembers, skipSpace_cons, isSpace, string, read]

theorem readMembers_comma (key : String) {text : String} {value : Value}
    (spells : Spells text.toList value) {fuel : Nat} (enough : 2 * text.toList.length ≤ fuel)
    {cs rest : List Char} {members : Members} (later : readMembers fuel cs = (members, rest)) :
    readMembers (fuel + 1) ((writeMember (key, text)).toList ++ ',' :: cs)
      = (.cons (some key) value members, rest) := by
  have string := readString_escaped key (':' :: (text.toList ++ ',' :: cs))
  have read := spells.reads fuel (',' :: cs) enough
  rw [toList_writeMember]
  generalize text.toList = written at string read ⊢
  simp [readMembers, skipSpace_cons, isSpace, string, read, later]

theorem length_le_writeMember (key text : String) :
    text.toList.length ≤ (writeMember (key, text)).toList.length := by
  rw [toList_writeMember]
  simp only [List.length_cons, List.length_append]
  omega

/-- By induction on the members, as for items; keys cost nothing. -/
theorem readMembers_spelled {member : String × String} {others : List (String × String)}
    {members : Members} (spells : SpellsMembers (member :: others) members) (fuel : Nat)
    (rest : List Char)
    (enough : 2 * (",".intercalate ((member :: others).map writeMember)).toList.length + 2 ≤ fuel) :
    readMembers fuel ((",".intercalate ((member :: others).map writeMember)).toList
        ++ '\x7d' :: rest)
      = (members, rest) := by
  induction others generalizing member members fuel with
  | nil =>
    obtain ⟨more, rfl⟩ : ∃ more, fuel = more + 1 := ⟨fuel - 1, by omega⟩
    cases spells with
    | @cons key text _ value _ first last =>
      cases last
      have length := length_le_writeMember key text
      rw [List.map_singleton, String.intercalate_singleton] at enough ⊢
      exact readMembers_last key first (by omega) rest
  | cons second others ih =>
    obtain ⟨more, rfl⟩ : ∃ more, fuel = more + 1 := ⟨fuel - 1, by omega⟩
    cases spells with
    | @cons key text _ value _ first later =>
      have length := length_le_writeMember key text
      rw [List.map_cons, List.map_cons, toList_intercalate_cons, ← List.map_cons] at enough ⊢
      rw [List.length_append, List.length_cons] at enough
      rw [List.append_assoc, List.cons_append]
      exact readMembers_comma key first (by omega) (ih later more (by omega))

end WriterLemmas

/-- An object is read back when its members are. -/
theorem spells_writeObject {written : List (String × String)} {members : Members}
    (spells : SpellsMembers written members) :
    Spells (writeObject written).toList (.object members) := by
  have whole : (writeObject written).toList
      = '\x7b' :: ((",".intercalate (written.map writeMember)).toList ++ ['\x7d']) := by
    rw [writeObject, String.toList_append, String.toList_append]
    rfl
  rw [whole]
  refine ⟨⟨_, _, rfl, rfl⟩, fun fuel rest enough => ?_⟩
  simp only [List.length_cons, List.length_append, List.length_nil] at enough
  obtain ⟨more, rfl⟩ : ∃ more, fuel = more + 1 := ⟨fuel - 1, by omega⟩
  rw [List.cons_append, List.append_assoc, List.singleton_append]
  cases spells with
  | done => simp [readValue, skipSpace_cons, isSpace]
  | @cons key text others value members first later =>
    have spells : SpellsMembers ((key, text) :: others) _ := .cons first later
    have read := readMembers_spelled spells more rest (by omega)
    obtain ⟨cs, eq⟩ := toList_intercalate_of_cons (others.map writeMember)
      (toList_writeMember key text)
    rw [List.map_cons, eq] at read ⊢
    exact readValue_object read

/-! ## 3. Whole texts -/

/-- The whole text of a written value is read as the value. -/
theorem read_of_spells {text : String} {value : Value} (spells : Spells text.toList value) :
    read text = (value, false) := by
  have whole := spells.reads (2 * text.toList.length + 2) [] (by omega)
  rw [List.append_nil] at whole
  rw [read, whole]
  rfl

end QueryScribe.Json
