import Mathlib.Data.List.DropRight
import QueryScribe.Json.Decoder
import QueryScribe.Proofs.Json.Grammar
import QueryScribe.Proofs.Json.Writer
import QueryScribe.Proofs.Text.Chars

/-!
# Reading any text of a value

Strings, arrays and objects say where they end. A numeral does not: it is read to its end only where
nothing follows that could continue it, which is so at the end of a text and in front of whatever
may follow a value. As with written values, two steps for each character are enough.

Results:
1. `readValue_skipSpace`: space in front of a value makes no difference.
2. `WritesChars.readString`: every text of a string is read as the string.
3. `readNumeral_written`: every text of a numeral is read as the numeral.
4. `Writes.reads`: every text of a value is read as the value.
5. `read_of_isText`, `decodeText_of_isText`: so is a whole text, which stands for what the value
   is decoded to.
-/

namespace QueryScribe.Json

open Text (isDigit)
open WriterLemmas (skipSpace_cons)

/-! ## 1. Space -/

namespace ReadingLemmas

theorem skipSpace_gap {gap : List Char} (isGap : IsGap gap) (cs : List Char) :
    skipSpace (gap ++ cs) = skipSpace cs :=
  List.dropWhile_append_of_pos isGap

theorem skipSpace_gap_cons {gap : List Char} (isGap : IsGap gap) {c : Char}
    (visible : isSpace c = false) (cs : List Char) : skipSpace (gap ++ c :: cs) = c :: cs :=
  (skipSpace_gap isGap _).trans (skipSpace_cons visible cs)

theorem skipSpace_skipSpace (cs : List Char) : skipSpace (skipSpace cs) = skipSpace cs :=
  List.dropWhile_idempotent _ _

end ReadingLemmas

open ReadingLemmas QuotedLemmas

/-- Space in front of a value makes no difference. -/
theorem readValue_skipSpace (fuel : Nat) (cs : List Char) :
    readValue fuel (skipSpace cs) = readValue fuel cs := by
  cases fuel with
  | zero => rw [readValue, readValue]
  | succ fuel => rw [readValue, readValue, skipSpace_skipSpace]

theorem readItems_skipSpace (fuel : Nat) (cs : List Char) :
    readItems fuel (skipSpace cs) = readItems fuel cs := by
  cases fuel with
  | zero => rw [readItems, readItems]
  | succ fuel => rw [readItems, readItems, readValue_skipSpace]

theorem readMembers_skipSpace (fuel : Nat) (cs : List Char) :
    readMembers fuel (skipSpace cs) = readMembers fuel cs := by
  cases fuel with
  | zero => rw [readMembers, readMembers]
  | succ fuel => rw [readMembers, readMembers, skipSpace_skipSpace]

/-! ## 2. Strings -/

namespace ReadingLemmas

/-- By induction on the characters. A pair of surrogates is the only character of two pieces. -/
theorem readPieces_written {content written : List Char} (writes : WritesChars content written)
    (rest : List Char) :
    ∃ pieces, readPieces (written ++ '"' :: rest) = some (pieces, rest)
      ∧ charsOfPieces pieces = some content := by
  induction writes with
  | nil => exact ⟨[], rfl, rfl⟩
  | plain notQuote notEscape visible _ ih =>
    exact (isPiece_plain notQuote notEscape visible).readPieces_append ih
  | short found _ ih => exact (isPiece_short found).readPieces_append ih
  | unit hex notHigh notLow _ ih => exact (isPiece_unit hex notHigh notLow).readPieces_append ih
  | @pair _ _ _ _ _ _ _ _ high low _ _ highHex lowHex isHigh isLow _ ih =>
    obtain ⟨pieces, read, means⟩ := ih
    refine ⟨.unit high :: .unit low :: pieces, ?_, ?_⟩
    · simp only [List.cons_append]
      rw [readPieces, highHex, readPieces, lowHex, read]
      rfl
    · rw [charsOfPieces, isHigh, isLow, means]
      rfl

end ReadingLemmas

/-- Every text of a string is read as the string. -/
theorem WritesChars.readString {content written : List Char} (writes : WritesChars content written)
    (rest : List Char) :
    readString (written ++ '"' :: rest) = some (some (String.ofList content), rest) := by
  obtain ⟨pieces, read, means⟩ := readPieces_written writes rest
  rw [Json.readString, read]
  simp [means]

/-! ## 3. Numerals -/

/-- Whether a character may follow a value. -/
def isEnd (c : Char) : Bool :=
  isSpace c || c = ',' || c = ']' || c = '\x7d'

/-- Whether a text is at its end, or goes on with what may follow a value. -/
def Ends (rest : List Char) : Prop :=
  ∀ c ∈ rest.head?, isEnd c = true

namespace ReadingLemmas

theorem ends_cons {c : Char} (isEnd : isEnd c = true) (rest : List Char) : Ends (c :: rest) := by
  rintro _ ⟨⟩
  exact isEnd

theorem ends_gap {gap rest : List Char} (isGap : IsGap gap) (ends : Ends rest) :
    Ends (gap ++ rest) := by
  cases gap with
  | nil => exact ends
  | cons c gap => exact ends_cons (by simp [isEnd, isGap c (List.mem_cons_self ..)]) _

/-- Nothing that may follow a value could continue a numeral. -/
theorem isEnd_apart {c : Char} (ends : isEnd c = true) :
    isDigit c = false ∧ c ≠ '.' ∧ c ≠ 'e' ∧ c ≠ 'E' := by
  simp only [isEnd, isSpace, Bool.or_eq_true, decide_eq_true_eq] at ends
  rcases ends with (((((rfl | rfl) | rfl) | rfl) | rfl) | rfl) | rfl <;> decide

theorem readDigits_written {digits : List Nat} {cs : List Char} (writes : WritesDigits digits cs)
    {rest : List Char} (stops : ∀ c ∈ rest.head?, isDigit c = false) :
    readDigits (cs ++ rest) = (digits, rest) := by
  rw [readDigits]
  cases rest with
  | nil =>
    rw [List.append_nil, List.takeWhile_eq_self_iff.mpr writes.all,
      List.dropWhile_eq_nil_iff.mpr writes.all, writes.values]
  | cons c rest =>
    obtain ⟨taken, left⟩ := Text.takeWhile_append_stop writes.all c (stops c rfl) rest
    rw [taken, left, writes.values]

theorem digits_ne_nil {digits : List Nat} {cs : List Char} (writes : WritesDigits digits cs) :
    digits ≠ [] := by
  rw [← writes.values]
  exact fun empty => writes.some (List.map_eq_nil_iff.mp empty)

theorem readWhole_written {digits : List Nat} {cs : List Char} (writes : WritesWhole digits cs)
    {rest : List Char} (stops : ∀ c ∈ rest.head?, isDigit c = false) :
    readWhole (cs ++ rest) = some (digits, rest) := by
  rw [readWhole, readDigits_written writes.toWritesDigits stops]
  split
  · next read => exact absurd (congrArg Prod.fst read) (digits_ne_nil writes.toWritesDigits)
  · next second others _ read =>
    exact absurd (congrArg Prod.fst read) (writes.unpadded second others)
  · next read =>
    cases read
    rfl

theorem readFraction_written {fraction : Option (List Nat)} {cs : List Char}
    (writes : WritesFraction fraction cs) {rest : List Char}
    (stops : ∀ c ∈ rest.head?, isDigit c = false ∧ c ≠ '.') :
    readFraction (cs ++ rest) = some (fraction, rest) := by
  cases writes with
  | none =>
    rw [List.nil_append, readFraction.eq_def]
    split
    · exact absurd rfl (stops '.' rfl).2
    · rfl
  | @some digits cs written =>
    rw [List.cons_append, readFraction,
      readDigits_written written fun c mem => (stops c mem).1]
    obtain ⟨digit, others, rfl⟩ := List.exists_cons_of_ne_nil (digits_ne_nil written)
    rfl

theorem readSign_written {negative : Bool} {sign : List Char} (writes : WritesSign negative sign)
    {digits : List Nat} {cs : List Char} (written : WritesDigits digits cs) (rest : List Char) :
    readSign (sign ++ (cs ++ rest)) = (negative, cs ++ rest) := by
  cases writes with
  | plus => rfl
  | minus => rfl
  | none =>
    obtain ⟨c, others, rfl⟩ := List.exists_cons_of_ne_nil written.some
    have digit := written.all c (List.mem_cons_self ..)
    rw [List.nil_append, List.cons_append, readSign.eq_def]
    split
    · next eq =>
      cases eq
      exact absurd digit (by decide)
    · next eq =>
      cases eq
      exact absurd digit (by decide)
    · rfl

theorem readExponent_written {exponent : Option Int} {cs : List Char}
    (writes : WritesExponent exponent cs) {rest : List Char} (ends : Ends rest) :
    readExponent (cs ++ rest) = some (exponent, rest) := by
  cases writes with
  | none =>
    cases rest with
    | nil => rfl
    | cons c rest =>
      obtain ⟨_, _, notSmall, notCapital⟩ := isEnd_apart (ends c rfl)
      simp [readExponent, notSmall, notCapital]
  | @some e negative sign digits cs marked signed written =>
    have read := readDigits_written written fun c mem => (isEnd_apart (ends c mem)).1
    obtain ⟨digit, others, rfl⟩ := List.exists_cons_of_ne_nil (digits_ne_nil written)
    rw [List.cons_append, List.append_assoc, readExponent, if_pos (by simpa using marked),
      readSign_written signed written]
    simp [read]

/-- What stands behind the digits before a point cannot be another digit. -/
theorem head_exponent {exponent : Option Int} {cs : List Char} (writes : WritesExponent exponent cs)
    {rest : List Char} (ends : Ends rest) :
    ∀ c ∈ (cs ++ rest).head?, isDigit c = false ∧ c ≠ '.' := by
  intro c mem
  cases writes with
  | none => exact ⟨(isEnd_apart (ends c mem)).1, (isEnd_apart (ends c mem)).2.1⟩
  | some marked _ _ =>
    cases mem
    rcases marked with rfl | rfl <;> decide

theorem head_fraction {fraction : Option (List Nat)} {cs : List Char}
    (writes : WritesFraction fraction cs) {rest : List Char}
    (stops : ∀ c ∈ rest.head?, isDigit c = false ∧ c ≠ '.') :
    ∀ c ∈ (cs ++ rest).head?, isDigit c = false := by
  intro c mem
  cases writes with
  | none => exact (stops c mem).1
  | some _ =>
    cases mem
    decide

end ReadingLemmas

/-- Every text of a numeral is read as the numeral, where nothing follows that could continue it. -/
theorem readNumeral_written (negative : Bool) {whole : List Nat} {fraction : Option (List Nat)}
    {exponent : Option Int} {ws fs es : List Char} (wholeWritten : WritesWhole whole ws)
    (fractionWritten : WritesFraction fraction fs) (exponentWritten : WritesExponent exponent es)
    {rest : List Char} (ends : Ends rest) :
    readNumeral negative (ws ++ (fs ++ es) ++ rest)
      = some (⟨negative, whole, fraction, exponent⟩, rest) := by
  have behind := head_exponent exponentWritten ends
  rw [List.append_assoc, List.append_assoc, readNumeral,
    readWhole_written wholeWritten (head_fraction fractionWritten behind)]
  simp [readFraction_written fractionWritten behind, readExponent_written exponentWritten ends]

/-! ## 4. Values -/

namespace ReadingLemmas

theorem readValue_minus (fuel : Nat) (cs : List Char) :
    readValue (fuel + 1) ('-' :: cs) = number (readNumeral true cs) := by
  simp [readValue, skipSpace_cons (show isSpace '-' = false by decide)]

theorem digit_apart {c other : Char} (digit : isDigit c = true) (notDigit : isDigit other = false) :
    c ≠ other := by
  rintro rfl
  exact Bool.false_ne_true (notDigit.symm.trans digit)

theorem digit_visible {c : Char} (digit : isDigit c = true) : isSpace c = false := by
  simp [isSpace, digit_apart digit (show isDigit ' ' = false by decide),
    digit_apart digit (show isDigit '\n' = false by decide),
    digit_apart digit (show isDigit '\t' = false by decide),
    digit_apart digit (show isDigit '\r' = false by decide)]

/-- A digit opens nothing but a numeral. -/
theorem readValue_digit {c : Char} (digit : isDigit c = true) (fuel : Nat) (cs : List Char) :
    readValue (fuel + 1) (c :: cs) = number (readNumeral false (c :: cs)) := by
  rw [readValue, skipSpace_cons (digit_visible digit)]
  split
  all_goals first
    | rfl
    | next eq => exact absurd (List.cons.inj eq).1 (digit_apart digit (by decide))

theorem readValue_numeral {numeral : Numeral} {cs : List Char} (writes : WritesNumeral numeral cs)
    (fuel : Nat) {rest : List Char} (ends : Ends rest) :
    readValue (fuel + 1) (cs ++ rest) = (.number numeral, rest) := by
  cases writes with
  | negative wholeWritten fractionWritten exponentWritten =>
    rw [List.cons_append, readValue_minus,
      readNumeral_written true wholeWritten fractionWritten exponentWritten ends]
    rfl
  | plain wholeWritten fractionWritten exponentWritten =>
    have read := readNumeral_written false wholeWritten fractionWritten exponentWritten ends
    obtain ⟨c, others, rfl⟩ := List.exists_cons_of_ne_nil wholeWritten.some
    rw [List.cons_append, List.cons_append] at read ⊢
    rw [readValue_digit (wholeWritten.all c (List.mem_cons_self ..)), read]
    rfl

/-- The first character of a value is neither space nor the end of an array. -/
theorem head_value {value : Value} {cs : List Char} (writes : Writes value cs) :
    ∃ c others, cs = c :: others ∧ isSpace c = false ∧ c ≠ ']' := by
  cases writes with
  | number written =>
    cases written with
    | negative => exact ⟨_, _, rfl, by decide⟩
    | plain wholeWritten _ _ =>
      obtain ⟨c, others, rfl⟩ := List.exists_cons_of_ne_nil wholeWritten.some
      have digit := wholeWritten.all c (List.mem_cons_self ..)
      exact ⟨c, _, rfl, digit_visible digit, digit_apart digit (by decide)⟩
  | _ => exact ⟨_, _, rfl, by decide⟩

theorem readValue_items {fuel : Nat} {c : Char} {cs others rest : List Char} {items : Items}
    (opens : skipSpace cs = c :: others) (apart : c ≠ ']')
    (read : readItems fuel cs = (items, rest)) :
    readValue (fuel + 1) ('[' :: cs) = (.array items, rest) := by
  rw [← readItems_skipSpace, opens] at read
  simp [readValue, skipSpace_cons (show isSpace '[' = false by decide), opens, apart, read]

theorem readValue_members {fuel : Nat} {cs quoted rest : List Char} {members : Members}
    (opens : skipSpace cs = '"' :: quoted) (read : readMembers fuel cs = (members, rest)) :
    readValue (fuel + 1) ('\x7b' :: cs) = (.object members, rest) := by
  rw [← readMembers_skipSpace, opens] at read
  simp [readValue, skipSpace_cons (show isSpace '\x7b' = false by decide), opens, read]

theorem readItems_end {fuel : Nat} {cs left rest : List Char} {item : Value}
    (read : readValue fuel cs = (item, left)) (same : skipSpace left = skipSpace (']' :: rest)) :
    readItems (fuel + 1) cs = (.cons item .done, rest) := by
  rw [skipSpace_cons (show isSpace ']' = false by decide)] at same
  simp [readItems, read, same]

theorem readItems_more {fuel : Nat} {cs left others rest : List Char} {item : Value} {items : Items}
    (read : readValue fuel cs = (item, left)) (same : skipSpace left = skipSpace (',' :: others))
    (later : readItems fuel others = (items, rest)) :
    readItems (fuel + 1) cs = (.cons item items, rest) := by
  rw [skipSpace_cons (show isSpace ',' = false by decide)] at same
  simp [readItems, read, same, later]

/-- Whether a member is read from the front of a text, up to space in front of what is left. -/
def ReadsMember (fuel : Nat) (cs : List Char) (key : String) (value : Value)
    (rest : List Char) : Prop :=
  ∃ quoted keyed valued left, skipSpace cs = '"' :: quoted
    ∧ readString quoted = some (some key, keyed) ∧ skipSpace keyed = ':' :: valued
    ∧ readValue fuel valued = (value, left) ∧ skipSpace left = skipSpace rest

theorem readMembers_end {fuel : Nat} {cs rest : List Char} {key : String} {value : Value}
    (reads : ReadsMember fuel cs key value ('\x7d' :: rest)) :
    readMembers (fuel + 1) cs = (.cons (some key) value .done, rest) := by
  obtain ⟨quoted, keyed, valued, left, opens, string, colon, read, same⟩ := reads
  rw [skipSpace_cons (show isSpace '\x7d' = false by decide)] at same
  simp [readMembers, opens, string, colon, read, same]

theorem readMembers_more {fuel : Nat} {cs others rest : List Char} {key : String} {value : Value}
    {members : Members} (reads : ReadsMember fuel cs key value (',' :: others))
    (later : readMembers fuel others = (members, rest)) :
    readMembers (fuel + 1) cs = (.cons (some key) value members, rest) := by
  obtain ⟨quoted, keyed, valued, left, opens, string, colon, read, same⟩ := reads
  rw [skipSpace_cons (show isSpace ',' = false by decide)] at same
  simp [readMembers, opens, string, colon, read, same, later]

theorem head_spaced {value : Value} {cs : List Char} (writes : WritesSpaced value cs)
    (rest : List Char) : ∃ c others, skipSpace (cs ++ rest) = c :: others ∧ c ≠ ']' := by
  cases writes with
  | around isBefore written _ =>
    obtain ⟨c, others, rfl, visible, apart⟩ := head_value written
    rw [List.append_assoc]
    exact ⟨c, _, skipSpace_gap_cons isBefore visible _, apart⟩

theorem head_items {items : List Value} {cs : List Char} (writes : WritesItems items cs)
    (rest : List Char) : ∃ c others, skipSpace (cs ++ rest) = c :: others ∧ c ≠ ']' := by
  cases writes with
  | last written => exact head_spaced written rest
  | cons written _ =>
    rw [List.append_assoc]
    exact head_spaced written _

theorem head_member {key : String} {value : Value} {cs : List Char}
    (writes : WritesMember key value cs) (rest : List Char) :
    ∃ quoted, skipSpace (cs ++ rest) = '"' :: quoted := by
  cases writes with
  | keyed isBefore _ _ _ =>
    rw [List.append_assoc]
    exact ⟨_, skipSpace_gap_cons isBefore (by decide) _⟩

theorem head_members {members : List (String × Value)} {cs : List Char}
    (writes : WritesMembers members cs)
    (rest : List Char) : ∃ quoted, skipSpace (cs ++ rest) = '"' :: quoted := by
  cases writes with
  | last written => exact head_member written rest
  | cons written _ =>
    rw [List.append_assoc]
    exact head_member written _

end ReadingLemmas

mutual

/-- Every text of a value is read as the value, where nothing follows that could continue it. By
induction on the text. The fuel of a part is paid for by its own characters, the step to the next
part by the character in between. -/
theorem Writes.reads {value : Value} {cs : List Char} (fuel : Nat) {rest : List Char}
    (ends : Ends rest) (enough : 2 * cs.length ≤ fuel + 1) :
    Writes value cs → readValue (fuel + 1) (cs ++ rest) = (value, rest)
  | .null | .yes | .no => by simp [readValue, skipSpace, isSpace]
  | .number written => readValue_numeral written fuel ends
  | .string written => by
    have string := written.readString rest
    simp [readValue, skipSpace, isSpace, string]
  | .emptyArray isGap => by
    have closes := skipSpace_gap_cons isGap (c := ']') (by decide) rest
    simp [readValue, skipSpace_cons, isSpace, closes, Items.ofList]
  | .emptyObject isGap => by
    have closes := skipSpace_gap_cons isGap (c := '\x7d') (by decide) rest
    simp [readValue, skipSpace_cons, isSpace, closes, Members.ofList]
  | .array written => by
    simp only [List.length_cons, List.length_append, List.length_nil] at enough
    obtain ⟨more, rfl⟩ : ∃ more, fuel = more + 1 := ⟨fuel - 1, by omega⟩
    rw [List.cons_append, List.append_assoc, List.singleton_append]
    obtain ⟨c, others, opens, apart⟩ := head_items written (']' :: rest)
    exact readValue_items opens apart (written.reads more rest (by omega))
  | .object written => by
    simp only [List.length_cons, List.length_append, List.length_nil] at enough
    obtain ⟨more, rfl⟩ : ∃ more, fuel = more + 1 := ⟨fuel - 1, by omega⟩
    rw [List.cons_append, List.append_assoc, List.singleton_append]
    obtain ⟨quoted, opens⟩ := head_members written ('\x7d' :: rest)
    exact readValue_members opens (written.reads more rest (by omega))

theorem WritesSpaced.reads {value : Value} {cs : List Char} (fuel : Nat) {rest : List Char}
    (ends : Ends rest) (enough : 2 * cs.length ≤ fuel) :
    WritesSpaced value cs →
      ∃ left, readValue fuel (cs ++ rest) = (value, left) ∧ skipSpace left = skipSpace rest
  | .around isBefore written isAfter => by
    obtain ⟨c, others, start, _⟩ := head_value written
    have length := congrArg List.length start
    simp only [List.length_cons, List.length_append] at enough length
    obtain ⟨more, rfl⟩ : ∃ more, fuel = more + 1 := ⟨fuel - 1, by omega⟩
    have read := written.reads more (ends_gap isAfter ends) (by omega)
    refine ⟨_, ?_, skipSpace_gap isAfter rest⟩
    rw [← readValue_skipSpace, List.append_assoc, List.append_assoc, skipSpace_gap isBefore,
      readValue_skipSpace, read]

theorem WritesItems.reads {items : List Value} {cs : List Char} (fuel : Nat) (rest : List Char)
    (enough : 2 * cs.length ≤ fuel) :
    WritesItems items cs → readItems (fuel + 1) (cs ++ ']' :: rest) = (.ofList items, rest)
  | .last written => by
    obtain ⟨left, read, same⟩ := written.reads fuel (ends_cons (c := ']') (by decide) rest) enough
    exact readItems_end read same
  | .cons written later => by
    simp only [List.length_append, List.length_cons] at enough
    obtain ⟨more, rfl⟩ : ∃ more, fuel = more + 1 := ⟨fuel - 1, by omega⟩
    rw [List.append_assoc, List.cons_append]
    obtain ⟨left, read, same⟩ :=
      written.reads (more + 1) (ends_cons (c := ',') (by decide) _) (by omega)
    exact readItems_more read same (later.reads more rest (by omega))

theorem WritesMember.reads {key : String} {value : Value} {cs : List Char} (fuel : Nat)
    {rest : List Char} (ends : Ends rest) (enough : 2 * cs.length ≤ fuel) :
    WritesMember key value cs → ReadsMember fuel (cs ++ rest) key value rest
  | .keyed isBefore keyWritten isAfter written => by
    simp only [List.length_append, List.length_cons] at enough
    obtain ⟨left, read, same⟩ := written.reads fuel ends (by omega)
    simp only [List.append_assoc, List.cons_append]
    exact ⟨_, _, _, left, skipSpace_gap_cons isBefore (by decide) _, keyWritten.readString _,
      skipSpace_gap_cons isAfter (by decide) _, read, same⟩

theorem WritesMembers.reads {members : List (String × Value)} {cs : List Char} (fuel : Nat)
    (rest : List Char) (enough : 2 * cs.length ≤ fuel) :
    WritesMembers members cs →
      readMembers (fuel + 1) (cs ++ '\x7d' :: rest) = (.ofList members, rest)
  | .last written =>
    readMembers_end (written.reads fuel (ends_cons (by decide) rest) enough)
  | .cons written later => by
    simp only [List.length_append, List.length_cons] at enough
    obtain ⟨more, rfl⟩ : ∃ more, fuel = more + 1 := ⟨fuel - 1, by omega⟩
    rw [List.append_assoc, List.cons_append]
    exact readMembers_more (written.reads (more + 1) (ends_cons (by decide) _) (by omega))
      (later.reads more rest (by omega))

end

/-! ## 5. Whole texts -/

/-- Every text of a value is read as the value, with nothing left. -/
theorem read_of_isText {text : String} {value : Value} (isText : IsText text value) :
    read text = (value, false) := by
  have atEnd : Ends [] := fun _ mem => nomatch mem
  obtain ⟨left, whole, spaced⟩ :=
    WritesSpaced.reads (2 * text.toList.length + 2) atEnd (by omega) isText
  rw [List.append_nil] at whole
  rw [read, whole]
  dsimp only
  rw [spaced]
  rfl

/-- What a text stands for is what its value is decoded to. -/
theorem decodeText_of_isText (decode : Decoder α) {text : String} {value : Value}
    (isText : IsText text value) : decodeText decode text = decode value := by
  rw [decodeText, read_of_isText isText]
  dsimp only
  cases decode value <;> rfl

end QueryScribe.Json
