import QueryScribe.Json.Reader
import QueryScribe.Proofs.Json.Quoted

/-!
# Texts of values

Which texts are values, and of which value. Characters of strings may be escaped, numerals may be
padded behind the point and in the exponent, and space may stand between any two parts of a value.
A value therefore has many texts; all of them read as the value, see `read_of_isText`.

Results:
1. `WritesChars`, `writesChars_plain`: strings, and those that need no escapes.
2. `WritesNumeral`: numerals.
3. `Writes`, `IsText`: values and whole texts.
4. `Writes.isWhole`: a value that has a text has no problem anywhere inside.
-/

namespace QueryScribe.Json

open Text (isDigit)

/-! ## 1. Strings -/

/-- How the characters of a string may be written: as they are, unless they are quotes, backslashes
or control characters, with a short escape, or by number. Characters beyond the first 65536 have the
numbers of two surrogates, which stand for nothing else. -/
inductive WritesChars : List Char → List Char → Prop
  | nil : WritesChars [] []
  | plain {c : Char} {content written : List Char} (notQuote : c ≠ '"') (notEscape : c ≠ '\\')
      (visible : ¬ c.toNat < 32) (later : WritesChars content written) :
      WritesChars (c :: content) (c :: written)
  | short {e c : Char} {content written : List Char} (found : shortEscape? e = some c)
      (later : WritesChars content written) :
      WritesChars (c :: content) ('\\' :: e :: written)
  | unit {h₁ h₂ h₃ h₄ : Char} {code : Nat} {content written : List Char}
      (hex : hexValue4? h₁ h₂ h₃ h₄ = some code) (notHigh : isHighSurrogate code = false)
      (notLow : isLowSurrogate code = false) (later : WritesChars content written) :
      WritesChars (Char.ofNat code :: content)
        ('\\' :: 'u' :: h₁ :: h₂ :: h₃ :: h₄ :: written)
  | pair {h₁ h₂ h₃ h₄ l₁ l₂ l₃ l₄ : Char} {high low : Nat} {content written : List Char}
      (highHex : hexValue4? h₁ h₂ h₃ h₄ = some high) (lowHex : hexValue4? l₁ l₂ l₃ l₄ = some low)
      (isHigh : isHighSurrogate high = true) (isLow : isLowSurrogate low = true)
      (later : WritesChars content written) :
      WritesChars (Char.ofNat ((high - 0xD800) * 0x400 + (low - 0xDC00) + 0x10000) :: content)
        ('\\' :: 'u' :: h₁ :: h₂ :: h₃ :: h₄ :: '\\' :: 'u' :: l₁ :: l₂ :: l₃ :: l₄ :: written)

/-- Characters without anything to escape may be written as they are. -/
theorem writesChars_plain (cs : List Char)
    (plain : ∀ c ∈ cs, c ≠ '"' ∧ c ≠ '\\' ∧ ¬ c.toNat < 32) : WritesChars cs cs := by
  induction cs with
  | nil => exact .nil
  | cons c cs ih =>
    obtain ⟨⟨notQuote, notEscape, visible⟩, plain⟩ := List.forall_mem_cons.mp plain
    exact .plain notQuote notEscape visible (ih plain)

/-! ## 2. Numerals -/

/-- Whether characters are the digits, at least one. -/
structure WritesDigits (digits : List Nat) (cs : List Char) : Prop where
  some : cs ≠ []
  all : ∀ c ∈ cs, isDigit c = true
  values : cs.map (fun c => c.toNat - 48) = digits

/-- Whether characters are the digits before a point. They do not begin with a zero, unless it
stands alone. -/
structure WritesWhole (digits : List Nat) (cs : List Char) : Prop
    extends WritesDigits digits cs where
  unpadded : ∀ second others, digits ≠ 0 :: second :: others

/-- What may stand behind the digits of a whole number: a point with digits of its own. -/
inductive WritesFraction : Option (List Nat) → List Char → Prop
  | none : WritesFraction none []
  | some {digits : List Nat} {cs : List Char} (written : WritesDigits digits cs) :
      WritesFraction (some digits) ('.' :: cs)

/-- The sign of an exponent, and whether it is negative. -/
inductive WritesSign : Bool → List Char → Prop
  | none : WritesSign false []
  | plus : WritesSign false ['+']
  | minus : WritesSign true ['-']

/-- What may stand at the end of a numeral: an exponent, which may be padded. -/
inductive WritesExponent : Option Int → List Char → Prop
  | none : WritesExponent none []
  | some {e : Char} {negative : Bool} {sign : List Char} {digits : List Nat} {cs : List Char}
      (marked : e = 'e' ∨ e = 'E') (signed : WritesSign negative sign)
      (written : WritesDigits digits cs) :
      WritesExponent (some (if negative then -(ofDigits digits : Int) else ofDigits digits))
        (e :: (sign ++ cs))

/-- Whether characters are the numeral. -/
inductive WritesNumeral : Numeral → List Char → Prop
  | plain {whole : List Nat} {fraction : Option (List Nat)} {exponent : Option Int}
      {ws fs es : List Char} (wholeWritten : WritesWhole whole ws)
      (fractionWritten : WritesFraction fraction fs)
      (exponentWritten : WritesExponent exponent es) :
      WritesNumeral ⟨false, whole, fraction, exponent⟩ (ws ++ (fs ++ es))
  | negative {whole : List Nat} {fraction : Option (List Nat)} {exponent : Option Int}
      {ws fs es : List Char} (wholeWritten : WritesWhole whole ws)
      (fractionWritten : WritesFraction fraction fs)
      (exponentWritten : WritesExponent exponent es) :
      WritesNumeral ⟨true, whole, fraction, exponent⟩ ('-' :: (ws ++ (fs ++ es)))

/-! ## 3. Values -/

/-- The items of an array. -/
def Items.ofList : List Value → Items
  | [] => .done
  | item :: items => .cons item (ofList items)

/-- The members of an object, in the order of the text. -/
def Members.ofList : List (String × Value) → Members
  | [] => .done
  | (key, value) :: members => .cons (some key) value (ofList members)

/-- Whether nothing but space stands between two parts. -/
def IsGap (cs : List Char) : Prop :=
  ∀ c ∈ cs, isSpace c = true

mutual

/-- Whether characters are the value, without any space around it. -/
inductive Writes : Value → List Char → Prop
  | null : Writes .null ['n', 'u', 'l', 'l']
  | yes : Writes (.bool true) ['t', 'r', 'u', 'e']
  | no : Writes (.bool false) ['f', 'a', 'l', 's', 'e']
  | number {numeral : Numeral} {cs : List Char} (written : WritesNumeral numeral cs) :
      Writes (.number numeral) cs
  | string {content cs : List Char} (written : WritesChars content cs) :
      Writes (.string (some (String.ofList content))) ('"' :: (cs ++ ['"']))
  | emptyArray {gap : List Char} (isGap : IsGap gap) :
      Writes (.array (.ofList [])) ('[' :: (gap ++ [']']))
  | array {items : List Value} {cs : List Char} (written : WritesItems items cs) :
      Writes (.array (.ofList items)) ('[' :: (cs ++ [']']))
  | emptyObject {gap : List Char} (isGap : IsGap gap) :
      Writes (.object (.ofList [])) ('\x7b' :: (gap ++ ['\x7d']))
  | object {members : List (String × Value)} {cs : List Char}
      (written : WritesMembers members cs) :
      Writes (.object (.ofList members)) ('\x7b' :: (cs ++ ['\x7d']))

/-- Whether characters are the value, with any space around it. -/
inductive WritesSpaced : Value → List Char → Prop
  | around {value : Value} {before cs after : List Char} (isBefore : IsGap before)
      (written : Writes value cs) (isAfter : IsGap after) :
      WritesSpaced value (before ++ (cs ++ after))

/-- Whether characters are the items of an array, at least one. -/
inductive WritesItems : List Value → List Char → Prop
  | last {item : Value} {cs : List Char} (written : WritesSpaced item cs) :
      WritesItems [item] cs
  | cons {item : Value} {items : List Value} {cs others : List Char}
      (written : WritesSpaced item cs) (later : WritesItems items others) :
      WritesItems (item :: items) (cs ++ ',' :: others)

/-- Whether characters are a member of an object: its key and its value. -/
inductive WritesMember : String → Value → List Char → Prop
  | keyed {key : List Char} {value : Value} {before quoted after cs : List Char}
      (isBefore : IsGap before) (keyWritten : WritesChars key quoted) (isAfter : IsGap after)
      (written : WritesSpaced value cs) :
      WritesMember (String.ofList key) value
        (before ++ '"' :: (quoted ++ '"' :: (after ++ ':' :: cs)))

/-- Whether characters are the members of an object, at least one. -/
inductive WritesMembers : List (String × Value) → List Char → Prop
  | last {key : String} {value : Value} {cs : List Char} (written : WritesMember key value cs) :
      WritesMembers [(key, value)] cs
  | cons {key : String} {value : Value} {members : List (String × Value)} {cs others : List Char}
      (written : WritesMember key value cs) (later : WritesMembers members others) :
      WritesMembers ((key, value) :: members) (cs ++ ',' :: others)

end

/-- Whether a text is one value. -/
def IsText (text : String) (value : Value) : Prop :=
  WritesSpaced value text.toList

/-! ## 4. Whole values -/

theorem Items.isWhole_ofList (items : List Value) :
    (Items.ofList items).isWhole = true ↔ ∀ item ∈ items, item.isWhole = true := by
  induction items with
  | nil => simp [Items.ofList, Items.isWhole]
  | cons item items ih => simp [Items.ofList, Items.isWhole, ih]

theorem Members.isWhole_ofList (members : List (String × Value)) :
    (Members.ofList members).isWhole = true ↔ ∀ member ∈ members, member.2.isWhole = true := by
  induction members with
  | nil => simp [Members.ofList, Members.isWhole]
  | cons member members ih => simp [Members.ofList, Members.isWhole, ih]

mutual

/-- A value that has a text has no problem anywhere inside. -/
theorem Writes.isWhole {value : Value} {cs : List Char} :
    Writes value cs → value.isWhole = true
  | .null | .yes | .no | .number _ | .string _ | .emptyArray _ | .emptyObject _ => rfl
  | .array written => (Items.isWhole_ofList _).mpr written.isWhole
  | .object written => (Members.isWhole_ofList _).mpr written.isWhole

theorem WritesSpaced.isWhole {value : Value} {cs : List Char} :
    WritesSpaced value cs → value.isWhole = true
  | .around _ written _ => written.isWhole

theorem WritesItems.isWhole {items : List Value} {cs : List Char} :
    WritesItems items cs → ∀ item ∈ items, item.isWhole = true
  | .last written => List.forall_mem_singleton.mpr written.isWhole
  | .cons written later => List.forall_mem_cons.mpr ⟨written.isWhole, later.isWhole⟩

theorem WritesMember.isWhole {key : String} {value : Value} {cs : List Char} :
    WritesMember key value cs → value.isWhole = true
  | .keyed _ _ _ written => written.isWhole

theorem WritesMembers.isWhole {members : List (String × Value)} {cs : List Char} :
    WritesMembers members cs → ∀ member ∈ members, member.2.isWhole = true
  | .last written => List.forall_mem_singleton.mpr written.isWhole
  | .cons written later => List.forall_mem_cons.mpr ⟨written.isWhole, later.isWhole⟩

end

end QueryScribe.Json
