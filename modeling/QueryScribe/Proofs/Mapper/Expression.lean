import QueryScribe.Mapper.Test
import QueryScribe.Proofs.Content

/-!
# Reading tests

A test reaches the mapper as text. Here the text is split into tokens and read as an expression in
which `not` binds tighter than `and` and `and` tighter than `or`; the expression is evaluated from
left to right, and no further than its value needs. Asking a null for its emptiness fails.

Results:
1. `after_text`: the text of a test over names is split into the test's own tokens.
2. `readTokens_tokens`, `readTest_text`: a test whose conjunctions have no bare disjunction inside
   is read as it is meant, whatever its parentheses; `holds_text`: that gives it its value.
3. `value_ofCheck`: the test of a check gives the check's answer; `value_join_either`,
   `value_join_both`: what joined tests amount to.
-/

namespace QueryScribe.Mapper

/-! ## Tokens -/

/-- A token of a test. Two quotes with nothing in between are the empty text. -/
inductive Token
  | name (name : String)
  | null
  | blank
  | and
  | or
  | not
  | equal
  | differ
  | dot
  | opening
  | closing
  | other (word : String)
  deriving Repr, DecidableEq

/-- The words that mean something in a test and are therefore no names. -/
def reservedWords : List String :=
  ["null", "true", "false", "and", "or", "not", "in", "instanceof", "new", "eq", "neq", "lt", "lte",
   "gt", "gte", "band", "bor", "xor", "shl", "shr", "ushr"]

/-- Whether a field of that name can be asked for in a test. -/
def IsTestName (name : String) : Prop :=
  Text.isIdentifier name = true ∧ name ∉ reservedWords

instance : DecidablePred IsTestName := fun _ => inferInstanceAs (Decidable (_ ∧ _))

namespace Token

/-- The token of a word. -/
def ofWord (word : String) : Token :=
  if word = "null" then null
  else if word = "and" then and
  else if word = "or" then or
  else if Text.isIdentifier word && !reservedWords.contains word then name word
  else other word

/-- The tokens in front of a place where a word ends, if one does. -/
def ending (word : List Char) : List Token :=
  if word = [] then [] else [ofWord (String.ofList word)]

/-- The tokens of the rest of a text, in the middle of which a word stands so far. -/
def after (word : List Char) : List Char → Option (List Token)
  | [] => some (ending word)
  | c :: cs =>
    if Text.isWordChar c then after (word ++ [c]) cs
    else match c, cs with
      | ' ', cs => (after [] cs).map (ending word ++ ·)
      | '=', '=' :: cs => (after [] cs).map (ending word ++ equal :: ·)
      | '!', '=' :: cs => (after [] cs).map (ending word ++ differ :: ·)
      | '!', cs => (after [] cs).map (ending word ++ not :: ·)
      | '\'', '\'' :: cs => (after [] cs).map (ending word ++ blank :: ·)
      | '.', cs => (after [] cs).map (ending word ++ dot :: ·)
      | '(', cs => (after [] cs).map (ending word ++ opening :: ·)
      | ')', cs => (after [] cs).map (ending word ++ closing :: ·)
      | _, _ => none

/-- The tokens of a text. -/
def ofText (text : String) : Option (List Token) :=
  after [] text.toList

end Token

/-! ## Expressions -/

/-- What a test means. -/
inductive Expression
  | isNull (name : String)
  | isBlank (name : String)
  | isEmpty (name : String)
  | not (operand : Expression)
  | both (first second : Expression)
  | either (first second : Expression)
  deriving Repr, DecidableEq

/-- Why a test has no value. -/
inductive Fault
  | unreadable
  | emptinessOfNull (name : String)
  deriving Repr, DecidableEq

namespace Expression

/-- The value of an expression when the fields hold the given contents. -/
def value (contents : String → Content) : Expression → Except Fault Bool
  | isNull name => .ok (contents name = .null)
  | isBlank name => .ok (contents name = .empty)
  | isEmpty name =>
    if contents name = .null then .error (.emptinessOfNull name) else .ok (contents name = .empty)
  | not operand => (operand.value contents).map (!·)
  | both first second => do
    if ← first.value contents then second.value contents else return false
  | either first second => do
    if ← first.value contents then return true else second.value contents

end Expression

mutual

/-- An expression in front of tokens: operands of `or`. -/
def readEither : Nat → List Token → Option (Expression × List Token)
  | 0, _ => none
  | fuel + 1, tokens => do
    let (first, rest) ← readBoth fuel tokens
    match rest with
    | .or :: rest => do
      let (second, rest) ← readEither fuel rest
      return (.either first second, rest)
    | rest => return (first, rest)

/-- An expression without bare `or`: operands of `and`. -/
def readBoth : Nat → List Token → Option (Expression × List Token)
  | 0, _ => none
  | fuel + 1, tokens => do
    let (first, rest) ← readOperand fuel tokens
    match rest with
    | .and :: rest => do
      let (second, rest) ← readBoth fuel rest
      return (.both first second, rest)
    | rest => return (first, rest)

/-- An expression without bare `or` and `and`. -/
def readOperand : Nat → List Token → Option (Expression × List Token)
  | 0, _ => none
  | fuel + 1, tokens =>
    match tokens with
    | .not :: tokens => do
      let (operand, rest) ← readOperand fuel tokens
      return (.not operand, rest)
    | .opening :: tokens => do
      let (inner, rest) ← readEither fuel tokens
      match rest with
      | .closing :: rest => return (inner, rest)
      | _ => none
    | .name name :: .equal :: .null :: rest => some (.isNull name, rest)
    | .name name :: .differ :: .null :: rest => some (.not (.isNull name), rest)
    | .name name :: .equal :: .blank :: rest => some (.isBlank name, rest)
    | .name name :: .differ :: .blank :: rest => some (.not (.isBlank name), rest)
    | .name name :: .dot :: .name "isEmpty" :: .opening :: .closing :: rest =>
      some (.isEmpty name, rest)
    | _ => none

end

/-- The expression that a whole text is read as. No more than three steps are taken for each
token. -/
def readTest (text : String) : Option Expression := do
  let tokens ← Token.ofText text
  match readEither (3 * tokens.length + 3) tokens with
  | some (expression, []) => some expression
  | _ => none

/-- The value of a test that is given as text. -/
def holds (contents : String → Content) (text : String) : Except Fault Bool :=
  match readTest text with
  | some expression => expression.value contents
  | none => .error .unreadable

/-! ## 1. Tests as tokens -/

namespace Test

/-- Whether every field that a test asks for can be asked for. -/
def IsNamed : Test → Prop
  | isNull subject | isNotNull subject | isBlank subject | isNotBlank subject
  | isEmpty subject | isNotEmpty subject => IsTestName subject
  | both first second | either first second => first.IsNamed ∧ second.IsNamed
  | group test => test.IsNamed

/-- The tokens that a test is written with. -/
def tokens : Test → List Token
  | isNull subject => [.name subject, .equal, .null]
  | isNotNull subject => [.name subject, .differ, .null]
  | isBlank subject => [.name subject, .equal, .blank]
  | isNotBlank subject => [.name subject, .differ, .blank]
  | isEmpty subject => [.name subject, .dot, .name "isEmpty", .opening, .closing]
  | isNotEmpty subject => [.not, .name subject, .dot, .name "isEmpty", .opening, .closing]
  | both first second => first.tokens ++ .and :: second.tokens
  | either first second => first.tokens ++ .or :: second.tokens
  | group test => .opening :: test.tokens ++ [.closing]

end Test

namespace Token

/-- Whether a word that stands before the text is complete. -/
def Stops (cs : List Char) : Prop :=
  cs = [] ∨ ∃ more, cs = ' ' :: more ∨ cs = ')' :: more

@[simp] theorem ending_nil : ending [] = [] := rfl

theorem after_wordChar (word cs : List Char) {c : Char} (h : Text.isWordChar c = true) :
    after word (c :: cs) = after (word ++ [c]) cs := by
  rw [after.eq_def]
  exact if_pos h

@[simp] theorem after_space (word cs : List Char) :
    after word (' ' :: cs) = (after [] cs).map (ending word ++ ·) := rfl

@[simp] theorem after_equal (word cs : List Char) :
    after word ('=' :: '=' :: cs) = (after [] cs).map (ending word ++ equal :: ·) := rfl

@[simp] theorem after_differ (word cs : List Char) :
    after word ('!' :: '=' :: cs) = (after [] cs).map (ending word ++ differ :: ·) := rfl

@[simp] theorem after_blank (word cs : List Char) :
    after word ('\'' :: '\'' :: cs) = (after [] cs).map (ending word ++ blank :: ·) := rfl

@[simp] theorem after_dot (word cs : List Char) :
    after word ('.' :: cs) = (after [] cs).map (ending word ++ dot :: ·) := rfl

@[simp] theorem after_opening (word cs : List Char) :
    after word ('(' :: cs) = (after [] cs).map (ending word ++ opening :: ·) := rfl

@[simp] theorem after_closing (word cs : List Char) :
    after word (')' :: cs) = (after [] cs).map (ending word ++ closing :: ·) := rfl

theorem after_not (word cs : List Char) {c : Char} (h : c ≠ '=') :
    after word ('!' :: c :: cs) = (after [] (c :: cs)).map (ending word ++ not :: ·) := by
  rw [after.eq_def]
  split
  · next heq => exact absurd heq (by simp)
  · next heq =>
    obtain ⟨rfl, rfl⟩ := List.cons.inj heq
    split
    · next isWord => exact absurd isWord (by decide)
    · split <;> simp_all

theorem after_append (word cs rest : List Char) (all : cs.all Text.isWordChar = true) :
    after word (cs ++ rest) = after (word ++ cs) rest := by
  induction cs generalizing word with
  | nil => simp
  | cons c cs ih =>
    rw [List.all_cons, Bool.and_eq_true] at all
    rw [List.cons_append, after_wordChar _ _ all.1, ih _ all.2]
    simp

theorem after_of_stops (word : List Char) {rest : List Char} (stops : Stops rest) :
    after word rest = (after [] rest).map (ending word ++ ·) := by
  rcases stops with rfl | ⟨more, rfl | rfl⟩
  · simp [after, ending]
  · simp
  · simp [Function.comp_def]

theorem ending_of_isTestName {name : String} (h : IsTestName name) :
    ending name.toList = [.name name] := by
  have isOther : ∀ word ∈ reservedWords, name ≠ word := fun word reserved same =>
    h.2 (same ▸ reserved)
  have notNull := isOther "null" (by decide)
  have notAnd := isOther "and" (by decide)
  have notOr := isOther "or" (by decide)
  rw [ending, if_neg (Text.isIdentifier_ne_nil h.1), String.ofList_toList]
  simp [ofWord, notNull, notAnd, notOr, h.1, h.2]

theorem after_name {name : String} (h : IsTestName name) (rest : List Char) :
    after [] (name.toList ++ rest) = after name.toList rest := by
  rw [after_append _ _ _ (List.all_eq_true.mpr (Text.isWordChar_of_mem h.1)), List.nil_append]

theorem after_not_name {name : String} (h : IsTestName name) (rest : List Char) :
    after [] ('!' :: (name.toList ++ rest)) = (after name.toList rest).map (not :: ·) := by
  have all := Text.isWordChar_of_mem h.1
  rw [← after_name h]
  match chars : name.toList with
  | [] => exact absurd chars (Text.isIdentifier_ne_nil h.1)
  | c :: cs =>
    have start : c ≠ '=' := by
      rintro rfl
      exact absurd (all '=' (by simp [chars])) (by decide)
    exact after_not [] (cs ++ rest) start

theorem after_null {rest : List Char} (stops : Stops rest) :
    after [] ('n' :: 'u' :: 'l' :: 'l' :: rest) = (after [] rest).map (null :: ·) := by
  have word := after_append [] ['n', 'u', 'l', 'l'] rest (by decide)
  simp only [List.cons_append, List.nil_append] at word
  rw [word, after_of_stops _ stops]
  rfl

theorem after_and (rest : List Char) :
    after [] ('a' :: 'n' :: 'd' :: ' ' :: rest) = (after [] rest).map (and :: ·) := rfl

theorem after_or (rest : List Char) :
    after [] ('o' :: 'r' :: ' ' :: rest) = (after [] rest).map (or :: ·) := rfl

theorem after_isEmpty (rest : List Char) :
    after [] ('i' :: 's' :: 'E' :: 'm' :: 'p' :: 't' :: 'y' :: '(' :: ')' :: rest)
      = (after [] rest).map (.name "isEmpty" :: .opening :: .closing :: ·) := by
  have word := after_append [] ['i', 's', 'E', 'm', 'p', 't', 'y'] ('(' :: ')' :: rest)
    (by decide)
  simp only [List.cons_append, List.nil_append] at word
  rw [word, after_opening, after_closing, Option.map_map]
  rfl

end Token

open Token

/-- The text of a test is split into the test's own tokens, in front of anything that cannot go on
with its last word. -/
theorem after_text {test : Test} (named : test.IsNamed) (rest : List Char) (stops : Stops rest) :
    after [] (test.text.toList ++ rest) = (after [] rest).map (test.tokens ++ ·) := by
  induction test generalizing rest with
  | isNull subject | isNotNull subject =>
    simp [Test.text, Test.tokens, after_name named, ending_of_isTestName named, after_null stops,
      Function.comp_def]
  | isBlank subject | isNotBlank subject =>
    simp [Test.text, Test.tokens, after_name named, ending_of_isTestName named, Function.comp_def]
  | isEmpty subject =>
    simp [Test.text, Test.tokens, after_name named, ending_of_isTestName named, after_isEmpty,
      Function.comp_def]
  | isNotEmpty subject =>
    simp [Test.text, Test.tokens, after_not_name named, ending_of_isTestName named, after_isEmpty,
      Function.comp_def]
  | both first second ihFirst ihSecond =>
    have before := ihFirst named.1
      (' ' :: 'a' :: 'n' :: 'd' :: ' ' :: (second.text.toList ++ rest)) (.inr ⟨_, .inl rfl⟩)
    simp [Test.text, Test.tokens, before, after_and, ihSecond named.2 rest stops,
      Function.comp_def]
  | either first second ihFirst ihSecond =>
    have before := ihFirst named.1
      (' ' :: 'o' :: 'r' :: ' ' :: (second.text.toList ++ rest)) (.inr ⟨_, .inl rfl⟩)
    simp [Test.text, Test.tokens, before, after_or, ihSecond named.2 rest stops,
      Function.comp_def]
  | group test ih =>
    have inner := ih named (')' :: rest) (.inr ⟨_, .inr rfl⟩)
    simp [Test.text, Test.tokens, inner, Function.comp_def]

/-! ## 2. Tokens as expressions -/

namespace Test

/-- What a test is meant to say. -/
def expression : Test → Expression
  | isNull subject => .isNull subject
  | isNotNull subject => .not (.isNull subject)
  | isBlank subject => .isBlank subject
  | isNotBlank subject => .not (.isBlank subject)
  | isEmpty subject => .isEmpty subject
  | isNotEmpty subject => .not (.isEmpty subject)
  | both first second => .both first.expression second.expression
  | either first second => .either first.expression second.expression
  | group test => test.expression

/-- Whether the parentheses of a test keep its meaning in a place that takes, for 0, an operand of
`and`, for 1, an operand of `or`, and for 2, any test. -/
def Fits : Nat → Test → Prop
  | level, both first second => 1 ≤ level ∧ first.Fits 0 ∧ second.Fits 1
  | level, either first second => 2 ≤ level ∧ first.Fits 1 ∧ second.Fits 2
  | _, group test => test.Fits 2
  | _, _ => True

theorem Fits.mono {test : Test} {level looser : Nat} (fits : test.Fits level)
    (le : level ≤ looser) : test.Fits looser := by
  cases test with
  | both first second => exact ⟨Nat.le_trans fits.1 le, fits.2⟩
  | either first second => exact ⟨Nat.le_trans fits.1 le, fits.2⟩
  | group test => exact fits
  | _ => trivial

end Test

theorem readBoth_of_readOperand {fuel : Nat} {tokens rest : List Token} {expression : Expression}
    (read : readOperand fuel tokens = some (expression, rest)) (stop : rest.head? ≠ some .and) :
    readBoth (fuel + 1) tokens = some (expression, rest) := by
  rw [readBoth, read]
  cases rest with
  | nil => rfl
  | cons token rest => cases token <;> first | rfl | exact absurd rfl stop

theorem readEither_of_readBoth {fuel : Nat} {tokens rest : List Token} {expression : Expression}
    (read : readBoth fuel tokens = some (expression, rest)) (stop : rest.head? ≠ some .or) :
    readEither (fuel + 1) tokens = some (expression, rest) := by
  rw [readEither, read]
  cases rest with
  | nil => rfl
  | cons token rest => cases token <;> first | rfl | exact absurd rfl stop

/-- That a test is read as it is meant, by the reader of each place it fits in. -/
structure Reads (test : Test) (fuel : Nat) (rest : List Token) : Prop where
  operand : test.Fits 0 →
    readOperand (fuel + 1) (test.tokens ++ rest) = some (test.expression, rest)
  conjunction : test.Fits 1 → rest.head? ≠ some .and →
    readBoth (fuel + 2) (test.tokens ++ rest) = some (test.expression, rest)
  disjunction : test.Fits 2 → rest.head? ≠ some .and → rest.head? ≠ some .or →
    readEither (fuel + 3) (test.tokens ++ rest) = some (test.expression, rest)

theorem Reads.of_operand {test : Test} {fuel : Nat} {rest : List Token}
    (tight : test.Fits 2 → test.Fits 0)
    (read : test.Fits 0 →
      readOperand (fuel + 1) (test.tokens ++ rest) = some (test.expression, rest)) :
    Reads test fuel rest where
  operand := read
  conjunction fits := readBoth_of_readOperand (read (tight (fits.mono (by decide))))
  disjunction fits notAnd :=
    readEither_of_readBoth (readBoth_of_readOperand (read (tight fits)) notAnd)

/-- By induction on the test. Each part is read with the fuel that its own tokens call for, which
leaves enough for what follows it. -/
theorem readTokens_tokens (test : Test) (fuel : Nat) (rest : List Token)
    (enough : 3 * test.tokens.length ≤ fuel) : Reads test fuel rest := by
  induction test generalizing fuel rest with
  | isNull subject | isNotNull subject | isBlank subject | isNotBlank subject | isEmpty subject =>
    refine Reads.of_operand (fun _ => trivial) fun _ => ?_
    simp [Test.tokens, Test.expression, readOperand]
  | isNotEmpty subject =>
    refine Reads.of_operand (fun _ => trivial) fun _ => ?_
    obtain ⟨more, rfl⟩ : ∃ more, fuel = more + 1 :=
      ⟨fuel - 1, by simp [Test.tokens] at enough; omega⟩
    simp [Test.tokens, Test.expression, readOperand]
  | both first second ihFirst ihSecond =>
    simp only [Test.tokens, List.length_append, List.length_cons] at enough
    obtain ⟨more, rfl⟩ : ∃ more, fuel = more + 1 := ⟨fuel - 1, by omega⟩
    have conjunction (fits : (Test.both first second).Fits 1) (notAnd : rest.head? ≠ some .and) :
        readBoth (more + 3) ((Test.both first second).tokens ++ rest)
          = some ((Test.both first second).expression, rest) := by
      -- The second part has one step less, which the token between them pays for.
      have readFirst := (ihFirst (more + 1) (.and :: (second.tokens ++ rest)) (by omega)).operand
        fits.2.1
      have readSecond := (ihSecond more rest (by omega)).conjunction fits.2.2 notAnd
      rw [Test.tokens, List.append_assoc, List.cons_append, readBoth, readFirst]
      simp [readSecond, Test.expression]
    exact {
      operand := fun fits => absurd fits.1 (by decide)
      conjunction := conjunction
      disjunction := fun fits notAnd =>
        readEither_of_readBoth (conjunction ⟨by decide, fits.2⟩ notAnd) }
  | either first second ihFirst ihSecond =>
    simp only [Test.tokens, List.length_append, List.length_cons] at enough
    obtain ⟨more, rfl⟩ : ∃ more, fuel = more + 1 := ⟨fuel - 1, by omega⟩
    refine ⟨fun fits => absurd fits.1 (by decide), fun fits => absurd fits.1 (by decide), ?_⟩
    intro fits notAnd notOr
    have readFirst := (ihFirst (more + 1) (.or :: (second.tokens ++ rest)) (by omega)).conjunction
      fits.2.1 (by simp)
    have readSecond := (ihSecond more rest (by omega)).disjunction fits.2.2 notAnd notOr
    rw [Test.tokens, List.append_assoc, List.cons_append, readEither, readFirst]
    simp [readSecond, Test.expression]
  | group test ih =>
    simp only [Test.tokens, List.length_cons, List.length_append, List.cons_append] at enough
    obtain ⟨more, rfl⟩ : ∃ more, fuel = more + 3 := ⟨fuel - 3, by omega⟩
    refine Reads.of_operand id fun fits => ?_
    have inner := (ih more (.closing :: rest) (by omega)).disjunction fits (by simp) (by simp)
    simp [Test.tokens, Test.expression, readOperand, inner]

/-- The text of a test is read as what the test is meant to say. -/
theorem readTest_text {test : Test} (named : test.IsNamed) (fits : test.Fits 2) :
    readTest test.text = some test.expression := by
  have tokens : Token.ofText test.text = some test.tokens := by
    have split := after_text named [] (.inl rfl)
    simpa [Token.ofText, Token.after] using split
  have read := (readTokens_tokens test (3 * test.tokens.length) [] (Nat.le_refl _)).disjunction fits
    (by simp) (by simp)
  rw [List.append_nil] at read
  simp [readTest, tokens, read]

/-- The value of a test's text is the value of what the test is meant to say. -/
theorem holds_text {test : Test} (named : test.IsNamed) (fits : test.Fits 2)
    (contents : String → Content) :
    holds contents test.text = test.expression.value contents := by
  rw [holds, readTest_text named fits]

/-! ## 3. Checks and joins -/

namespace Test

variable {contents : String → Content}

theorem isNamed_ofCheck (check : Check) (named : IsTestName check.subject) :
    (ofCheck check).IsNamed := by
  obtain ⟨subject, category, presence⟩ := check
  cases category <;> cases presence <;> first | exact named | exact ⟨named, named⟩

theorem fits_ofCheck (check : Check) : (ofCheck check).Fits 2 := by
  obtain ⟨subject, category, presence⟩ := check
  cases category <;> cases presence <;> simp [ofCheck, Fits]

/-- The test of a check gives the check's answer, without asking a null for its emptiness. -/
theorem value_ofCheck (check : Check) :
    (ofCheck check).expression.value contents
      = .ok (check.presence.holds check.category (contents check.subject)) := by
  obtain ⟨subject, category, presence⟩ := check
  cases category <;> cases presence <;> cases content : contents subject <;>
    simp [ofCheck, expression, Expression.value, content, Except.map, bind, Except.bind, pure,
      Except.pure, Presence.holds, Content.isPresent, Content.isMissing]

/-! ### Joins -/

variable (write : α → Test) {first : α} {others : List α}

theorem isNamed_join {op : Test → Test → Test}
    (opNamed : ∀ s t, s.IsNamed → t.IsNamed → (op s t).IsNamed)
    (named : ∀ x ∈ first :: others, (write x).IsNamed) :
    (join op (write first) (others.map write)).IsNamed := by
  induction others generalizing first with
  | nil => exact named first (by simp)
  | cons second others ih =>
    exact opNamed _ _ (named first (by simp)) (ih fun x mem => named x (List.mem_cons_of_mem _ mem))

theorem fits_join_either (fits : ∀ x ∈ first :: others, (write x).Fits 1) :
    (join either (write first) (others.map write)).Fits 2 := by
  induction others generalizing first with
  | nil => exact (fits first (by simp)).mono (by decide)
  | cons second others ih =>
    exact ⟨by decide, fits first (by simp), ih fun x mem => fits x (List.mem_cons_of_mem _ mem)⟩

theorem fits_join_both (fits : ∀ x ∈ first :: others, (write x).Fits 0) :
    (join both (write first) (others.map write)).Fits 1 := by
  induction others generalizing first with
  | nil => exact (fits first (by simp)).mono (by decide)
  | cons second others ih =>
    exact ⟨by decide, fits first (by simp), ih fun x mem => fits x (List.mem_cons_of_mem _ mem)⟩

/-- Alternatives hold when one of them does. -/
theorem value_join_either {answer : α → Bool}
    (answers : ∀ x ∈ first :: others, (write x).expression.value contents = .ok (answer x)) :
    (join either (write first) (others.map write)).expression.value contents
      = .ok ((first :: others).any answer) := by
  induction others generalizing first with
  | nil => simp [join, answers first (by simp)]
  | cons second others ih =>
    have rest := ih fun x mem => answers x (List.mem_cons_of_mem first mem)
    rw [List.map_cons, join, expression, Expression.value, answers first (by simp), rest]
    cases value : answer first <;> simp [value, bind, Except.bind, pure, Except.pure]

/-- Requirements hold when all of them do. -/
theorem value_join_both {answer : α → Bool}
    (answers : ∀ x ∈ first :: others, (write x).expression.value contents = .ok (answer x)) :
    (join both (write first) (others.map write)).expression.value contents
      = .ok ((first :: others).all answer) := by
  induction others generalizing first with
  | nil => simp [join, answers first (by simp)]
  | cons second others ih =>
    have rest := ih fun x mem => answers x (List.mem_cons_of_mem first mem)
    rw [List.map_cons, join, expression, Expression.value, answers first (by simp), rest]
    cases value : answer first <;> simp [value, bind, Except.bind, pure, Except.pure]

end Test

end QueryScribe.Mapper
