import QueryScribe.Java.Rejection
import QueryScribe.Proofs.Text.Blank
import QueryScribe.Proofs.Text.Chars

/-!
# Reading conditions

Generated methods write their checks as conditions: a call of a null-safe helper, or a comparison
with null, several of them joined by `&&`. Here a condition is read back from its text. What the
expressions in it stand for is left to the bean.

Results:
1. `isWordChar_capitalize`: capitalizing leaves word characters.
2. `holds_condition`: the condition of a check gives the check's answer.
3. `throws_eq`: a rejection throws exactly when all its checks hold.
-/

namespace QueryScribe.Java

open Text

/-! ## Conditions -/

/-- What each expression of a method stands for. -/
abbrev Bean := String → Content

/-- The null-safe helpers. Blank text and collections are no better than null. -/
def helpers : List (List Char × (Content → Bool)) :=
  [("StringUtils.isEmpty".toList, (· ≠ .filled)), ("StringUtils.isNotEmpty".toList, (· = .filled)),
   ("CollectionUtils.isEmpty".toList, (· ≠ .filled)),
   ("CollectionUtils.isNotEmpty".toList, (· = .filled))]

/-- The comparisons with null. -/
def nullComparisons : List (List Char × (Content → Bool)) :=
  [(" == null".toList, (· = .null)), (" != null".toList, (· ≠ .null))]

/-- Whether a character may stand in an expression that reads a value. -/
def isAccessChar (c : Char) : Bool :=
  isWordChar c || c = '.' || c = '(' || c = ')'

/-- The text between parentheses that enclose it as a whole. -/
def enclosed : List Char → Option (List Char)
  | '(' :: cs => if cs.getLast? = some ')' then some cs.dropLast else none
  | _ => none

/-- The expression that a single condition is about, and what it asks of its value. -/
def readCheck (cs : List Char) : Option (List Char × (Content → Bool)) :=
  match helpers.lookup (cs.takeWhile (· ≠ '(')) with
  | some test => (enclosed (cs.dropWhile (· ≠ '('))).map (·, test)
  | none => (nullComparisons.lookup (cs.dropWhile (· ≠ ' '))).map (cs.takeWhile (· ≠ ' '), ·)

/-- The value of a single condition. -/
def checkValue (bean : Bean) (cs : List Char) : Option Bool := do
  let (expression, test) ← readCheck cs
  if expression.all isAccessChar then return test (bean (String.ofList expression)) else none

/-- The parts of a text between `&&`. -/
def conjuncts : List Char → List (List Char)
  | [] => [[]]
  | '&' :: '&' :: cs => [] :: conjuncts cs
  | c :: cs =>
    match conjuncts cs with
    | [] => [[c]]
    | part :: parts => (c :: part) :: parts

/-- The value of a condition. -/
def holds (bean : Bean) (text : String) : Option Bool := do
  let values ← (conjuncts text.toList).mapM fun part => checkValue bean (trimChars part)
  return values.all id

/-- The condition of a rejection. -/
def Rejection.conditionText (rejection : Rejection) : String :=
  " &&\n        ".intercalate (rejection.checks.map condition)

/-- Whether a rejection throws. -/
def Rejection.throws (bean : Bean) (rejection : Rejection) : Option Bool :=
  holds bean rejection.conditionText

/-! ## 1. Accessors -/

namespace ConditionLemmas

theorem isAccessChar_of_isWordChar {c : Char} (isWord : isWordChar c = true) :
    isAccessChar c = true := by
  simp [isAccessChar, isWord]

end ConditionLemmas

open ConditionLemmas

/-- Capitalizing leaves word characters. -/
theorem isWordChar_capitalize {name : String} (word : HasWordChars name) :
    HasWordChars (capitalize name) := by
  unfold HasWordChars at *
  rw [capitalize, String.toList_ofList]
  cases chars : name.toList with
  | nil => exact fun c mem => absurd mem List.not_mem_nil
  | cons first others =>
    rw [chars] at word
    intro c mem
    rcases List.mem_append.mp mem with mem | mem
    · exact isWordChar_upperChar (word first (by simp)) c mem
    · exact word c (List.mem_cons_of_mem _ mem)

/-! ## 2. Single conditions -/

/-- Whether an expression reads the bean or one of its values. -/
structure IsAccess (expression : String) : Prop where
  entity : ∃ more, expression.toList = 'e' :: more
  chars : ∀ c ∈ expression.toList, isAccessChar c = true

/-- The accessor of a field reads one of the bean's values. -/
theorem isAccess_accessor {name : String} (named : isIdentifier name = true) :
    IsAccess (accessor name) := by
  refine ⟨⟨_, by rw [accessor, String.toList_append, String.toList_append]; rfl⟩, ?_⟩
  intro c mem
  simp only [accessor, String.toList_append, List.mem_append] at mem
  rcases mem with (start | word) | parens
  · exact List.all_eq_true.mp (show "entity.get".toList.all isAccessChar = true by decide) c start
  · exact isAccessChar_of_isWordChar (isWordChar_capitalize (isWordChar_of_mem named) c word)
  · exact List.all_eq_true.mp (show "()".toList.all isAccessChar = true by decide) c parens

/-- Whether a character may stand in a single condition. -/
def isConditionChar (c : Char) : Bool :=
  isAccessChar c || c = ' ' || c = '=' || c = '!'

/-- Whatever a condition asks for, it has no further characters in it. -/
theorem isConditionChar_condition {check : Check} (access : IsAccess check.subject) :
    ∀ c ∈ (condition check).toList, isConditionChar c = true := by
  obtain ⟨subject, category, presence⟩ := check
  have named : ∀ c ∈ subject.toList, isConditionChar c = true := fun c mem => by
    simp [isConditionChar, access.chars c mem]
  cases category <;> cases presence
  case scalar.missing | scalar.present => exact forall_append named (by decide)
  all_goals exact forall_append (forall_append (by decide) named) (by decide)

namespace ConditionLemmas

theorem mem_of_lookup {table : List (List Char × α)} {key : List Char} {entry : α}
    (found : table.lookup key = some entry) : (key, entry) ∈ table := by
  obtain ⟨before, after, whole, _⟩ := List.lookup_eq_some_iff.mp found
  simp [whole]

/-- The two ways in which a check is written, each with what it asks of a value. -/
inductive Form (check : Check) : List Char → Prop
  | helper {name : List Char} {test : Content → Bool} (found : helpers.lookup name = some test)
      (asks : ∀ content, test content = check.presence.holds check.category content) :
      Form check (name ++ '(' :: (check.subject.toList ++ [')']))
  | comparison {tail : List Char} {test : Content → Bool}
      (found : nullComparisons.lookup (' ' :: tail) = some test)
      (asks : ∀ content, test content = check.presence.holds check.category content) :
      Form check (check.subject.toList ++ ' ' :: tail)

theorem form_condition (check : Check) : Form check (condition check).toList := by
  obtain ⟨subject, category, presence⟩ := check
  have helper (name : String) {test : Content → Bool}
      (found : helpers.lookup name.toList = some test)
      (asks : ∀ content, test content = presence.holds category content) :
      Form ⟨subject, category, presence⟩ (name ++ "(" ++ subject ++ ")").toList := by
    have form : Form ⟨subject, category, presence⟩
        (name.toList ++ '(' :: (subject.toList ++ [')'])) := .helper found asks
    rw [String.toList_append, String.toList_append, String.toList_append, List.append_assoc,
      List.append_assoc]
    exact form
  cases category <;> cases presence
  case text.missing =>
    exact helper "StringUtils.isEmpty" rfl fun content => by cases content <;> rfl
  case text.present =>
    exact helper "StringUtils.isNotEmpty" rfl fun content => by cases content <;> rfl
  case collection.missing =>
    exact helper "CollectionUtils.isEmpty" rfl fun content => by cases content <;> rfl
  case collection.present =>
    exact helper "CollectionUtils.isNotEmpty" rfl fun content => by cases content <;> rfl
  case scalar.missing =>
    rw [show condition ⟨subject, .scalar, .missing⟩ = subject ++ " == null" from rfl,
      String.toList_append]
    exact .comparison rfl fun content => by cases content <;> rfl
  case scalar.present =>
    rw [show condition ⟨subject, .scalar, .present⟩ = subject ++ " != null" from rfl,
      String.toList_append]
    exact .comparison rfl fun content => by cases content <;> rfl

theorem readCheck_helper {name : List Char} {test : Content → Bool}
    (found : helpers.lookup name = some test) (subject : List Char) :
    readCheck (name ++ '(' :: (subject ++ [')'])) = some (subject, test) := by
  have names : helpers.all (fun helper => helper.1.all (· ≠ '(')) = true := by decide
  have noParen : ∀ c ∈ name, (c ≠ '(' : Bool) = true :=
    List.all_eq_true.mp (List.all_eq_true.mp names (name, test) (mem_of_lookup found))
  obtain ⟨take, drop⟩ := takeWhile_append_stop noParen '(' (by decide) (subject ++ [')'])
  rw [readCheck, take, found, drop]
  simp [enclosed]

theorem readCheck_comparison {comparison : List Char} {test : Content → Bool}
    (found : nullComparisons.lookup (' ' :: comparison) = some test) {subject : String}
    (access : IsAccess subject) :
    readCheck (subject.toList ++ ' ' :: comparison) = some (subject.toList, test) := by
  have noSpace : ∀ c ∈ subject.toList, (c ≠ ' ' : Bool) = true := by
    intro c mem
    refine decide_eq_true ?_
    rintro rfl
    exact absurd (access.chars ' ' mem) (by decide)
  obtain ⟨take, drop⟩ := takeWhile_append_stop noSpace ' ' (by decide) comparison
  -- No helper's name begins like the bean's.
  have noHelper : helpers.lookup ((subject.toList ++ ' ' :: comparison).takeWhile (· ≠ '('))
      = none := by
    obtain ⟨more, chars⟩ := access.entity
    rw [chars]
    rfl
  rw [readCheck, noHelper, take, drop, found]
  rfl

theorem checkValue_of_readCheck (bean : Bean) {cs : List Char} {test : Content → Bool}
    {subject : String} (access : IsAccess subject)
    (read : readCheck cs = some (subject.toList, test)) :
    checkValue bean cs = some (test (bean subject)) := by
  have chars : subject.toList.all isAccessChar = true := List.all_eq_true.mpr access.chars
  rw [checkValue, read]
  exact (if_pos chars).trans (by rw [String.ofList_toList]; rfl)

end ConditionLemmas

/-- The condition of a check gives the check's answer. -/
theorem checkValue_condition (bean : Bean) {check : Check} (access : IsAccess check.subject) :
    checkValue bean (condition check).toList
      = some (check.presence.holds check.category (bean check.subject)) := by
  have form := form_condition check
  generalize (condition check).toList = cs at form ⊢
  cases form with
  | helper found asks =>
    rw [← asks]
    exact checkValue_of_readCheck bean access (readCheck_helper found _)
  | comparison found asks =>
    rw [← asks]
    exact checkValue_of_readCheck bean access (readCheck_comparison found access)

/-! ## 3. Conjunctions -/

/-- Whether a text has no space at its ends. -/
structure IsTrimmed (cs : List Char) : Prop where
  start : ∃ c more, cs = c :: more ∧ isBlank c = false
  stop : ∃ more c, cs = more ++ [c] ∧ isBlank c = false

/-- Between a beginning and an end without space, anything can stand. -/
theorem isTrimmed_around {start stop : List Char} (middle : List Char)
    (begins : start.head?.all isBlank = false) (ends : stop.getLast?.all isBlank = false) :
    IsTrimmed (start ++ middle ++ stop) := by
  cases start with
  | nil => exact absurd begins (by decide)
  | cons first more =>
    rcases List.eq_nil_or_concat stop with rfl | ⟨before, last, rfl⟩
    · exact absurd ends (by decide)
    · rw [List.concat_eq_append, List.getLast?_append] at ends
      exact ⟨⟨first, _, rfl, begins⟩, ⟨first :: more ++ middle ++ before, last, by simp, ends⟩⟩

theorem trimChars_of_isTrimmed {front cs back : List Char} (trimmed : IsTrimmed cs)
    (blankFront : front.all isBlank = true) (blankBack : back.all isBlank = true) :
    trimChars (front ++ cs ++ back) = cs := by
  obtain ⟨first, more, whole, notBlank⟩ := trimmed.start
  obtain ⟨before, last, ends, stops⟩ := trimmed.stop
  refine trimChars_eq_iff.mpr {
    around := ⟨front, back, rfl, List.all_eq_true.mp blankFront, List.all_eq_true.mp blankBack⟩
    start := ?_
    stop := ?_ }
  · rw [whole]
    rintro c here
    cases here
    exact notBlank
  · rw [ends, List.getLast?_concat]
    rintro c here
    cases here
    exact stops

namespace ConditionLemmas

/-- Whether a text can stand between `&&`: it has none in it. -/
structure IsPart (cs : List Char) : Prop extends IsTrimmed cs where
  noAmpersand : '&' ∉ cs

theorem isPart_condition {check : Check} (access : IsAccess check.subject) :
    IsPart (condition check).toList := by
  have noAmpersand : '&' ∉ (condition check).toList := fun mem =>
    absurd (isConditionChar_condition access '&' mem) (by decide)
  have form := form_condition check
  generalize (condition check).toList = cs at form noAmpersand ⊢
  -- A call ends in its parenthesis, a comparison in the last letter of `null`.
  cases form with
  | @helper name test found asks =>
    have plain : ∃ c more, name = c :: more ∧ isBlank c = false := by
      have mem := mem_of_lookup found
      simp only [helpers, List.mem_cons, List.not_mem_nil, or_false, Prod.mk.injEq] at mem
      rcases mem with ⟨rfl, _⟩ | ⟨rfl, _⟩ | ⟨rfl, _⟩ | ⟨rfl, _⟩ <;> exact ⟨_, _, rfl, by decide⟩
    obtain ⟨c, more, rfl, notBlank⟩ := plain
    exact {
      noAmpersand
      start := ⟨c, _, rfl, notBlank⟩
      stop := ⟨c :: more ++ '(' :: check.subject.toList, ')', by simp, by decide⟩ }
  | @comparison tail test found asks =>
    obtain ⟨more, chars⟩ := access.entity
    have plain : ∃ before, ' ' :: tail = before ++ ['l'] := by
      have mem := mem_of_lookup found
      simp only [nullComparisons, List.mem_cons, List.not_mem_nil, or_false, Prod.mk.injEq] at mem
      rcases mem with ⟨same, _⟩ | ⟨same, _⟩ <;> rw [same]
      · exact ⟨" == nul".toList, rfl⟩
      · exact ⟨" != nul".toList, rfl⟩
    obtain ⟨before, whole⟩ := plain
    rw [whole] at noAmpersand ⊢
    exact {
      noAmpersand
      start := ⟨'e', _, by rw [chars]; rfl, by decide⟩
      stop := ⟨_, 'l', (List.append_assoc ..).symm, by decide⟩ }

theorem conjuncts_cons {c : Char} (notAmpersand : c ≠ '&') {cs part : List Char}
    {parts : List (List Char)} (eq : conjuncts cs = part :: parts) :
    conjuncts (c :: cs) = (c :: part) :: parts := by
  rw [conjuncts.eq_def]
  split
  · next heq => exact absurd heq (List.cons_ne_nil _ _)
  · next heq => exact absurd (List.cons.inj heq).1 notAmpersand
  · next heq =>
    obtain ⟨rfl, rfl⟩ := List.cons.inj heq
    rw [eq]

theorem conjuncts_of_not_mem {cs : List Char} (noAmpersand : '&' ∉ cs) : conjuncts cs = [cs] := by
  induction cs with
  | nil => rfl
  | cons c cs ih =>
    obtain ⟨here, later⟩ := List.ne_and_not_mem_of_not_mem_cons noAmpersand
    exact conjuncts_cons here.symm (ih later)

theorem conjuncts_append {cs : List Char} (noAmpersand : '&' ∉ cs) (rest : List Char) :
    conjuncts (cs ++ '&' :: '&' :: rest) = cs :: conjuncts rest := by
  induction cs with
  | nil => rfl
  | cons c cs ih =>
    obtain ⟨here, later⟩ := List.ne_and_not_mem_of_not_mem_cons noAmpersand
    exact conjuncts_cons here.symm (ih later)

/-- By induction on the checks: the first part ends at the first `&&`, and the others are led by a
line break of their own. -/
theorem values_join (bean : Bean) (front : List Char) (blankFront : front.all isBlank = true)
    (noAmpersand : '&' ∉ front) {first : Check} {others : List Check}
    (access : ∀ check ∈ first :: others, IsAccess check.subject) :
    (conjuncts (front ++ (" &&\n        ".intercalate
        ((first :: others).map condition)).toList)).mapM
          (fun part => checkValue bean (trimChars part))
      = some ((first :: others).map fun check =>
          check.presence.holds check.category (bean check.subject)) := by
  induction others generalizing first front with
  | nil =>
    have part := isPart_condition (access first (by simp))
    have whole := trimChars_of_isTrimmed part.toIsTrimmed blankFront
      (show [].all isBlank = true from rfl)
    rw [List.append_nil] at whole
    rw [List.map_singleton, String.intercalate_singleton,
      conjuncts_of_not_mem (by simp [noAmpersand, part.noAmpersand])]
    simp [whole, checkValue_condition bean (access first (by simp))]
  | cons second others ih =>
    have part := isPart_condition (access first (by simp))
    have rest := ih "\n        ".toList (by decide) (by decide)
      fun check mem => access check (List.mem_cons_of_mem _ mem)
    have whole := trimChars_of_isTrimmed part.toIsTrimmed blankFront
      (show [' '].all isBlank = true by decide)
    have split : front ++ (" &&\n        ".intercalate
          ((first :: second :: others).map condition)).toList
        = (front ++ (condition first).toList ++ [' ']) ++ '&' :: '&' :: ("\n        ".toList
          ++ (" &&\n        ".intercalate ((second :: others).map condition)).toList) := by
      rw [List.map_cons, List.map_cons, String.intercalate_cons_cons, String.toList_append,
        String.toList_append]
      simp only [List.append_assoc]
      rfl
    rw [split, conjuncts_append (by simp [noAmpersand, part.noAmpersand]), List.mapM_cons, whole,
      checkValue_condition bean (access first (by simp)), rest]
    rfl

end ConditionLemmas

/-- A rejection throws exactly when all its checks hold. -/
theorem throws_eq (bean : Bean) (rejection : Rejection) (some : rejection.checks ≠ [])
    (access : ∀ check ∈ rejection.checks, IsAccess check.subject) :
    rejection.throws bean = .some (rejection.checks.all fun check =>
      check.presence.holds check.category (bean check.subject)) := by
  obtain ⟨first, others, whole⟩ := List.exists_cons_of_ne_nil some
  rw [Rejection.throws, holds, Rejection.conditionText, whole]
  rw [whole] at access
  have values := values_join bean [] (by simp) (by simp) access
  rw [List.nil_append] at values
  rw [values]
  simp [List.all_map]

/-- A condition that is a single check gives the check's answer. -/
theorem holds_condition (bean : Bean) (check : Check) (access : IsAccess check.subject) :
    holds bean (condition check)
      = some (check.presence.holds check.category (bean check.subject)) := by
  have whole := throws_eq bean ⟨[check], ""⟩ (by simp) (by simpa using access)
  simpa [Rejection.throws, Rejection.conditionText] using whole

end QueryScribe.Java
