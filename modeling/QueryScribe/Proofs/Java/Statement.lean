import QueryScribe.Proofs.Java.Condition

/-!
# Reading guarded statements

Generated methods act under conditions: they throw what is wrong with a bean, or add what is asked
of a row. Here such statements are read back from the text, one after the other: every one ends in
a closing brace, and its condition stands in front of the opening one.

Results:
1. `readGuarded_piece`: a single statement is read as its condition and its body.
2. `readBlock_join`: several statements are read one after the other.
-/

namespace QueryScribe.Java

open Text

/-! ## 1. Single statements -/

/-- A statement under a condition. -/
structure Guarded where
  condition : String
  body : String
  deriving Repr, DecidableEq

/-- The statement that is written in front of a closing brace. -/
def readGuarded (cs : List Char) : Option Guarded :=
  match cs.splitOn '\x7b' with
  | [head, body] => do
    let condition ← between "if (" ")" (trimChars head)
    return ⟨String.ofList condition, String.ofList (trimChars body)⟩
  | _ => none

/-- The statements that are written in front of closing braces. -/
def readAll : List (List Char) → Option (List Guarded)
  | [] => none
  | [rest] => if rest.all isBlank then some [] else none
  | piece :: pieces => do
    let statement ← readGuarded piece
    return statement :: (← readAll pieces)

/-- The statements of a text that has nothing else. -/
def readBlock (text : String) : Option (List Guarded) :=
  readAll (text.toList.splitOn '\x7d')

/-- Whether a text has no braces. -/
def HasNoBraces (s : String) : Prop :=
  ∀ c ∈ s.toList, c ≠ '\x7b' ∧ c ≠ '\x7d'

instance : DecidablePred HasNoBraces := fun s => inferInstanceAs (Decidable (∀ c ∈ s.toList, _))

theorem HasNoBraces.opening {s : String} (plain : HasNoBraces s) : '\x7b' ∉ s.toList :=
  fun mem => (plain _ mem).1 rfl

theorem HasNoBraces.closing {s : String} (plain : HasNoBraces s) : '\x7d' ∉ s.toList :=
  fun mem => (plain _ mem).2 rfl

theorem HasNoBraces.of_forall {p : Char → Bool} {s : String} (all : ∀ c ∈ s.toList, p c = true)
    (opening : p '\x7b' = false) (closing : p '\x7d' = false) : HasNoBraces s := by
  intro c mem
  have char := all c mem
  constructor <;> rintro rfl
  · exact absurd (char.symm.trans opening) (by decide)
  · exact absurd (char.symm.trans closing) (by decide)

theorem hasNoBraces_condition {check : Check} (access : IsAccess check.subject) :
    HasNoBraces (condition check) :=
  .of_forall (isConditionChar_condition access) (by decide) (by decide)

/-- Whether a statement can be told from those around it. -/
structure Guarded.IsClosed (statement : Guarded) : Prop where
  condition : HasNoBraces statement.condition
  body : HasNoBraces statement.body
  trimmed : IsTrimmed statement.body.toList

/-- The statement as text. -/
def Guarded.text (indent : String) (statement : Guarded) : String :=
  indent ++ "if (" ++ statement.condition ++ ") \x7b\n"
    ++ indent ++ "    " ++ statement.body ++ "\n"
    ++ indent ++ "\x7d\n"

namespace StatementLemmas

/-- A condition in its parentheses. -/
def headOf (statement : Guarded) : List Char :=
  "if (".toList ++ statement.condition.toList ++ ")".toList

/-- What stands in front of a closing brace, behind some space. -/
def piece (front indent : List Char) (statement : Guarded) : List Char :=
  (front ++ indent ++ headOf statement ++ [' '])
    ++ '\x7b' :: ('\n' :: indent ++ "    ".toList ++ statement.body.toList ++ '\n' :: indent)

theorem toList_text (front : List Char) (indent : String) (statement : Guarded)
    (rest : List Char) :
    front ++ (statement.text indent).toList ++ rest
      = piece front indent.toList statement ++ '\x7d' :: '\n' :: rest := by
  simp [Guarded.text, piece, headOf]

theorem not_mem_of_blank {c : Char} (notBlank : isBlank c = false) {space : List Char}
    (blank : space.all isBlank = true) : c ∉ space := by
  intro mem
  rw [List.all_eq_true.mp blank c mem] at notBlank
  exact absurd notBlank (by decide)

theorem all_isBlank_line {indent : List Char} (blank : indent.all isBlank = true) :
    ('\n' :: indent).all isBlank = true := by
  rw [List.all_cons, blank]
  decide

/-- Around the opening brace, the condition and the body are what is left without space. -/
theorem readGuarded_piece {statement : Guarded} (closed : statement.IsClosed)
    {front indent : List Char} (blankFront : front.all isBlank = true)
    (blank : indent.all isBlank = true) :
    readGuarded (piece front indent statement) = some statement := by
  have noBrace {space : List Char} (blank : space.all isBlank = true) : '\x7b' ∉ space :=
    not_mem_of_blank (by decide) blank
  have before : '\x7b' ∉ front ++ indent ++ headOf statement ++ [' '] := by
    simp [headOf, noBrace blankFront, noBrace blank, closed.condition.opening]
  have after : '\x7b' ∉ '\n' :: indent ++ "    ".toList ++ statement.body.toList
      ++ '\n' :: indent := by
    simp [noBrace blank, closed.body.opening]
  have head : trimChars (front ++ indent ++ headOf statement ++ [' ']) = headOf statement :=
    trimChars_of_isTrimmed (isTrimmed_around _ (by decide) (by decide))
      (by rw [List.all_append, blankFront, blank]; rfl) (by decide)
  have body : trimChars ('\n' :: indent ++ "    ".toList ++ statement.body.toList
      ++ '\n' :: indent) = statement.body.toList :=
    trimChars_of_isTrimmed closed.trimmed
      (by rw [List.all_append, all_isBlank_line blank]; decide) (all_isBlank_line blank)
  have condition : between "if (" ")" (headOf statement) = some statement.condition.toList :=
    between_append ..
  rw [readGuarded, piece, List.splitOn_append_cons_self_of_not_mem before,
    List.splitOn_eq_singleton after]
  simp only [head, body, condition]
  simp

theorem readAll_cons {first : List Char} {statement : Guarded}
    (read : readGuarded first = some statement) {pieces : List (List Char)}
    (follows : pieces ≠ []) :
    readAll (first :: pieces) = (readAll pieces).map (statement :: ·) := by
  obtain ⟨second, others, rfl⟩ := List.exists_cons_of_ne_nil follows
  rw [readAll, read]
  · cases readAll (second :: others) <;> rfl
  · exact follows

theorem not_mem_piece {statement : Guarded} (closed : statement.IsClosed)
    {front indent : List Char} (blankFront : front.all isBlank = true)
    (blank : indent.all isBlank = true) : '\x7d' ∉ piece front indent statement := by
  have noBrace {space : List Char} (blank : space.all isBlank = true) : '\x7d' ∉ space :=
    not_mem_of_blank (by decide) blank
  simp [piece, headOf, noBrace blankFront, noBrace blank, closed.condition.closing,
    closed.body.closing]

/-- By induction on the statements: the line break behind a closing brace is space in front of the
next statement. -/
theorem readAll_join {indent : String} (blank : indent.toList.all isBlank = true)
    {statements : List Guarded} (closed : ∀ statement ∈ statements, statement.IsClosed)
    {front : List Char} (blankFront : front.all isBlank = true) :
    readAll ((front ++ (String.join (statements.map (Guarded.text indent))).toList).splitOn '\x7d')
      = some statements := by
  induction statements generalizing front with
  | nil =>
    have noBrace : '\x7d' ∉ front := not_mem_of_blank (by decide) blankFront
    simp [List.splitOn_eq_singleton noBrace, readAll, blankFront]
  | cons statement statements ih =>
    have here := closed statement (by simp)
    have rest := ih (fun other mem => closed other (List.mem_cons_of_mem _ mem))
      (show ['\n'].all isBlank = true by decide)
    rw [List.map_cons, String.join_cons, String.toList_append, ← List.append_assoc, toList_text,
      List.splitOn_append_cons_self_of_not_mem (not_mem_piece here blankFront blank),
      readAll_cons (readGuarded_piece here blankFront blank) (List.splitOn_ne_nil _ _)]
    exact congrArg (·.map (statement :: ·)) rest

end StatementLemmas

open StatementLemmas

/-- Statements are read one after the other. -/
theorem readBlock_join {indent : String} (blank : indent.toList.all isBlank = true)
    {statements : List Guarded} (closed : ∀ statement ∈ statements, statement.IsClosed) :
    readBlock (String.join (statements.map (Guarded.text indent))) = some statements :=
  readAll_join blank closed (show [].all isBlank = true from rfl)

end QueryScribe.Java
