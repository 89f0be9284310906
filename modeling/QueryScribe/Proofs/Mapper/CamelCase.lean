import Mathlib.Data.List.Chain
import QueryScribe.Mapper.Statement
import QueryScribe.Proofs.Mapper.Column
import QueryScribe.Proofs.Text.Words

/-!
# Columns of camel case names

A column is read back by dropping its underscores and putting the letter after each of them in
capitals. Snake case loses what it lowers without an underscore in front: a capital at the
beginning, behind another capital or behind a digit, and every capital beyond ASCII. It also gives
no sign which underscores were there before. The names that have nothing of this kind are read back,
and no others.

Results:
1. `Recoverable.camelChars_snakeChars`, `camelCase_snakeCase_iff`: the names that are read back.
2. `IsCamelCase.recoverable`: names in camel case are among them.
3. `camelCase_columns_apart`: different names in camel case have different columns.
-/

namespace QueryScribe.Mapper

open Text

/-- The characters of a column without underscores. The letter after an underscore becomes a
capital; `afterUnderscore` says whether there was one in front. -/
def camelChars (afterUnderscore : Bool) : List Char → List Char
  | [] => []
  | c :: cs =>
    if c = '_' then camelChars true cs
    else (if afterUnderscore then asciiUpper c else c) :: camelChars false cs

/-- The name that a column is read back to. -/
def camelCase (column : String) : String :=
  String.ofList (camelChars false column.toList)

/-- Whether a name is in camel case: it has ASCII letters only, the first of them is small, and no
two capitals stand next to each other. -/
structure IsCamelCase (name : String) : Prop where
  letters : ∀ c ∈ name.toList, isAsciiLower c = true ∨ isAsciiUpper c = true
  starts : name.toList.head?.all isAsciiLower = true
  apart : name.toList.IsChain fun c d => ¬ (isAsciiUpper c = true ∧ isAsciiUpper d = true)

instance : DecidablePred IsCamelCase := fun _ =>
  decidable_of_iff (_ ∧ _ ∧ _)
    ⟨fun ⟨letters, starts, apart⟩ => ⟨letters, starts, apart⟩,
      fun camel => ⟨camel.letters, camel.starts, camel.apart⟩⟩

/-- The names of which snake case loses nothing: they have no underscores, their ASCII capitals
stand behind small ASCII letters, and whatever else they have is small. `afterSmall` says whether
there is such a letter in front. -/
inductive Recoverable : Bool → List Char → Prop
  | nil {afterSmall : Bool} : Recoverable afterSmall []
  | capital {c : Char} {cs : List Char} (capital : isAsciiUpper c = true)
      (rest : Recoverable false cs) : Recoverable true (c :: cs)
  | small {afterSmall : Bool} {c : Char} {cs : List Char} (word : c ≠ '_')
      (small : lowerChar c = [c]) (rest : Recoverable (isAsciiLower c) cs) :
      Recoverable afterSmall (c :: cs)

/-! ## 1. Names that are read back -/

namespace CamelLemmas

/-- What holds of all ASCII capitals, as they are few enough to be tried. -/
theorem forall_capital (p : Char → Prop) [DecidablePred p]
    (all : ∀ code < 128, isAsciiUpper (Char.ofNat code) = true → p (Char.ofNat code)) {c : Char}
    (capital : isAsciiUpper c = true) : p c :=
  CaseLemmas.forall_ascii (fun c => isAsciiUpper c = true → p c) all
    (CaseLemmas.toNat_lt_of_isAsciiUpper capital) capital

/-- A capital is lowered to its letter, and is no small letter for the one behind it. -/
theorem snakeChars_capital {c : Char} (capital : isAsciiUpper c = true) (afterSmall : Bool)
    (cs : List Char) :
    snakeChars afterSmall (c :: cs)
      = (if afterSmall then ['_'] else []) ++ asciiLower c :: snakeChars false cs := by
  have lowered := forall_capital
    (fun c => isAsciiLower c = false ∧ lowerChar c = [asciiLower c]) (by decide +kernel) capital
  rw [snakeChars, capital, lowered.1, lowered.2, Bool.and_true, List.append_assoc,
    List.singleton_append]

/-- Any other character is lowered without an underscore in front. -/
theorem snakeChars_other {c : Char} (other : isAsciiUpper c = false) (afterSmall : Bool)
    (cs : List Char) :
    snakeChars afterSmall (c :: cs) = lowerChar c ++ snakeChars (isAsciiLower c) cs := by
  rw [snakeChars, other, Bool.and_false]
  rfl

/-- The letter of a capital becomes the capital again, but only after an underscore. -/
theorem camelChars_letter {c : Char} (capital : isAsciiUpper c = true) (cs : List Char) :
    camelChars false (asciiLower c :: cs) = asciiLower c :: camelChars false cs
      ∧ camelChars false ('_' :: asciiLower c :: cs) = c :: camelChars false cs := by
  have letter := forall_capital (fun c => asciiLower c ≠ '_' ∧ asciiUpper (asciiLower c) = c)
    (by decide +kernel) capital
  constructor
  · rw [camelChars, if_neg letter.1]
    rfl
  · rw [camelChars, if_pos rfl, camelChars, if_neg letter.1, if_pos rfl, letter.2]

/-- Nothing is lowered to an underscore but the underscore. -/
theorem underscore_notMem_lowerChar {c : Char} (word : c ≠ '_') : '_' ∉ lowerChar c := by
  have lowered := lowered_lowerChar c
  generalize lowerChar c = small at lowered
  cases lowered with
  | ascii ascii =>
    rw [List.mem_singleton]
    exact CaseLemmas.forall_ascii (fun c => c ≠ '_' → '_' ≠ asciiLower c) (by decide +kernel)
      ascii word
  | dotted _ => decide
  | kelvin _ => decide
  | beyond _ stays _ =>
    rw [List.mem_singleton]
    rintro rfl
    exact absurd stays (by decide)

/-- Underscores are dropped, and no other character has one for its capital. -/
theorem underscore_notMem_camelChars (afterUnderscore : Bool) (cs : List Char) :
    '_' ∉ camelChars afterUnderscore cs := by
  have capital {c : Char} (word : c ≠ '_') : '_' ≠ asciiUpper c := by
    rw [asciiUpper]
    split
    · next letter =>
      exact WordsLemmas.forall_letter (fun c => '_' ≠ Char.ofNat (c.toNat - 32)) (by decide +kernel)
        letter
    · exact word.symm
  induction cs generalizing afterUnderscore with
  | nil => exact List.not_mem_nil
  | cons c cs ih =>
    rw [camelChars]
    split
    · exact ih true
    · next word =>
      refine List.not_mem_cons_of_ne_of_not_mem ?_ (ih false)
      cases afterUnderscore with
      | false => exact Ne.symm word
      | true => exact capital word

end CamelLemmas

open CamelLemmas

/-- By induction on the name. A capital behind a small letter is announced by an underscore, and
nothing else is. -/
theorem Recoverable.camelChars_snakeChars {afterSmall : Bool} {cs : List Char}
    (recoverable : Recoverable afterSmall cs) :
    camelChars false (snakeChars afterSmall cs) = cs := by
  induction recoverable with
  | nil => rfl
  | capital capital _ ih =>
    rw [snakeChars_capital capital, if_pos rfl, List.singleton_append,
      (camelChars_letter capital _).2, ih]
  | small word small _ ih =>
    rw [snakeChars_other (isAsciiUpper_of_small small), small, List.singleton_append, camelChars,
      if_neg word, ih]
    rfl

/-- By induction on the name. Whatever else a character may be, it differs from what it is read back
to. -/
theorem recoverable_of_camelChars_snakeChars {afterSmall : Bool} {cs : List Char}
    (back : camelChars false (snakeChars afterSmall cs) = cs) : Recoverable afterSmall cs := by
  induction cs generalizing afterSmall with
  | nil => exact .nil
  | cons c cs ih =>
    cases capital : isAsciiUpper c with
    | true =>
      rw [snakeChars_capital capital] at back
      cases afterSmall with
      | false =>
        have differs := forall_capital (fun c => asciiLower c ≠ c) (by decide +kernel) capital
        have first := (camelChars_letter capital _).1.symm.trans back
        exact absurd (List.cons.inj first).1 differs
      | true =>
        have whole := (camelChars_letter capital _).2.symm.trans back
        exact .capital capital (ih (List.cons.inj whole).2)
    | false =>
      rw [snakeChars_other capital] at back
      have word : c ≠ '_' := by
        rintro rfl
        exact underscore_notMem_camelChars _ _ (back ▸ List.mem_cons_self)
      obtain ⟨d, more, lowered⟩ := List.exists_cons_of_ne_nil (lowerChar_ne_nil c)
      have mem : d ∈ lowerChar c := lowered ▸ List.mem_cons_self
      have other : d ≠ '_' := fun same => underscore_notMem_lowerChar word (same ▸ mem)
      -- What is read back first is what the character is lowered to first.
      have same : d = c := by
        rw [lowered, List.cons_append, camelChars, if_neg other] at back
        exact (List.cons.inj back).1
      have small : lowerChar c = [c] := lowerChar_of_mem_lowerChar (same ▸ mem)
      rw [small, List.singleton_append, camelChars, if_neg word] at back
      exact .small word small (ih (List.cons.inj back).2)

/-- The names that are read back from their columns, of all there are. -/
theorem camelCase_snakeCase_iff (name : String) :
    camelCase (snakeCase name) = name ↔ Recoverable false name.toList := by
  rw [← String.toList_inj, camelCase, snakeCase, String.toList_ofList, String.toList_ofList]
  exact ⟨recoverable_of_camelChars_snakeChars, Recoverable.camelChars_snakeChars⟩

/-! ## 2. Names in camel case -/

/-- By induction on the name, of which only the first letter must not be a capital without a small
letter in front. -/
theorem recoverable_of_apart {cs : List Char}
    (letters : ∀ c ∈ cs, isAsciiLower c = true ∨ isAsciiUpper c = true)
    (apart : cs.IsChain fun c d => ¬ (isAsciiUpper c = true ∧ isAsciiUpper d = true))
    {afterSmall : Bool}
    (starts : ∀ c, cs.head? = some c → isAsciiUpper c = true → afterSmall = true) :
    Recoverable afterSmall cs := by
  induction cs generalizing afterSmall with
  | nil => exact .nil
  | cons c cs ih =>
    obtain ⟨letter, later⟩ := List.forall_mem_cons.mp letters
    obtain ⟨next, rest⟩ := List.isChain_cons.mp apart
    rcases letter with small | capital
    · have plain := WordsLemmas.forall_letter (fun c => c ≠ '_' ∧ lowerChar c = [c])
        (by decide +kernel) small
      exact .small plain.1 plain.2 (ih later rest fun _ _ _ => small)
    · obtain rfl := starts c rfl capital
      refine .capital capital (ih later rest fun d first second => ?_)
      exact absurd ⟨capital, second⟩ (next d first)

theorem IsCamelCase.recoverable {name : String} (camel : IsCamelCase name) :
    Recoverable false name.toList := by
  refine recoverable_of_apart camel.letters camel.apart fun c first capital => ?_
  have small := camel.starts
  rw [first, Option.all_some] at small
  have both := WordsLemmas.forall_letter (fun c => isAsciiUpper c = false) (by decide +kernel) small
  exact absurd capital (Bool.eq_false_iff.mp both)

/-! ## 3. Different names -/

/-- An update sets columns in snake case of their fields' names. -/
theorem column_of_assigned {query : Query} {assignments : List (Optional Assignment)}
    {criteria : Criteria} (updates : Action.ofQuery query = .update assignments criteria)
    {one : Optional Assignment} (mem : one ∈ assignments) :
    one.body.column = snakeCase one.body.field := by
  rw [Action.assignments_of_update updates, List.mem_map] at mem
  obtain ⟨field, _, rfl⟩ := mem
  rfl

/-- A name in camel case is read back from its column, so that no other such name has the same
column. No update sets one column for two fields with different names of this kind. -/
theorem camelCase_columns_apart {x y : String} (camelX : IsCamelCase x) (camelY : IsCamelCase y) :
    camelCase (snakeCase x) = x
      ∧ (snakeCase x = snakeCase y ↔ x = y)
      ∧ ∀ query assignments criteria, Action.ofQuery query = .update assignments criteria →
        ∀ one ∈ assignments, ∀ other ∈ assignments, one.body.field = x → other.body.field = y →
          (one.body.column = other.body.column ↔ x = y) := by
  have backX : camelCase (snakeCase x) = x := (camelCase_snakeCase_iff x).mpr camelX.recoverable
  have backY : camelCase (snakeCase y) = y := (camelCase_snakeCase_iff y).mpr camelY.recoverable
  have columns : snakeCase x = snakeCase y ↔ x = y := by
    constructor
    · intro same
      rw [← backX, same, backY]
    · rintro rfl
      rfl
  refine ⟨backX, columns, ?_⟩
  intro query assignments criteria updates one mem other mem' field field'
  rw [column_of_assigned updates mem, column_of_assigned updates mem', field, field']
  exact columns

/-- Capitals next to each other are lost. -/
example : snakeCase "userID" = snakeCase "userId" := by decide +kernel

/-- An update of two fields whose names differ in a capital only. -/
def loginUpdate : Query where
  source := ⟨"Login", "app.Login", [⟨"lastLogin", "LocalDate"⟩, ⟨"lastLogIn", "String"⟩]⟩
  target := ⟨"Login", "app.Login", [⟨"lastLogIn", "String"⟩, ⟨"lastLogin", "LocalDate"⟩]⟩
  selections := [⟨⟨"lastLogIn", "String"⟩, .eq, .and, ""⟩]
  operation := .update
  selections_ne_nil := by decide
  fits := by decide

theorem loginUpdate_columns_apart :
    IsCamelCase "lastLogIn" ∧ IsCamelCase "lastLogin"
      ∧ camelCase (snakeCase "lastLogIn") = "lastLogIn"
      ∧ snakeCase "lastLogIn" ≠ snakeCase "lastLogin"
      ∧ ∃ first second criteria,
        Action.ofQuery loginUpdate = .update [first, second] criteria
        ∧ first.body.field = "lastLogin" ∧ second.body.field = "lastLogIn"
        ∧ second.body.column ≠ first.body.column := by
  have camel : IsCamelCase "lastLogIn" := by decide
  have camel' : IsCamelCase "lastLogin" := by decide
  have updates : Action.ofQuery loginUpdate
      = .update
        [ifPresent ⟨"lastLogin", "LocalDate"⟩ ⟨snakeCase "lastLogin", "lastLogin"⟩,
         ifPresent ⟨"lastLogIn", "String"⟩ ⟨snakeCase "lastLogIn", "lastLogIn"⟩]
        (.ofQuery loginUpdate) := rfl
  obtain ⟨back, columns, set⟩ := camelCase_columns_apart camel camel'
  have differ : "lastLogIn" ≠ "lastLogin" := by decide
  refine ⟨camel, camel', back, columns.not.mpr differ, _, _, _, updates, rfl, rfl, ?_⟩
  exact (set _ _ _ updates _ (by simp) _ (by simp) rfl rfl).not.mpr differ

end QueryScribe.Mapper
