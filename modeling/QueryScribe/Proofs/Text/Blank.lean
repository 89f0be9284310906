import Mathlib.Data.List.TakeWhile
import QueryScribe.Text.Blank

/-!
# Trimmed texts

What is left of a text without the white space around it is the only part of it that begins and ends
with something else and has nothing but white space on either side. `trimChars_eq_iff` says so of
the characters, `trim_eq_iff` of the text.
-/

namespace QueryScribe.Text

/-- Whether a text is another one without the white space at either end. Of nothing but white space,
nothing is left. -/
structure Trims (whole core : List Char) : Prop where
  around : ∃ front back, whole = front ++ core ++ back
    ∧ (∀ c ∈ front, isBlank c = true) ∧ ∀ c ∈ back, isBlank c = true
  start : ∀ c, core.head? = some c → isBlank c = false
  stop : ∀ c, core.getLast? = some c → isBlank c = false

namespace BlankLemmas

/-- White space in front is dropped up to something else, or to the end. -/
theorem dropWhile_append {front rest : List Char} (blank : ∀ c ∈ front, isBlank c = true)
    (start : ∀ c, rest.head? = some c → isBlank c = false) :
    (front ++ rest).dropWhile isBlank = rest := by
  rw [List.dropWhile_append_of_pos blank]
  cases rest with
  | nil => rfl
  | cons c rest => rw [List.dropWhile_cons_of_neg (by simp [start c rfl])]

/-- What is left begins with something else. -/
theorem head_dropWhile {cs : List Char} {c : Char}
    (first : (cs.dropWhile isBlank).head? = some c) : isBlank c = false := by
  have stops := List.head?_dropWhile_not isBlank cs
  rwa [first] at stops

theorem trims_trimChars (whole : List Char) : Trims whole (trimChars whole) := by
  generalize atEnd : whole.dropWhile isBlank = rest
  have trimmed : trimChars whole = (rest.reverse.dropWhile isBlank).reverse := by
    rw [trimChars, atEnd]
  have parts : rest = trimChars whole ++ (rest.reverse.takeWhile isBlank).reverse := by
    rw [trimmed, ← List.reverse_append, List.takeWhile_append_dropWhile, List.reverse_reverse]
  refine ⟨⟨whole.takeWhile isBlank, (rest.reverse.takeWhile isBlank).reverse, ?_, ?_, ?_⟩, ?_, ?_⟩
  · rw [List.append_assoc, ← parts, ← atEnd, List.takeWhile_append_dropWhile]
  · exact fun c mem => List.mem_takeWhile_imp mem
  · exact fun c mem => List.mem_takeWhile_imp (List.mem_reverse.mp mem)
  · intro c first
    have first : rest.head? = some c := by
      rw [parts, List.head?_append, first, Option.some_or]
    exact head_dropWhile (atEnd.symm ▸ first)
  · intro c last
    rw [trimmed, List.getLast?_reverse] at last
    exact head_dropWhile last

/-- The front goes first. Where nothing else follows, the back goes with it. -/
theorem trimChars_of_trims {whole core : List Char} (trims : Trims whole core) :
    trimChars whole = core := by
  obtain ⟨front, back, rfl, blankFront, blankBack⟩ := trims.around
  cases core with
  | nil =>
    have blank : ∀ c ∈ front ++ back, isBlank c = true :=
      List.forall_mem_append.mpr ⟨blankFront, blankBack⟩
    have nothing : (front ++ back ++ []).dropWhile isBlank = [] := dropWhile_append blank (by simp)
    rw [List.append_nil] at nothing
    rw [trimChars, List.append_nil, nothing]
    rfl
  | cons c core =>
    have start : (front ++ ((c :: core) ++ back)).dropWhile isBlank = (c :: core) ++ back :=
      dropWhile_append blankFront trims.start
    have stop : (back.reverse ++ (c :: core).reverse).dropWhile isBlank = (c :: core).reverse :=
      dropWhile_append (fun d mem => blankBack d (List.mem_reverse.mp mem)) fun d last =>
        trims.stop d (List.head?_reverse ▸ last)
    rw [trimChars, List.append_assoc, start, List.reverse_append, stop, List.reverse_reverse]

end BlankLemmas

open BlankLemmas

theorem trimChars_eq_iff {whole core : List Char} : trimChars whole = core ↔ Trims whole core := by
  constructor
  · rintro rfl
    exact trims_trimChars whole
  · exact trimChars_of_trims

theorem trim_eq_iff {whole core : String} :
    trim whole = core ↔ Trims whole.toList core.toList := by
  rw [← trimChars_eq_iff, ← String.toList_inj, trim, String.toList_ofList]

end QueryScribe.Text
