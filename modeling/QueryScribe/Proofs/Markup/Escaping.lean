import Mathlib.Data.List.Infix
import QueryScribe.Markup.Text
import QueryScribe.Proofs.Text.Chars

/-!
# Reading escaped text

In escaped text, four of the five characters with a meaning do not occur, and the fifth one only
begins entities. Such text is read in one pass: where an entity begins, its character is taken and
the pass goes on behind the entity. What was an entity before the text was escaped is not taken for
one, as its `&` has become an entity of its own.

Results:
1. `unescapeChars_entity`, `unescapeChars_cons`: one step of the pass.
2. `unescapeChars_escapeChars`: a text is read back.
3. `isEscaped_iff_exists`: what texts are written as when they are escaped.
4. `escapeChars_eq_self_iff`: the texts that need no entities.
5. `escape_lossless`: the same of whole texts.
-/

namespace QueryScribe.Markup

/-- The entities, each with the character that it stands for. -/
def entities : List (String × Char) :=
  [("&amp;", '&'), ("&lt;", '<'), ("&gt;", '>'), ("&quot;", '"'), ("&apos;", '\'')]

/-- Whether a text can stand in markup without being taken for anything else: every `&` begins one
of the entities, and the other characters with a meaning do not occur. -/
structure IsEscaped (cs : List Char) : Prop where
  quiet : ∀ c ∈ cs, c ∉ ['<', '>', '"', '\'']
  begins : ∀ rest, '&' :: rest <:+ cs → ∃ entity ∈ entities, entity.1.toList <+: '&' :: rest

/-- The characters that are written with entities. They are read once, from left to right. -/
def unescapeChars : List Char → List Char
  | '&' :: 'a' :: 'm' :: 'p' :: ';' :: cs => '&' :: unescapeChars cs
  | '&' :: 'l' :: 't' :: ';' :: cs => '<' :: unescapeChars cs
  | '&' :: 'g' :: 't' :: ';' :: cs => '>' :: unescapeChars cs
  | '&' :: 'q' :: 'u' :: 'o' :: 't' :: ';' :: cs => '"' :: unescapeChars cs
  | '&' :: 'a' :: 'p' :: 'o' :: 's' :: ';' :: cs => '\'' :: unescapeChars cs
  | c :: cs => c :: unescapeChars cs
  | [] => []

/-- The text that is written with entities. -/
def unescape (written : String) : String :=
  String.ofList (unescapeChars written.toList)

/-! ## 1. One step -/

namespace EscapingLemmas

variable {entity : String × Char} {c : Char} {cs rest : List Char}

theorem unescapeChars_entity (listed : entity ∈ entities) (cs : List Char) :
    unescapeChars (entity.1.toList ++ cs) = entity.2 :: unescapeChars cs := by
  simp only [entities, List.mem_cons, List.not_mem_nil, or_false] at listed
  rcases listed with rfl | rfl | rfl | rfl | rfl <;> rfl

theorem unescapeChars_cons (notAnd : c ≠ '&') (cs : List Char) :
    unescapeChars (c :: cs) = c :: unescapeChars cs := by
  rw [unescapeChars.eq_def]
  split <;> simp_all

/-- A character with a meaning is written as its entity. -/
theorem escapeChar_entity : ∀ entity ∈ entities, escapeChar entity.2 = entity.1.toList := by
  decide

/-- Any other character is written as it is. -/
theorem escapeChar_plain (plain : c ∉ ['&', '<', '>', '"', '\'']) : escapeChar c = [c] := by
  simp only [List.mem_cons, List.not_mem_nil, or_false, not_or] at plain
  rw [escapeChar, entity?.eq_def]
  split <;> simp_all

theorem entity_or_plain (c : Char) :
    (∃ entity ∈ entities, entity.2 = c) ∨ c ∉ ['&', '<', '>', '"', '\''] := by
  by_cases special : c ∈ entities.map Prod.snd
  · exact .inl (List.mem_map.mp special)
  · exact .inr special

theorem escapeChars_cons (c : Char) (cs : List Char) :
    escapeChars (c :: cs) = escapeChar c ++ escapeChars cs :=
  List.flatMap_cons

/-- An entity is longer than its character. -/
theorem one_lt_length_entity : ∀ entity ∈ entities, 1 < entity.1.toList.length := by
  decide

/-- An entity has its `&` in front and nowhere else. -/
theorem form_entity : ∀ entity ∈ entities, entity.1.toList.head? = some '&'
    ∧ '&' ∉ entity.1.toList.tail ∧ ∀ c ∈ entity.1.toList, c ∉ ['<', '>', '"', '\''] := by
  decide

end EscapingLemmas

open EscapingLemmas

/-! ## 2. There and back -/

/-- By induction on the text. The pass takes whatever the first character is written as in one step,
and goes on with what the next one is written as. -/
theorem unescapeChars_escapeChars (cs : List Char) : unescapeChars (escapeChars cs) = cs := by
  induction cs with
  | nil => rfl
  | cons c cs ih =>
    rw [escapeChars_cons]
    rcases entity_or_plain c with ⟨entity, listed, rfl⟩ | plain
    · rw [escapeChar_entity entity listed, unescapeChars_entity listed, ih]
    · have notAnd : c ≠ '&' := (List.ne_and_not_mem_of_not_mem_cons plain).1
      rw [escapeChar_plain plain, List.singleton_append, unescapeChars_cons notAnd, ih]

/-! ## 3. What is written -/

namespace EscapingLemmas

variable {entity : String × Char} {c : Char} {cs rest : List Char}

/-- Where a text does not have a character, nothing begins with that character. -/
theorem suffix_of_notMem {before : List Char} (absent : c ∉ before)
    (ends : c :: rest <:+ before ++ cs) : c :: rest <:+ cs := by
  induction before with
  | nil => exact ends
  | cons d before ih =>
    obtain ⟨here, later⟩ := List.ne_and_not_mem_of_not_mem_cons absent
    rw [List.cons_append, List.suffix_cons_iff] at ends
    rcases ends with whole | ends
    · exact absurd (List.cons.inj whole).1 here
    · exact ih later ends

theorem isEscaped_entity (listed : entity ∈ entities) (escaped : IsEscaped cs) :
    IsEscaped (entity.1.toList ++ cs) := by
  obtain ⟨first, absent, quiet⟩ := form_entity entity listed
  obtain ⟨name, chars⟩ := List.head?_eq_some_iff.mp first
  constructor
  · intro c mem
    rcases List.mem_append.mp mem with inside | behind
    · exact quiet c inside
    · exact escaped.quiet c behind
  · intro rest ends
    rw [chars, List.tail_cons] at absent
    rw [chars, List.cons_append, List.suffix_cons_iff] at ends
    rcases ends with whole | ends
    · refine ⟨entity, listed, ?_⟩
      rw [whole, chars]
      exact List.prefix_append ('&' :: name) cs
    · exact escaped.begins rest (suffix_of_notMem absent ends)

theorem isEscaped_plain (plain : c ∉ ['&', '<', '>', '"', '\'']) (escaped : IsEscaped cs) :
    IsEscaped (c :: cs) := by
  obtain ⟨notAnd, others⟩ := List.ne_and_not_mem_of_not_mem_cons plain
  constructor
  · exact List.forall_mem_cons.mpr ⟨others, escaped.quiet⟩
  · intro rest ends
    have absent : '&' ∉ [c] := fun mem => notAnd (List.mem_singleton.mp mem).symm
    exact escaped.begins rest (suffix_of_notMem absent ends)

theorem isEscaped_escapeChars (cs : List Char) : IsEscaped (escapeChars cs) := by
  induction cs with
  | nil => exact ⟨by simp [escapeChars], by simp [escapeChars]⟩
  | cons c cs ih =>
    rw [escapeChars_cons]
    rcases entity_or_plain c with ⟨entity, listed, rfl⟩ | plain
    · rw [escapeChar_entity entity listed]
      exact isEscaped_entity listed ih
    · rw [escapeChar_plain plain]
      exact isEscaped_plain plain ih

theorem isEscaped_of_suffix (escaped : IsEscaped cs) (ends : rest <:+ cs) : IsEscaped rest where
  quiet c mem := escaped.quiet c (ends.subset mem)
  begins later ends' := escaped.begins later (ends'.trans ends)

/-- By induction on the length, as an entity is written for one character. -/
theorem exists_of_isEscaped {cs : List Char} (escaped : IsEscaped cs) :
    ∃ text, escapeChars text = cs := by
  match cs with
  | [] => exact ⟨[], rfl⟩
  | c :: cs =>
    by_cases isAnd : c = '&'
    · subst isAnd
      obtain ⟨entity, listed, rest, whole⟩ := escaped.begins cs List.suffix_rfl
      have shorter : rest.length < ('&' :: cs).length := by
        have long := one_lt_length_entity entity listed
        rw [← whole, List.length_append]
        omega
      obtain ⟨text, written⟩ := exists_of_isEscaped (isEscaped_of_suffix escaped ⟨_, whole⟩)
      refine ⟨entity.2 :: text, ?_⟩
      rw [escapeChars_cons, escapeChar_entity entity listed, written, whole]
    · have plain : c ∉ ['&', '<', '>', '"', '\''] :=
        List.not_mem_cons_of_ne_of_not_mem isAnd (escaped.quiet c List.mem_cons_self)
      obtain ⟨text, written⟩ :=
        exists_of_isEscaped (isEscaped_of_suffix escaped (List.suffix_cons c cs))
      refine ⟨c :: text, ?_⟩
      rw [escapeChars_cons, escapeChar_plain plain, written, List.singleton_append]
termination_by cs.length
decreasing_by
  · exact shorter
  · exact Nat.lt_succ_self cs.length

end EscapingLemmas

/-- Escaped text is what some text is written as. -/
theorem isEscaped_iff_exists (cs : List Char) : IsEscaped cs ↔ ∃ text, escapeChars text = cs := by
  constructor
  · exact exists_of_isEscaped
  · rintro ⟨text, rfl⟩
    exact isEscaped_escapeChars text

/-! ## 4. Texts without entities -/

theorem length_le_escapeChars (cs : List Char) : cs.length ≤ (escapeChars cs).length := by
  induction cs with
  | nil => exact Nat.le_refl _
  | cons c cs ih =>
    rw [escapeChars_cons, List.length_append, List.length_cons]
    rcases entity_or_plain c with ⟨entity, listed, rfl⟩ | plain
    · have long := one_lt_length_entity entity listed
      rw [escapeChar_entity entity listed]
      omega
    · rw [escapeChar_plain plain, List.length_singleton]
      omega

/-- A text stays as it is when there is nothing to escape, as every entity makes it longer. -/
theorem escapeChars_eq_self_iff (cs : List Char) :
    escapeChars cs = cs ↔ ∀ c ∈ cs, c ∉ ['&', '<', '>', '"', '\''] := by
  induction cs with
  | nil => exact iff_of_true rfl (by simp)
  | cons c cs ih =>
    rw [escapeChars_cons, List.forall_mem_cons, ← ih]
    rcases entity_or_plain c with ⟨entity, listed, rfl⟩ | plain
    · have long := one_lt_length_entity entity listed
      have longer := length_le_escapeChars cs
      rw [escapeChar_entity entity listed]
      refine iff_of_false (fun same => ?_) (fun plain => ?_)
      · have lengths := congrArg List.length same
        rw [List.length_append, List.length_cons] at lengths
        omega
      · exact plain.1 (List.mem_map_of_mem (f := Prod.snd) listed)
    · rw [escapeChar_plain plain, List.singleton_append, List.cons_inj_right]
      exact (and_iff_right plain).symm

/-! ## 5. Whole texts -/

/-- Escaping leaves nothing in a text that could be taken for markup, and one pass over what is
written gives the text back. So different texts are written differently, and only those without the
five characters as they are. There is no other escaped text than what is written in this way. -/
theorem escape_lossless (s t : String) :
    IsEscaped (escape s).toList
      ∧ unescape (escape s) = s
      ∧ (escape s = escape t ↔ s = t)
      ∧ (escape s = s ↔ ∀ c ∈ s.toList, c ∉ ['&', '<', '>', '"', '\''])
      ∧ (IsEscaped t.toList ↔ escape (unescape t) = t) := by
  have back (text : String) : unescape (escape text) = text := by
    rw [unescape, escape, String.toList_ofList, unescapeChars_escapeChars, String.ofList_toList]
  have escaped (text : String) : IsEscaped (escape text).toList := by
    rw [escape, String.toList_ofList]
    exact isEscaped_escapeChars text.toList
  refine ⟨escaped s, back s, ⟨fun same => ?_, congrArg escape⟩, ?_,
    ⟨fun written => ?_, fun same => ?_⟩⟩
  · rw [← back s, same, back t]
  · rw [← String.toList_inj, escape, String.toList_ofList]
    exact escapeChars_eq_self_iff s.toList
  · obtain ⟨text, chars⟩ := (isEscaped_iff_exists t.toList).mp written
    obtain rfl : escape (String.ofList text) = t := by
      rw [← String.toList_inj, escape, String.toList_ofList, String.toList_ofList, chars]
    rw [back]
  · rw [← same]
    exact escaped (unescape t)

/-- Text that looks like an entity is read back as it was. -/
example : escape "a &lt; b" = "a &amp;lt; b" ∧ unescape "a &amp;lt; b" = "a &lt; b" := by decide

end QueryScribe.Markup
