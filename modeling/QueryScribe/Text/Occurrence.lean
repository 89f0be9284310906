/-!
# Occurrences of a text in another

`occurs_iff` says what the search finds: the text in between some beginning and some end.
`occurs_append_cons` says that nothing is found across a character that the text does not have.
-/

namespace QueryScribe.Text

/-- Whether a text stands somewhere in another. -/
def occurs (part : List Char) : List Char → Bool
  | [] => part.isEmpty
  | c :: cs => part.isPrefixOf (c :: cs) || occurs part cs

theorem occurs_iff {part whole : List Char} :
    occurs part whole = true ↔ ∃ before after, whole = before ++ part ++ after := by
  induction whole with
  | nil => simp [occurs]
  | cons c cs ih =>
    simp only [occurs, Bool.or_eq_true, List.isPrefixOf_iff_prefix, ih]
    constructor
    · rintro (⟨after, h⟩ | ⟨before, after, h⟩)
      · exact ⟨[], after, by simp [← h]⟩
      · exact ⟨c :: before, after, by simp [h]⟩
    · rintro ⟨before, after, h⟩
      cases before with
      | nil => exact .inl ⟨after, by simpa using h.symm⟩
      | cons d before =>
        simp only [List.cons_append, List.cons.injEq] at h
        exact .inr ⟨before, after, h.2⟩

theorem isPrefixOf_append_cons {c : Char} {part : List Char} (absent : c ∉ part)
    (before after : List Char) :
    part.isPrefixOf (before ++ c :: after) = part.isPrefixOf before := by
  induction part generalizing before with
  | nil => simp
  | cons d part ih =>
    have rest : c ∉ part := fun mem => absent (List.mem_cons_of_mem _ mem)
    cases before with
    | nil =>
      have differ : d ≠ c := fun same => absent (same ▸ List.mem_cons_self)
      simp [List.isPrefixOf, differ]
    | cons e before => simp [List.isPrefixOf, ih rest before]

/-- A text that does not have a character stands on one side of it. -/
theorem occurs_append_cons {c : Char} {part : List Char} (absent : c ∉ part)
    (before after : List Char) :
    occurs part (before ++ c :: after) = (occurs part before || occurs part after) := by
  induction before with
  | nil =>
    have front := isPrefixOf_append_cons absent [] after
    rw [List.nil_append] at front ⊢
    rw [occurs, occurs, front]
    cases part <;> rfl
  | cons e before ih =>
    have front := isPrefixOf_append_cons absent (e :: before) after
    rw [List.cons_append] at front ⊢
    rw [occurs, occurs, ih, front, Bool.or_assoc]

end QueryScribe.Text
