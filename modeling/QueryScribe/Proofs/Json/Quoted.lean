import QueryScribe.Json.Quoted

/-!
# Reading written strings

Every character is written as one piece, whether it is escaped or not. Control characters without a
short escape come back as units, none of which is half of a surrogate pair.

Results:
1. `escapeChar_piece`: each character is read back as a piece of its own.
2. `readString_escaped`: a written string is read back, in front of anything.
-/

namespace QueryScribe.Json

open Text (hexDigit hexValue? hexValue?_hexDigit)

/-! ## 1. Characters -/

/-- Whether a piece is what the characters begin with, and stands for the character. -/
structure IsPiece (written : List Char) (piece : Piece) (c : Char) : Prop where
  reads : ∀ cs, readPieces (written ++ cs)
    = (readPieces cs).map fun (pieces, rest) => (piece :: pieces, rest)
  means : ∀ pieces, charsOfPieces (piece :: pieces) = (charsOfPieces pieces).map (c :: ·)

namespace QuotedLemmas

theorem isPiece_plain {c : Char} (notQuote : c ≠ '"') (notEscape : c ≠ '\\')
    (visible : ¬ c.toNat < 32) : IsPiece [c] (.char c) c where
  reads cs := by
    rw [List.singleton_append, readPieces.eq_def]
    split
    · next heq => exact absurd heq (List.cons_ne_nil _ _)
    · next heq => exact absurd (List.cons.inj heq).1 notQuote
    · next heq => exact absurd (List.cons.inj heq).1 notEscape
    · next heq => exact absurd (List.cons.inj heq).1 notEscape
    · next heq =>
      obtain ⟨rfl, rfl⟩ := List.cons.inj heq
      rw [if_neg (by simp [notEscape, visible])]
      cases readPieces cs <;> rfl
  means _ := rfl

theorem isPiece_short {e c : Char} (found : shortEscape? e = some c) :
    IsPiece ['\\', e] (.char c) c where
  reads cs := by
    have notUnit : e ≠ 'u' := by
      rintro rfl
      simp [shortEscape?] at found
    rw [List.cons_append, List.singleton_append, readPieces.eq_def]
    split
    · next heq => exact absurd heq (List.cons_ne_nil _ _)
    · next heq => exact absurd (List.cons.inj heq).1 (by decide)
    · next heq => exact absurd (List.cons.inj (List.cons.inj heq).2).1 notUnit
    · next heq =>
      obtain ⟨rfl, rfl⟩ := List.cons.inj (List.cons.inj heq).2
      rw [found]
      cases readPieces cs <;> rfl
    · next noEscape heq =>
      obtain ⟨start, more⟩ := List.cons.inj heq
      exact absurd more.symm (noEscape e cs start.symm)
  means _ := rfl

theorem hexValue4?_hexDigit {n : Nat} (h : n < 32) :
    hexValue4? '0' '0' (hexDigit (n / 16)) (hexDigit (n % 16)) = some n := by
  rw [hexValue4?, hexValue?_hexDigit (by omega), hexValue?_hexDigit (by omega),
    show hexValue? '0' = some 0 from by decide]
  exact congrArg some (by omega)

/-- A unit that is not half of a surrogate pair stands for a character of its own. -/
theorem isPiece_unit {a b c d : Char} {code : Nat} (hex : hexValue4? a b c d = some code)
    (notHigh : isHighSurrogate code = false) (notLow : isLowSurrogate code = false) :
    IsPiece ['\\', 'u', a, b, c, d] (.unit code) (Char.ofNat code) where
  reads cs := by
    simp only [List.cons_append, List.nil_append]
    rw [readPieces, hex]
    cases readPieces cs <;> rfl
  means pieces := by
    match pieces with
    | [] => simp [charsOfPieces, notHigh, notLow]
    | .char _ :: _ => simp [charsOfPieces, notHigh, notLow]
    | .unit _ :: _ =>
      rw [charsOfPieces]
      simp [notHigh, notLow]

theorem isPiece_control {c : Char} (control : c.toNat < 32) :
    IsPiece ['\\', 'u', '0', '0', hexDigit (c.toNat / 16), hexDigit (c.toNat % 16)]
      (.unit c.toNat) c := by
  -- A control character lies far below the surrogates.
  have notHigh : isHighSurrogate c.toNat = false := by simp [isHighSurrogate]; omega
  have notLow : isLowSurrogate c.toNat = false := by simp [isLowSurrogate]; omega
  have piece := isPiece_unit (hexValue4?_hexDigit control) notHigh notLow
  rwa [Char.ofNat_toNat] at piece

end QuotedLemmas

open QuotedLemmas

/-- A written character is read back as a piece that stands for it. -/
theorem escapeChar_piece (c : Char) : ∃ piece, IsPiece (escapeChar c) piece c := by
  unfold escapeChar
  split
  · exact ⟨_, isPiece_short rfl⟩
  · exact ⟨_, isPiece_short rfl⟩
  · exact ⟨_, isPiece_short rfl⟩
  · exact ⟨_, isPiece_short rfl⟩
  · exact ⟨_, isPiece_short rfl⟩
  · exact ⟨_, isPiece_short rfl⟩
  · exact ⟨_, isPiece_short rfl⟩
  · next notQuote notEscape _ _ _ _ _ =>
    split
    · next control => exact ⟨_, isPiece_control control⟩
    · next visible => exact ⟨_, isPiece_plain notQuote notEscape visible⟩

/-! ## 2. Strings -/

/-- A piece in front of a string brings its character. -/
theorem IsPiece.readPieces_append {written cs content rest : List Char} {piece : Piece} {c : Char}
    (isPiece : IsPiece written piece c)
    (later : ∃ pieces, readPieces cs = some (pieces, rest) ∧ charsOfPieces pieces = some content) :
    ∃ pieces, readPieces (written ++ cs) = some (pieces, rest)
      ∧ charsOfPieces pieces = some (c :: content) := by
  obtain ⟨pieces, read, means⟩ := later
  refine ⟨piece :: pieces, ?_, ?_⟩
  · rw [isPiece.reads, read]
    rfl
  · rw [isPiece.means, means]
    rfl

/-- By induction on the characters, each of which brings its piece. -/
theorem readPieces_escaped (cs rest : List Char) :
    ∃ pieces, readPieces (cs.flatMap escapeChar ++ '"' :: rest) = some (pieces, rest)
      ∧ charsOfPieces pieces = some cs := by
  induction cs with
  | nil => exact ⟨[], rfl, rfl⟩
  | cons c cs ih =>
    obtain ⟨piece, isPiece⟩ := escapeChar_piece c
    rw [List.flatMap_cons, List.append_assoc]
    exact isPiece.readPieces_append ih

/-- A written string is read back, in front of anything. -/
theorem readString_escaped (s : String) (rest : List Char) :
    readString (s.toList.flatMap escapeChar ++ '"' :: rest) = some (some s, rest) := by
  obtain ⟨pieces, read, means⟩ := readPieces_escaped s.toList rest
  rw [readString, read]
  simp [means]

end QueryScribe.Json
