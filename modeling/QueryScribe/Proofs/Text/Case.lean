import Mathlib.Data.List.Forall2
import QueryScribe.Proofs.Text.Chars

/-!
# Small letters

Lowering is done in one step: what a character is lowered to stays as it is when it is lowered
again. Only two characters beyond ASCII are lowered into it. The kelvin sign becomes a `k`, and the
dotted capital I an `i` with its dot as a mark of its own. All this is in the table of letter case,
which is checked run by run.

Results:
1. `lowered_lowerChar`: how a character is lowered.
2. `lowerChar_of_mem_lowerChar`: lowering again.
3. `lowerChar_eq_singleton_iff`, `lowerChars_eq_iff`: what is lowered to ASCII.
4. `eqIgnoringAsciiCase_iff`: texts that differ at most in the case of their ASCII letters.
-/

namespace QueryScribe.Text

/-! ## 1. Single characters -/

/-- How a character is lowered. What comes out beyond ASCII is small, but for the dot of the dotted
capital I. -/
inductive Lowered (c : Char) : List Char → Prop
  | ascii (ascii : c.toNat < 128) : Lowered c [asciiLower c]
  | dotted (same : c = '\u0130') : Lowered c ['i', '\u0307']
  | kelvin (same : c = '\u212A') : Lowered c ['k']
  | beyond {d : Char} (beyond : 128 ≤ c.toNat) (stays : 128 ≤ d.toNat)
      (small : lowerChar d = [d]) : Lowered c [d]

namespace CaseLemmas

/-- The kelvin sign, with `k` for its partner. -/
def kelvinRun : CaseRun :=
  ⟨8490, 8490, 1, -8383⟩

/-- The partners of a run's letters, as a run of their own. -/
def partners (run : CaseRun) : CaseRun :=
  ⟨run.partner run.first, run.partner run.last, run.step, 0⟩

/-- Whether two runs have nothing in common: either their spans are apart, or they go in steps of
two from numbers of different parity. A single letter has no steps that would count. -/
def isApart (run other : CaseRun) : Bool :=
  Nat.blt run.last other.first || Nat.blt other.last run.first
    || (run.step == 2 || run.first == run.last) && other.step == 2
      && (run.first + other.first) % 2 == 1

/-- Partners are beyond ASCII, and they are characters. -/
theorem lowerRuns_beyond : ∀ run ∈ lowerRuns, run = kelvinRun
    ∨ 128 ≤ run.first + run.offset ∧ (run.last + run.offset < 55296
      ∨ 57344 ≤ run.first + run.offset ∧ run.last + run.offset < 1114112) := by
  decide +kernel

/-- No partner is a letter of the table or the dotted capital I. -/
theorem isApart_lowerRuns :
    (lowerRuns.all fun run => (⟨304, 304, 1, 0⟩ :: lowerRuns).all (isApart (partners run)))
      = true := by
  decide +kernel

theorem toNat_lt_of_isAsciiUpper {c : Char} (capital : isAsciiUpper c = true) : c.toNat < 128 := by
  rw [isAsciiUpper, Bool.and_eq_true, decide_eq_true_eq, decide_eq_true_eq] at capital
  have last : c.toNat ≤ 'Z'.toNat := capital.2
  exact Nat.lt_of_le_of_lt last (by decide)

theorem covers_iff {run : CaseRun} {code : Nat} :
    run.covers code = true
      ↔ (run.first ≤ code ∧ code ≤ run.last) ∧ (code - run.first) % run.step = 0 := by
  simp [CaseRun.covers]

/-- A run that has nothing in common with the partners of another lists none of them. -/
theorem covers_partner {run other : CaseRun} (apart : isApart (partners run) other = true)
    (grows : 0 ≤ run.first + run.offset) {code : Nat} (covers : run.covers code = true) :
    other.covers (run.partner code) = false := by
  rw [Bool.eq_false_iff, ne_eq, covers_iff]
  rintro ⟨⟨first', last'⟩, steps'⟩
  obtain ⟨⟨first, last⟩, steps⟩ := covers_iff.mp covers
  simp only [isApart, partners, CaseRun.partner, Int.ofNat_eq_natCast, Bool.or_eq_true,
    Bool.and_eq_true, Nat.blt_eq, beq_iff_eq] at apart first' last' steps'
  rcases apart with (before | after) | ⟨⟨even | single, even'⟩, parity⟩
  · omega
  · omega
  · rw [even] at steps
    rw [even'] at steps'
    omega
  · have only : code = run.first := by omega
    rw [even', only] at steps'
    omega

theorem find_eq_none_iff {runs : List CaseRun} {code : Nat} :
    CaseRun.find runs code = none ↔ ∀ run ∈ runs, run.covers code = false := by
  simp [CaseRun.find]

/-- A partner that is a character beyond ASCII is small. -/
theorem lowerChar_partner {run : CaseRun} (listed : run ∈ lowerRuns) {code : Nat}
    (covers : run.covers code = true) (beyond : 128 ≤ run.partner code)
    (valid : (run.partner code).isValidChar) :
    lowerChar (Char.ofNat (run.partner code)) = [Char.ofNat (run.partner code)] := by
  have grows : 0 ≤ run.first + run.offset := by
    rcases lowerRuns_beyond run listed with rfl | ⟨grows, _⟩
    · decide
    · omega
  have apart : ∀ other ∈ (⟨304, 304, 1, 0⟩ : CaseRun) :: lowerRuns,
      other.covers (run.partner code) = false := by
    intro other mem
    have all := List.all_eq_true.mp (List.all_eq_true.mp isApart_lowerRuns run listed) other mem
    exact covers_partner all grows covers
  have undotted : Char.ofNat (run.partner code) ≠ '\u0130' := by
    intro same
    have dotted := apart _ List.mem_cons_self
    rw [← toNat_ofNat valid, same] at dotted
    exact absurd dotted (by decide)
  have unlisted : CaseRun.find lowerRuns (run.partner code) = none :=
    find_eq_none_iff.mpr fun other mem => apart other (List.mem_cons_of_mem _ mem)
  rw [lowerChar, toNat_ofNat valid, if_neg (by omega), if_neg undotted, unlisted]

end CaseLemmas

open CaseLemmas

theorem lowered_lowerChar (c : Char) : Lowered c (lowerChar c) := by
  by_cases ascii : c.toNat < 128
  · rw [lowerChar, if_pos ascii]
    exact .ascii ascii
  by_cases same : c = '\u0130'
  · rw [lowerChar, if_neg ascii, if_pos same]
    exact .dotted same
  have small := lowerChar.eq_def c
  rw [if_neg ascii, if_neg same] at small
  cases found : CaseRun.find lowerRuns c.toNat with
  | none =>
    rw [found] at small
    rw [small]
    exact .beyond (by omega) (by omega) small
  | some code =>
    rw [found] at small
    rw [small]
    obtain ⟨run, listed, covers, rfl⟩ := exists_run_of_find found
    obtain ⟨⟨first, last⟩, _⟩ := covers_iff.mp covers
    rcases lowerRuns_beyond run listed with rfl | ⟨beyond, span⟩
    · have code : c.toNat = 8490 := Nat.le_antisymm last first
      have kelvin : c = '\u212A' := Char.toNat_inj.mp code
      rw [kelvin]
      exact .kelvin rfl
    · have grown : 128 ≤ run.partner c.toNat := by
        simp only [CaseRun.partner, Int.ofNat_eq_natCast]
        omega
      have valid : (run.partner c.toNat).isValidChar := by
        simp only [Nat.isValidChar, CaseRun.partner, Int.ofNat_eq_natCast]
        omega
      have stays : 128 ≤ (Char.ofNat (run.partner c.toNat)).toNat := by rwa [toNat_ofNat valid]
      exact .beyond (by omega) stays (lowerChar_partner listed covers grown valid)

/-! ## 2. Lowering again -/

/-- Whatever a character is lowered to is lowered already. -/
theorem lowerChar_of_mem_lowerChar {c d : Char} (mem : d ∈ lowerChar c) : lowerChar d = [d] := by
  have lowered := lowered_lowerChar c
  generalize lowerChar c = small at mem lowered
  cases lowered with
  | ascii ascii =>
    rw [List.mem_singleton.mp mem]
    exact forall_ascii (fun c => lowerChar (asciiLower c) = [asciiLower c]) (by decide) ascii
  | dotted _ =>
    have stays : ∀ d ∈ ['i', '\u0307'], lowerChar d = [d] := by decide +kernel
    exact stays d mem
  | kelvin _ =>
    rw [List.mem_singleton.mp mem]
    decide
  | beyond _ _ small =>
    rw [List.mem_singleton.mp mem]
    exact small

/-- A capital is lowered to another letter. -/
theorem isAsciiUpper_of_small {c : Char} (small : lowerChar c = [c]) : isAsciiUpper c = false := by
  rw [Bool.eq_false_iff]
  intro capital
  have differs := forall_ascii (fun c => isAsciiUpper c = true → lowerChar c ≠ [c]) (by decide)
    (toNat_lt_of_isAsciiUpper capital)
  exact differs capital small

/-! ## 3. Into ASCII -/

theorem asciiLower_of_beyond {c : Char} (beyond : 128 ≤ c.toNat) : asciiLower c = c := by
  rw [asciiLower, if_neg]
  intro capital
  exact absurd (toNat_lt_of_isAsciiUpper capital) (Nat.not_lt.mpr beyond)

/-- Whether a character is a small ASCII letter or its capital. The kelvin sign is a capital of `k`. -/
def IsCaseOf (letter c : Char) : Prop :=
  asciiLower c = letter ∨ letter = 'k' ∧ c = '\u212A'

/-- No other character is lowered to a single ASCII character. -/
theorem lowerChar_eq_singleton_iff {a : Char} (ascii : a.toNat < 128) (c : Char) :
    lowerChar c = [a] ↔ IsCaseOf a c := by
  unfold IsCaseOf
  have lowered := lowered_lowerChar c
  generalize same : lowerChar c = small at lowered
  cases lowered with
  | ascii ascii' =>
    have noKelvin : c ≠ '\u212A' := by
      rintro rfl
      exact absurd ascii' (by decide)
    simp [noKelvin]
  | dotted dotted =>
    have stays : '\u0130' ≠ a := by
      rintro rfl
      exact absurd ascii (by decide)
    simp [dotted, asciiLower_of_beyond, stays]
  | kelvin kelvin =>
    have stays : '\u212A' ≠ a := by
      rintro rfl
      exact absurd ascii (by decide)
    simp [kelvin, asciiLower_of_beyond, stays, eq_comm]
  | @beyond d beyond stays small =>
    have apart : ∀ c : Char, 128 ≤ c.toNat → c ≠ a := by
      rintro c beyond rfl
      exact absurd ascii (Nat.not_lt.mpr beyond)
    have noKelvin : c ≠ '\u212A' := by
      rintro rfl
      have kelvin : lowerChar '\u212A' = ['k'] := by decide
      rw [kelvin, List.singleton_inj] at same
      exact absurd stays (same ▸ by decide)
    simp [asciiLower_of_beyond beyond, apart c beyond, apart d stays, noKelvin]

namespace CaseLemmas

/-- The form that a character takes in a lowered text. -/
def lowerHere (final : Bool) (c : Char) : List Char :=
  if c = 'Σ' then if final then ['ς'] else ['σ'] else lowerChar c

theorem lowerAfter_cons (before : List Char) (c : Char) (cs : List Char) :
    lowerAfter before (c :: cs)
      = lowerHere (meetsCased before && !meetsCased cs) c ++ lowerAfter (c :: before) cs :=
  rfl

/-- The forms of the small sigma are not ASCII. -/
theorem lowerHere_eq_singleton_iff {a : Char} (ascii : a.toNat < 128) (final : Bool) (c : Char) :
    lowerHere final c = [a] ↔ IsCaseOf a c := by
  rw [← lowerChar_eq_singleton_iff ascii, lowerHere]
  split
  · next sigma =>
    have small : lowerChar 'Σ' = ['σ'] := by decide +kernel
    have apart : 'σ' ≠ a ∧ 'ς' ≠ a := by
      constructor <;> rintro rfl <;> exact absurd ascii (by decide)
    cases final <;> simp [sigma, small, apart]
  · rfl

/-- What is lowered to more than one character, or none, is not lowered to ASCII. -/
theorem lowerHere_eq_singleton {final : Bool} {c : Char}
    (ascii : ∀ d ∈ lowerHere final c, d.toNat < 128) : ∃ d, lowerHere final c = [d] := by
  rw [lowerHere] at ascii ⊢
  split
  · cases final <;> exact ⟨_, rfl⟩
  · next notSigma =>
    rw [if_neg notSigma] at ascii
    have lowered := lowered_lowerChar c
    generalize lowerChar c = small at ascii lowered
    cases lowered with
    | ascii _ => exact ⟨_, rfl⟩
    | dotted _ => exact absurd (ascii '\u0307' (by simp)) (by decide)
    | kelvin _ => exact ⟨_, rfl⟩
    | beyond _ _ _ => exact ⟨_, rfl⟩

/-- By induction on the text. What is lowered in front of the rest begins the word, so that it is a
single character of it. -/
theorem lowerAfter_eq_iff {word : List Char} (ascii : ∀ a ∈ word, a.toNat < 128)
    (before cs : List Char) :
    lowerAfter before cs = word ↔ List.Forall₂ IsCaseOf word cs := by
  induction cs generalizing before word with
  | nil => cases word <;> simp [lowerAfter]
  | cons c cs ih =>
    rw [lowerAfter_cons, List.forall₂_cons_right_iff]
    constructor
    · rintro rfl
      obtain ⟨a, single⟩ := lowerHere_eq_singleton fun d mem =>
        ascii d (List.mem_append_left _ mem)
      rw [single, List.singleton_append] at ascii ⊢
      obtain ⟨first, others⟩ := List.forall_mem_cons.mp ascii
      exact ⟨a, _, (lowerHere_eq_singleton_iff first _ c).mp single, (ih others _).mp rfl, rfl⟩
    · rintro ⟨a, others, single, rest, rfl⟩
      obtain ⟨first, later⟩ := List.forall_mem_cons.mp ascii
      rw [(lowerHere_eq_singleton_iff first _ c).mpr single, (ih later _).mpr rest,
        List.singleton_append]

/-- What is lowered to ASCII is ASCII itself, apart from the kelvin sign. -/
theorem ascii_or_kelvin {letters cs : List Char} (ascii : ∀ letter ∈ letters, letter.toNat < 128)
    (related : List.Forall₂ IsCaseOf letters cs) : ∀ c ∈ cs, c.toNat < 128 ∨ c = '\u212A' := by
  induction related with
  | nil => simp
  | @cons letter c letters cs here _ ih =>
    obtain ⟨first, others⟩ := List.forall_mem_cons.mp ascii
    refine List.forall_mem_cons.mpr ⟨?_, ih others⟩
    rcases here with same | ⟨_, kelvin⟩
    · refine .inl (Nat.lt_of_not_le fun beyond => ?_)
      rw [← same, asciiLower_of_beyond beyond] at first
      exact absurd first (Nat.not_lt.mpr beyond)
    · exact .inr kelvin

end CaseLemmas

/-- A text is lowered to an ASCII text letter by letter. -/
theorem lowerChars_eq_iff {word : List Char} (ascii : ∀ a ∈ word, a.toNat < 128) (cs : List Char) :
    lowerChars cs = word ↔ List.Forall₂ IsCaseOf word cs :=
  lowerAfter_eq_iff ascii [] cs

/-! ## 4. The case of ASCII letters -/

theorem eqIgnoringAsciiCase_iff {s t : String} :
    eqIgnoringAsciiCase s t = true ↔ s.toList.map asciiLower = t.toList.map asciiLower :=
  beq_iff_eq

end QueryScribe.Text
