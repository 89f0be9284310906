import QueryScribe.Proofs.Content

/-!
# Characters of texts

What all characters of a text have in common is what all characters of its parts have in common.
Where a text was put together, a beginning, an end or a character takes it apart again.
Changing the case of a character gives word characters, if it changes anything: letters have
letters for partners. That is a property of the tables of letter case, which is checked run by run.

Results:
1. `forall_append`, `forall_intercalate`: the characters of a text that is put together.
2. `between_append`, `takeWhile_ne`: what stands between a beginning and an end, and in front of a
   character.
3. `isWordChar_upperChar`: capitals of word characters are word characters.
4. `eq_or_isWordChar_of_mem_lowerChar`: lowering leaves a character as it is or gives word
   characters.
-/

namespace QueryScribe.Text

/-! ## 1. Texts put together -/

/-- Characters are finitely many, but too many to try them all where only those of a text count. -/
instance (priority := 2000) decidableForallMem {p : Char → Prop} [DecidablePred p]
    (cs : List Char) : Decidable (∀ c ∈ cs, p c) :=
  List.decidableBAll p cs

section Together

variable {p : Char → Prop}

theorem forall_append {s t : String} (first : ∀ c ∈ s.toList, p c)
    (second : ∀ c ∈ t.toList, p c) : ∀ c ∈ (s ++ t).toList, p c := by
  intro c mem
  rw [String.toList_append] at mem
  rcases List.mem_append.mp mem with mem | mem
  · exact first c mem
  · exact second c mem

theorem forall_intercalate {separator : String} (between : ∀ c ∈ separator.toList, p c)
    {parts : List String} (all : ∀ part ∈ parts, ∀ c ∈ part.toList, p c) :
    ∀ c ∈ (separator.intercalate parts).toList, p c := by
  induction parts with
  | nil => exact fun c mem => absurd mem List.not_mem_nil
  | cons first others ih =>
    have here := all first (by simp)
    have rest := ih fun part mem => all part (List.mem_cons_of_mem _ mem)
    cases others with
    | nil => rwa [String.intercalate_singleton]
    | cons second others =>
      rw [String.intercalate_cons_cons]
      exact forall_append (forall_append here between) rest

end Together

/-! ## 2. Texts taken apart -/

/-- What follows a beginning. -/
def afterStart : (start cs : List Char) → Option (List Char)
  | [], cs => some cs
  | _ :: _, [] => none
  | c :: start, d :: cs => if c = d then afterStart start cs else none

/-- What stands between a beginning and an end. -/
def between (start stop : String) (cs : List Char) : Option (List Char) := do
  let rest ← afterStart start.toList cs
  let middle ← afterStart stop.toList.reverse rest.reverse
  return middle.reverse

theorem afterStart_append (start cs : List Char) : afterStart start (start ++ cs) = some cs := by
  induction start with
  | nil => rfl
  | cons c start ih => rw [List.cons_append, afterStart, if_pos rfl, ih]

theorem between_append (start stop : String) (cs : List Char) :
    between start stop (start.toList ++ cs ++ stop.toList) = some cs := by
  rw [between, List.append_assoc, afterStart_append]
  simp [List.reverse_append, afterStart_append]

/-- The first character of another kind ends what stands in front of it. -/
theorem takeWhile_append_stop {p : Char → Bool} {cs : List Char} (all : ∀ c ∈ cs, p c = true)
    (stop : Char) (fails : p stop = false) (rest : List Char) :
    (cs ++ stop :: rest).takeWhile p = cs ∧ (cs ++ stop :: rest).dropWhile p = stop :: rest := by
  rw [List.takeWhile_append_of_pos all, List.dropWhile_append_of_pos all]
  simp [fails]

/-- A character that does not occur before ends what stands in front of it. -/
theorem takeWhile_ne {stop : Char} {cs : List Char} (notMem : stop ∉ cs) (rest : List Char) :
    (cs ++ stop :: rest).takeWhile (· ≠ stop) = cs
      ∧ (cs ++ stop :: rest).dropWhile (· ≠ stop) = stop :: rest := by
  refine takeWhile_append_stop (fun c mem => ?_) stop (by simp) rest
  exact decide_eq_true fun (same : c = stop) => notMem (same ▸ mem)

/-! ## Runs of letters -/

namespace CaseLemmas

/-- Whether the partners of a run's letters are word characters: letters beyond ASCII that exist, or
a single letter at most. -/
def keepsWords (run : CaseRun) : Bool :=
  (128 ≤ Int.ofNat run.first + run.offset && Int.ofNat run.last + run.offset < 55296)
    || (57344 ≤ Int.ofNat run.first + run.offset && Int.ofNat run.last + run.offset < 1114112)
    || (run.first = run.last && isWordChar (Char.ofNat (run.partner run.first)))

theorem keepsWords_upperRuns : ∀ run ∈ upperRuns, keepsWords run = true := by
  decide +kernel

theorem keepsWords_lowerRuns : ∀ run ∈ lowerRuns, keepsWords run = true := by
  decide +kernel

theorem isWordChar_longUppers :
    ∀ entry ∈ longUppers, ∀ code ∈ entry.2, isWordChar (Char.ofNat code) = true := by
  decide +kernel

/-- What holds of all ASCII characters, as they are few enough to be tried. -/
theorem forall_ascii (p : Char → Prop) (all : ∀ code < 128, p (Char.ofNat code)) {c : Char}
    (ascii : c.toNat < 128) : p c := by
  have here := all c.toNat ascii
  rwa [Char.ofNat_toNat] at here

theorem toNat_ofNat {code : Nat} (valid : code.isValidChar) : (Char.ofNat code).toNat = code := by
  rw [Char.ofNat, dif_pos valid]
  rfl

theorem isWordChar_ofNat {code : Nat} (beyond : 128 ≤ code) (valid : code.isValidChar) :
    isWordChar (Char.ofNat code) = true := by
  simp [isWordChar, toNat_ofNat valid, beyond]

theorem isWordChar_partner {run : CaseRun} (keeps : keepsWords run = true) {code : Nat}
    (covers : run.covers code = true) : isWordChar (Char.ofNat (run.partner code)) = true := by
  obtain ⟨⟨first, last⟩, _⟩ : (run.first ≤ code ∧ code ≤ run.last) ∧ _ := by
    simpa [CaseRun.covers] using covers
  simp only [keepsWords, Bool.or_eq_true, Bool.and_eq_true, decide_eq_true_eq] at keeps
  rcases keeps with (below | above) | ⟨single, isWord⟩
  · refine isWordChar_ofNat ?_ (Or.inl ?_) <;>
      simp only [CaseRun.partner, Int.ofNat_eq_natCast] at * <;> omega
  · refine isWordChar_ofNat ?_ (Or.inr ?_) <;>
      simp only [CaseRun.partner, Int.ofNat_eq_natCast] at * <;> omega
  -- Where a run leaves the letters beyond ASCII, it has a single letter.
  · rwa [show code = run.first by omega]

/-- A partner is found in a run that lists the code point. -/
theorem exists_run_of_find {runs : List CaseRun} {code partner : Nat}
    (found : CaseRun.find runs code = some partner) :
    ∃ run ∈ runs, run.covers code = true ∧ run.partner code = partner := by
  obtain ⟨run, first, same⟩ := Option.map_eq_some_iff.mp found
  have covers : run.covers code = true := by simpa using List.find?_some first
  exact ⟨run, List.mem_of_find?_eq_some first, covers, same⟩

theorem isWordChar_of_find {runs : List CaseRun} (keeps : ∀ run ∈ runs, keepsWords run = true)
    {code partner : Nat} (found : CaseRun.find runs code = some partner) :
    isWordChar (Char.ofNat partner) = true := by
  obtain ⟨run, listed, covers, rfl⟩ := exists_run_of_find found
  exact isWordChar_partner (keeps run listed) covers

theorem isWordChar_asciiUpper :
    ∀ code < 128, isWordChar (Char.ofNat code) = true →
      isWordChar (asciiUpper (Char.ofNat code)) = true := by
  decide +kernel

theorem eq_or_isWordChar_asciiLower :
    ∀ code < 128, asciiLower (Char.ofNat code) = Char.ofNat code
      ∨ isWordChar (asciiLower (Char.ofNat code)) = true := by
  decide +kernel

end CaseLemmas

open CaseLemmas

/-! ## 3. Capitals and small letters -/

/-- Capitals of word characters are word characters. -/
theorem isWordChar_upperChar {c : Char} (isWord : isWordChar c = true) :
    ∀ d ∈ upperChar c, isWordChar d = true := by
  intro d mem
  rw [upperChar] at mem
  split at mem
  · next ascii =>
    rw [List.mem_singleton.mp mem]
    exact forall_ascii (fun c => isWordChar c = true → isWordChar (asciiUpper c) = true)
      isWordChar_asciiUpper ascii isWord
  · split at mem
    · next codes found =>
      obtain ⟨before, after, entries, _⟩ := List.lookup_eq_some_iff.mp found
      obtain ⟨code, listed, rfl⟩ := List.mem_map.mp mem
      exact isWordChar_longUppers (c.toNat, codes) (by simp [entries]) code listed
    · split at mem
      · next code found =>
        rw [List.mem_singleton.mp mem]
        exact isWordChar_of_find keepsWords_upperRuns found
      · rwa [List.mem_singleton.mp mem]

/-- Lowering leaves a character as it is or gives word characters. -/
theorem eq_or_isWordChar_of_mem_lowerChar {c d : Char} (mem : d ∈ lowerChar c) :
    d = c ∨ isWordChar d = true := by
  rw [lowerChar] at mem
  split at mem
  · next ascii =>
    rw [List.mem_singleton.mp mem]
    exact forall_ascii (fun c => asciiLower c = c ∨ isWordChar (asciiLower c) = true)
      eq_or_isWordChar_asciiLower ascii
  · split at mem
    · have marked : ∀ d ∈ ['i', '\u0307'], isWordChar d = true := by decide
      exact .inr (marked d mem)
    · split at mem
      · next code found =>
        rw [List.mem_singleton.mp mem]
        exact .inr (isWordChar_of_find keepsWords_lowerRuns found)
      · exact .inl (List.mem_singleton.mp mem)

theorem lowerChar_ne_nil (c : Char) : lowerChar c ≠ [] := by
  rw [lowerChar]
  split
  · exact List.cons_ne_nil _ _
  split
  · exact List.cons_ne_nil _ _
  split <;> exact List.cons_ne_nil _ _

end QueryScribe.Text
