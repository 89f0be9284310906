import QueryScribe.Java.Bean
import QueryScribe.Mapper.Column
import QueryScribe.Proofs.Text.Case

/-!
# Snake case

The names that are their own snake case are those of small characters only, which are the characters
that lowering leaves as they are. There is no ASCII capital among them, so that no underscore is put
in between. A capital in front of them is lowered again.

Results:
1. `mem_snakeChars`: where the characters of a column come from.
2. `snakeChars_of_small`, `snakeCase_eq_self_iff`: the names that stay as they are.
3. `snakeCase_normal`: columns are such names, and accessors of columns lead back to them.
-/

namespace QueryScribe.Mapper

open Text

/-! ## 1. The characters of a column -/

/-- Apart from underscores, snake case has what the characters of the name are lowered to. -/
theorem mem_snakeChars {afterSmall : Bool} {cs : List Char} {d : Char}
    (mem : d ∈ snakeChars afterSmall cs) : d = '_' ∨ ∃ c ∈ cs, d ∈ lowerChar c := by
  induction cs generalizing afterSmall with
  | nil => exact absurd mem List.not_mem_nil
  | cons c cs ih =>
    rw [snakeChars, List.append_assoc, List.mem_append, List.mem_append] at mem
    rcases mem with underscore | lowered | later
    · split at underscore
      · exact .inl (List.mem_singleton.mp underscore)
      · exact absurd underscore List.not_mem_nil
    · exact .inr ⟨c, List.mem_cons_self, lowered⟩
    · rcases ih later with underscore | ⟨other, listed, lowered⟩
      · exact .inl underscore
      · exact .inr ⟨other, List.mem_cons_of_mem c listed, lowered⟩

/-- Snake case has small characters only. -/
theorem small_of_mem_snakeChars {afterSmall : Bool} {cs : List Char} {d : Char}
    (mem : d ∈ snakeChars afterSmall cs) : lowerChar d = [d] := by
  rcases mem_snakeChars mem with rfl | ⟨c, _, lowered⟩
  · decide
  · exact lowerChar_of_mem_lowerChar lowered

/-! ## 2. Small names -/

/-- Where there are no capitals, it does not matter which characters are small ASCII letters. -/
theorem snakeChars_of_small {cs : List Char} (small : ∀ c ∈ cs, lowerChar c = [c])
    (afterSmall : Bool) : snakeChars afterSmall cs = cs := by
  induction cs generalizing afterSmall with
  | nil => rfl
  | cons c cs ih =>
    obtain ⟨first, others⟩ := List.forall_mem_cons.mp small
    rw [snakeChars, isAsciiUpper_of_small first, first, ih others, Bool.and_false]
    rfl

/-- In front of small characters, a first one is lowered and nothing else happens. -/
theorem snakeChars_cons_of_small (c : Char) {cs : List Char}
    (small : ∀ d ∈ cs, lowerChar d = [d]) : snakeChars false (c :: cs) = lowerChar c ++ cs := by
  rw [snakeChars, snakeChars_of_small small, Bool.false_and]
  rfl

theorem snakeCase_eq_self_iff (name : String) :
    snakeCase name = name ↔ ∀ c ∈ name.toList, lowerChar c = [c] := by
  rw [← String.toList_inj, snakeCase, String.toList_ofList]
  constructor
  · intro same c mem
    rw [← same] at mem
    exact small_of_mem_snakeChars mem
  · intro small
    exact snakeChars_of_small small false

/-! ## 3. Columns -/

/-- A capital of a small ASCII character is that character again when it is lowered. -/
theorem snakeChars_capitalizeChars {cs : List Char}
    (ascii : ∀ c, cs.head? = some c → c.toNat < 128) :
    snakeChars false (Java.capitalizeChars (snakeChars false cs)) = snakeChars false cs := by
  cases cs with
  | nil => rfl
  | cons c cs =>
    have ascii : c.toNat < 128 := ascii c rfl
    have small : lowerChar c = [asciiLower c] := by rw [lowerChar, if_pos ascii]
    have back := CaseLemmas.forall_ascii (fun c => upperChar (asciiLower c)
      = [asciiUpper (asciiLower c)] ∧ lowerChar (asciiUpper (asciiLower c)) = [asciiLower c])
      (by decide) ascii
    have front : snakeChars false (c :: cs) = asciiLower c :: snakeChars (isAsciiLower c) cs := by
      rw [snakeChars, small, Bool.false_and]
      rfl
    rw [front, Java.capitalizeChars, back.1, List.singleton_append,
      snakeChars_cons_of_small _ fun d mem => small_of_mem_snakeChars mem, back.2,
      List.singleton_append]

/-- A column is its own snake case and has no ASCII capitals. With its first character in capitals
it leads back to itself, as long as that character comes from ASCII. -/
theorem snakeCase_normal (name : String) :
    snakeCase (snakeCase name) = snakeCase name
      ∧ (∀ c ∈ (snakeCase name).toList, isAsciiUpper c = false)
      ∧ ((∀ c, name.toList.head? = some c → c.toNat < 128) →
        snakeCase (Java.capitalize (snakeCase name)) = snakeCase name) := by
  have small : ∀ c ∈ (snakeCase name).toList, lowerChar c = [c] := by
    rw [snakeCase, String.toList_ofList]
    exact fun c mem => small_of_mem_snakeChars mem
  refine ⟨(snakeCase_eq_self_iff _).mpr small, ?_, fun ascii => ?_⟩
  · exact fun c mem => isAsciiUpper_of_small (small c mem)
  · rw [snakeCase, Java.capitalize, snakeCase, String.toList_ofList, String.toList_ofList,
      snakeChars_capitalizeChars ascii]

/-- Beyond ASCII, a capital may be several letters long. -/
example : snakeCase (Java.capitalize (snakeCase "ßId")) = "ssid" := by decide +kernel

theorem customerColumn_normal :
    (∀ c, "KundeÄÖ\u0130D".toList.head? = some c → c.toNat < 128)
      ∧ snakeCase "KundeÄÖ\u0130D" = "kundeäöi\u0307d"
      ∧ snakeCase (Java.capitalize (snakeCase "KundeÄÖ\u0130D")) = snakeCase "KundeÄÖ\u0130D" := by
  have ascii : ∀ c, "KundeÄÖ\u0130D".toList.head? = some c → c.toNat < 128 := by
    rintro c first
    cases first
    decide
  exact ⟨ascii, by decide +kernel, (snakeCase_normal _).2.2 ascii⟩

end QueryScribe.Mapper
