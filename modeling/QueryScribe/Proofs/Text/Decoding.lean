import QueryScribe.Proofs.Text.Chars

/-!
# Texts that tell

A text that is put together tells what it was made from as long as no part of it can be mistaken for
another one: a word ends at a character that it does not have, what is written from a table is no
beginning of anything else in the table, and a list ends where something stands that is no item.
Here a text tells a key of a value when it can be told from the front, whatever follows it.

Results:
1. `Tells.ofTable`, `Tells.word`: single parts tell what they are written for.
2. `Tells.append`, `Tells.list`: parts one after the other tell what each of them tells.
3. `Tells.comap`, `Tells.tell`: what is told of other values, and by other keys.
4. `map_pair_eq_iff`, `intercalate_cons_eq`, `join_flatMap`: how lists of parts are taken apart.
-/

namespace QueryScribe.Text

/-- Whether what is written for values tells a key of theirs. Texts that begin in this way are the
same exactly if the keys are the same, and what follows is. -/
def Tells (ok : α → Prop) (write : α → String) (key : α → κ) : Prop :=
  ∀ ⦃x y⦄, ok x → ok y → ∀ r s, write x ++ r = write y ++ s ↔ key x = key y ∧ r = s

/-- Whether texts that begin differently stay different, whatever follows. -/
def Apart (first second : String) : Prop :=
  ∀ r s, first ++ r ≠ second ++ s

namespace Apart

/-- Neither text is a beginning of the other one. -/
theorem of_neither {first second : String} (left : ¬ first.toList <+: second.toList)
    (right : ¬ second.toList <+: first.toList) : Apart first second := by
  intro r s same
  have chars := congrArg String.toList same
  rw [String.toList_append, String.toList_append] at chars
  rcases List.prefix_or_prefix_of_prefix (List.prefix_append _ _)
    (chars ▸ List.prefix_append second.toList s.toList) with here | here
  · exact left here
  · exact right here

theorem symm {first second : String} (apart : Apart first second) : Apart second first :=
  fun r s same => apart s r same.symm

theorem append_left {first second : String} (apart : Apart first second) (r : String) :
    Apart (first ++ r) second := by
  intro t u same
  rw [String.append_assoc] at same
  exact apart _ _ same

theorem append_right {first second : String} (apart : Apart first second) (s : String) :
    Apart first (second ++ s) := by
  intro t u same
  rw [String.append_assoc] at same
  exact apart _ _ same

end Apart

namespace Tells

variable {α β κ μ : Type} {ok : α → Prop} {write : α → String} {key : α → κ}

/-- Where nothing follows, the texts are the same exactly if the keys are. -/
theorem eq_iff (tells : Tells ok write key) {x y : α} (okX : ok x) (okY : ok y) :
    write x = write y ↔ key x = key y := by
  rw [← String.append_left_inj "", tells okX okY]
  exact and_iff_left rfl

/-! ## 1. Single parts -/

/-- Texts from a table tell their entries when none of them begins another one. -/
theorem ofTable {table : κ → String}
    (free : ∀ a b, (table a).toList <+: (table b).toList → a = b) (entry : α → κ) :
    Tells ok (fun x => table (entry x)) entry := by
  intro x y _ _ r s
  dsimp only
  generalize entry x = a, entry y = b
  constructor
  · intro same
    by_cases equal : a = b
    · subst equal
      exact ⟨rfl, (String.append_right_inj _).mp same⟩
    · exact absurd same (Apart.of_neither (fun here => equal (free a b here))
        (fun here => equal (free b a here).symm) r s)
  · rintro ⟨rfl, rfl⟩
    rfl

/-- A word ends at a character that it does not have. -/
theorem word {word : α → String} {stop : String} {c : Char} (begins : stop.toList.head? = some c)
    (absent : ∀ x, ok x → c ∉ (word x).toList) : Tells ok (fun x => word x ++ stop) word := by
  intro x y okX okY r s
  obtain ⟨more, chars⟩ := List.head?_eq_some_iff.mp begins
  constructor
  · intro same
    have whole := congrArg String.toList same
    simp only [String.toList_append, List.append_assoc, chars, List.cons_append] at whole
    -- Up to its stop, the text has one word only.
    obtain ⟨wordX, restX⟩ := takeWhile_ne (absent x okX) (more ++ r.toList)
    obtain ⟨wordY, restY⟩ := takeWhile_ne (absent y okY) (more ++ s.toList)
    rw [whole] at wordX restX
    have rests := (List.cons.inj (restX.symm.trans restY)).2
    exact ⟨String.toList_injective (wordX.symm.trans wordY),
      String.toList_injective (List.append_cancel_left rests)⟩
  · rintro ⟨equal, rfl⟩
    dsimp only
    rw [equal]

/-! ## 2. Parts together -/

/-- What is always the same tells nothing. -/
theorem constant (text : String) : Tells ok (fun _ => text) (fun _ => ()) := by
  intro x y _ _ r s
  simp

/-- What is always written first changes nothing. -/
theorem after (start : String) (tells : Tells ok write key) :
    Tells ok (fun x => start ++ write x) key := by
  intro x y okX okY r s
  rw [String.append_assoc, String.append_assoc, String.append_right_inj]
  exact tells okX okY r s

/-- What depends on the key only can follow. -/
theorem before (tells : Tells ok write key) (more : α → String)
    (determined : ∀ x y, key x = key y → more x = more y) :
    Tells ok (fun x => write x ++ more x) key := by
  intro x y okX okY r s
  rw [String.append_assoc, String.append_assoc, tells okX okY]
  refine and_congr_right fun same => ?_
  rw [determined x y same, String.append_right_inj]

/-- Parts one after the other tell what each of them tells. -/
theorem append {write' : α → String} {key' : α → μ} (first : Tells ok write key)
    (second : Tells ok write' key') :
    Tells ok (fun x => write x ++ write' x) (fun x => (key x, key' x)) := by
  intro x y okX okY r s
  rw [String.append_assoc, String.append_assoc, first okX okY, second okX okY, Prod.mk.injEq,
    and_assoc]

/-- The items of a list are told from each other and from what follows the list. The proof takes
both lists apart together; if one of them ends first, what follows it would begin like an item. -/
theorem list {ok' : β → Prop} {rest : β → String} {key' : β → μ} (item : Tells ok write key)
    (items : β → List α) (all : ∀ x, ok' x → ∀ one ∈ items x, ok one) (last : Tells ok' rest key')
    (apart : ∀ one x, ok one → ok' x → Apart (write one) (rest x)) :
    Tells ok' (fun x => String.join ((items x).map write) ++ rest x)
      (fun x => ((items x).map key, key' x)) := by
  intro x y okX okY r s
  have allX := all x okX
  have allY := all y okY
  rw [Prod.mk.injEq]
  dsimp only
  generalize items x = xs, items y = ys at allX allY ⊢
  induction xs generalizing ys with
  | nil =>
    cases ys with
    | nil => simpa using last okX okY r s
    | cons other ys =>
      refine iff_of_false (fun same => ?_) (by simp)
      simp only [List.map_nil, List.map_cons, String.join_nil, String.join_cons,
        String.append_assoc, String.empty_append] at same
      exact apart other x (allY other (by simp)) okX _ _ same.symm
  | cons one xs ih =>
    have okOne := allX one (by simp)
    cases ys with
    | nil =>
      refine iff_of_false (fun same => ?_) (by simp)
      simp only [List.map_nil, List.map_cons, String.join_nil, String.join_cons,
        String.append_assoc, String.empty_append] at same
      exact apart one y okOne okY _ _ same
    | cons other ys =>
      have others := ih ys (fun two mem => allX two (List.mem_cons_of_mem _ mem))
        (fun two mem => allY two (List.mem_cons_of_mem _ mem))
      simp only [List.map_cons, String.join_cons, String.append_assoc, List.cons.injEq,
        and_assoc] at others ⊢
      rw [item okOne (allY other (by simp))]
      exact and_congr_right fun _ => others

/-! ## 3. Other values and keys -/

/-- What is written for something that belongs to a value. -/
theorem comap {ok' : β → Prop} (tells : Tells ok write key) (part : β → α)
    (all : ∀ x, ok' x → ok (part x)) :
    Tells ok' (fun x => write (part x)) (fun x => key (part x)) :=
  fun x y okX okY => tells (all x okX) (all y okY)

/-- The same texts tell the same. -/
theorem congr {write' : α → String} (tells : Tells ok write key)
    (same : ∀ x, ok x → write' x = write x) : Tells ok write' key := by
  intro x y okX okY r s
  rw [same x okX, same y okY]
  exact tells okX okY r s

/-- A text that tells a key tells every key that comes to the same. -/
theorem tell {key' : α → μ} (tells : Tells ok write key)
    (same : ∀ x y, key x = key y ↔ key' x = key' y) : Tells ok write key' := by
  intro x y okX okY r s
  rw [tells okX okY, same]

end Tells

/-! ## 4. Lists of parts -/

/-- Lists of pairs agree exactly if both of their sides do. -/
theorem map_pair_eq_iff (f : α → β) (g : α → γ) (xs ys : List α) :
    xs.map (fun x => (f x, g x)) = ys.map (fun x => (f x, g x))
      ↔ xs.map f = ys.map f ∧ xs.map g = ys.map g := by
  rw [← List.zip_map', ← List.zip_map']
  constructor
  · intro same
    have left := congrArg (List.map Prod.fst) same
    have right := congrArg (List.map Prod.snd) same
    rw [List.map_fst_zip (by simp), List.map_fst_zip (by simp)] at left
    rw [List.map_snd_zip (by simp), List.map_snd_zip (by simp)] at right
    exact ⟨left, right⟩
  · rintro ⟨left, right⟩
    rw [left, right]

/-- A list with separators is its first part, and every other one behind a separator. -/
theorem intercalate_cons_eq (separator first : String) (others : List String) :
    separator.intercalate (first :: others)
      = first ++ String.join (others.map (separator ++ ·)) := by
  induction others generalizing first with
  | nil => simp
  | cons second others ih =>
    rw [String.intercalate_cons_cons, ih, List.map_cons, String.join_cons]
    simp only [String.append_assoc]

/-- Parts in groups are written as the parts of each group. -/
theorem join_flatMap (parts : α → List String) (xs : List α) :
    String.join (xs.flatMap parts) = String.join (xs.map fun x => String.join (parts x)) := by
  apply String.toList_injective
  simp [List.flatMap_map, List.flatMap_assoc]

end QueryScribe.Text
