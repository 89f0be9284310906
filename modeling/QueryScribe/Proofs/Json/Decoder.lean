import QueryScribe.Json.Decoder
import QueryScribe.Proofs.Json.Writer

/-!
# Decoding what was encoded

An encoding is faithful to a decoder when every text it writes is read as a value that the decoder
takes for the same thing. Faithfulness goes from the parts of a record to the record, slot by slot
and in the order of the slots.

Results:
1. `faithful_string`, `faithful_variants`, `faithful_list`: strings, variants and lists.
2. `faithful_record`: a record whose members are written for its slots in order.
3. `decodeText_encode`, `injective_encode`: a faithful encoding is undone by its decoder.
-/

namespace QueryScribe.Json

/-- Whether everything that is encoded is decoded to itself. -/
def Faithful (encode : α → String) (decode : Decoder α) : Prop :=
  ∀ x, ∃ value, Spells (encode x).toList value ∧ decode value = .ok x

variable {encode : α → String} {decode : Decoder α}

/-! ## 1. Plain values -/

theorem faithful_string : Faithful quote decodeString :=
  fun s => ⟨_, spells_quote s, rfl⟩

/-- Variants may have more spellings than the one that is written. -/
theorem faithful_variants {variants : List (String × α)} {spelling : α → String}
    (listed : ∀ x, variants.lookup (spelling x) = some x) :
    Faithful (fun x => quote (spelling x)) (decodeVariants variants) := by
  refine fun x => ⟨_, spells_quote (spelling x), ?_⟩
  rw [decodeVariants, decodeVariant, listed]

/-- A list is decoded item by item. -/
theorem faithful_list (faithful : Faithful encode decode) :
    Faithful (fun xs : List α => writeArray (xs.map encode)) (decodeList decode) := by
  intro xs
  have items : ∃ items, SpellsItems (xs.map encode) items ∧ decodeItems decode items = .ok xs := by
    induction xs with
    | nil => exact ⟨.done, .done, rfl⟩
    | cons x xs ih =>
      obtain ⟨value, spells, decodes⟩ := faithful x
      obtain ⟨items, spellsItems, decodesItems⟩ := ih
      refine ⟨.cons value items, .cons spells spellsItems, ?_⟩
      rw [decodeItems, decodes, decodesItems]
      rfl
  obtain ⟨items, spells, decodes⟩ := items
  exact ⟨_, spells_writeArray spells, decodes⟩

/-! ## 2. Records -/

/-- Whether members are written for slots in order, and filling the slots with them turns one record
into another. -/
inductive Fills {α : Type} : List (Slot α) → List (String × String) → α → α → Prop
  | done (filled : α) : Fills [] [] filled filled
  | slot {key : String} {isRequired : Bool} {β : Type} {encode : β → String} {decode : Decoder β}
      {put : β → α → α} {slots : List (Slot α)} {written : List (String × String)}
      {filled result : α}
      (faithful : Faithful encode decode) (part : β)
      (later : Fills slots written (put part filled) result) :
      Fills (.of key isRequired decode put :: slots) ((key, encode part) :: written) filled result

namespace DecoderLemmas

theorem slot?_of_distinct {record : Record α} {before after : List (Slot α)} {slot : Slot α}
    (whole : record.slots = before ++ slot :: after)
    (distinct : (record.slots.map (·.key)).Nodup) :
    record.slot? slot.key = some slot ∧ slot.key ∉ (before.map (·.key)).reverse := by
  rw [whole, List.map_append, List.map_cons] at distinct
  have apart : slot.key ∉ before.map (·.key) := fun mem =>
    (List.nodup_append.mp distinct).2.2 _ mem _ (List.mem_cons_self ..) rfl
  have skipped : before.find? (·.key = slot.key) = none :=
    List.find?_eq_none.mpr fun other mem same =>
      apart (List.mem_map.mpr ⟨other, mem, of_decide_eq_true same⟩)
  refine ⟨?_, fun mem => apart (List.mem_reverse.mp mem)⟩
  rw [Record.slot?, whole, List.find?_append, skipped]
  simp

theorem takeMembers_cons {record : Record α} {slot : Slot α} {taken : List String}
    {filled next : α} {value : Value} (found : record.slot? slot.key = some slot)
    (fresh : slot.key ∉ taken) (fill : slot.fill value filled = .ok next) (members : Members) :
    record.takeMembers taken filled (.cons (some slot.key) value members)
      = record.takeMembers (slot.key :: taken) next members := by
  rw [Record.takeMembers, found]
  simp only [if_neg fresh, fill]
  rfl

/-- By induction on the slots that are left. The keys of those before them are taken. -/
theorem takeMembers_of_fills {record : Record α} {slots : List (Slot α)}
    {written : List (String × String)} {filled result : α}
    (fills : Fills slots written filled result) (before : List (Slot α))
    (whole : record.slots = before ++ slots) (distinct : (record.slots.map (·.key)).Nodup) :
    ∃ members, SpellsMembers written members
      ∧ record.takeMembers (before.map (·.key)).reverse filled members
        = .ok ((record.slots.map (·.key)).reverse, result) := by
  induction fills generalizing before with
  | done filled =>
    rw [List.append_nil] at whole
    exact ⟨.done, .done, by rw [Record.takeMembers, whole]⟩
  | @slot key isRequired β encode decode put slots written filled result faithful part later ih =>
    obtain ⟨value, spells, decodes⟩ := faithful part
    obtain ⟨found, fresh⟩ := slot?_of_distinct whole distinct
    obtain ⟨members, spellsMembers, takes⟩ :=
      ih (before ++ [.of key isRequired decode put]) (by rw [whole]; simp)
    rw [List.map_append, List.reverse_append] at takes
    have fill : (Slot.of key isRequired decode put).fill value filled = .ok (put part filled) := by
      simp [Slot.of, decodes, Except.map]
    exact ⟨.cons (some key) value members, .cons spells spellsMembers,
      (takeMembers_cons found fresh fill members).trans takes⟩

theorem missing?_of_all (record : Record α) :
    record.missing? (record.slots.map (·.key)).reverse = none := by
  refine List.find?_eq_none.mpr fun slot mem => ?_
  have taken : (record.slots.map (·.key)).reverse.contains slot.key = true :=
    List.contains_iff_mem.mpr (List.mem_reverse.mpr (List.mem_map_of_mem mem))
  rw [taken, Bool.not_true, Bool.and_false]
  exact Bool.false_ne_true

end DecoderLemmas

open DecoderLemmas

/-- A record is decoded to itself when its members are written for its slots in order. -/
theorem faithful_record {record : Record α} {written : α → List (String × String)}
    (distinct : (record.slots.map (·.key)).Nodup)
    (fills : ∀ x, Fills record.slots (written x) record.unfilled x) :
    Faithful (fun x => writeObject (written x)) record.decode := by
  intro x
  obtain ⟨members, spells, takes⟩ :=
    takeMembers_of_fills (fills x) [] rfl distinct
  refine ⟨_, spells_writeObject spells, ?_⟩
  -- At the start there is no slot before those that are left, so nothing is taken.
  have takes : record.takeMembers [] record.unfilled members
      = .ok ((record.slots.map (·.key)).reverse, x) := takes
  rw [Record.decode, Record.ofMembers, takes]
  simp only [bind, Except.bind, missing?_of_all]
  rfl

/-! ## 3. Round trips -/

/-- What is encoded is decoded to itself, from its whole text. -/
theorem decodeText_encode (faithful : Faithful encode decode) (x : α) :
    decodeText decode (encode x) = .ok x := by
  obtain ⟨value, spells, decodes⟩ := faithful x
  rw [decodeText, read_of_spells spells]
  simp only [decodes, bind, Except.bind]
  rfl

/-- Different things are encoded differently. -/
theorem injective_encode (faithful : Faithful encode decode) : Function.Injective encode := by
  intro x y same
  have decoded := (decodeText_encode faithful x).symm.trans
    (same ▸ decodeText_encode faithful y)
  exact Except.ok.inj decoded

end QueryScribe.Json
