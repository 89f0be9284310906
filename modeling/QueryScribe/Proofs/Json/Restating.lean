import Mathlib.Data.List.Forall2
import QueryScribe.Proofs.Json.Members

/-!
# The same record in other words

A record is accepted from an object for what the members say of each key on its own. The order of
the members does not count, and neither do members with unknown keys. Values may be exchanged for
others that mean the same, in particular for such objects again. An array stands for the object that
has its items as values, under the keys of the record in their order.

Results:
1. `outcome_ok_iff`: acceptance, key by key.
2. `restates_of_perm`, `restates_insert`: what counts as other words.
   `preserves_object`, `preserves_list`: objects and lists in other words.
3. `decode_array_iff`: arrays.
-/

namespace QueryScribe.Json

variable {α : Type} {record : Record α} {keys : List (Key α)}

/-! ## 1. Key by key -/

/-- The members with a key. -/
def under (name : String) (members : List (String × Value)) : List (String × Value) :=
  members.filter (·.1 = name)

/-- Whether the members say of a key what a record holds: once, or not at all where the record holds
the default. -/
def Key.Accepts (key : Key α) (members : List (String × Value)) (x : α) : Prop :=
  (∃ value, under key.name members = [(key.name, value)] ∧ key.decode value = .ok (key.get x))
    ∨ (under key.name members = [] ∧ key.fallback? = some (key.get x))

namespace RestatingLemmas

theorem under_eq_nil_iff {name : String} {members : List (String × Value)} :
    under name members = [] ↔ name ∉ members.map (·.1) := by
  rw [under, List.filter_eq_nil_iff]
  constructor
  · intro none mem
    obtain ⟨member, mem, same⟩ := List.mem_map.mp mem
    exact none member mem (decide_eq_true same)
  · intro notMem member mem same
    exact notMem (List.mem_map.mpr ⟨member, mem, of_decide_eq_true same⟩)

theorem mem_under {name : String} {value : Value} {members : List (String × Value)} :
    (name, value) ∈ under name members ↔ (name, value) ∈ members := by
  simp [under]

theorem under_singleton (name : String) (value : Value) :
    under name [(name, value)] = [(name, value)] := by
  simp [under]

theorem under_append (name : String) (before after : List (String × Value)) :
    under name (before ++ after) = under name before ++ under name after :=
  List.filter_append ..

/-- Members of which none is to blame have each key once at most. By induction from the right: a
second member with the key would be to blame. -/
theorem under_of_blameless {key : Key α} (known : key ∈ keys) {members : List (String × Value)}
    (blameless : Blameless keys members) :
    under key.name members = [] ∨ ∃ value, under key.name members = [(key.name, value)] := by
  induction members using List.reverseRecOn with
  | nil => exact .inl rfl
  | append_singleton members member ih =>
    obtain ⟨earlier, blames⟩ := MembersLemmas.blameless_append_iff.mp blameless
    obtain ⟨name, value⟩ := member
    rw [under_append]
    by_cases same : name = key.name
    · subst same
      have fresh : key.name ∉ members.map (·.1) := fun again => blames _ (.repeated known again)
      exact .inr ⟨value, by rw [under_eq_nil_iff.mpr fresh, under_singleton, List.nil_append]⟩
    · have nothing : under key.name [(name, value)] = [] := by simp [under, same]
      rw [nothing, List.append_nil]
      exact ih earlier

theorem blameless_of_accepts {members : List (String × Value)} {x : α}
    (accepts : ∀ key ∈ keys, key.Accepts members x) : Blameless keys members := by
  rintro before _ after rfl fault blames
  cases blames with
  | @repeated key value known again =>
    have earlier : under key.name before ≠ [] := fun none => under_eq_nil_iff.mp none again
    have twice : under key.name (before ++ (key.name, value) :: after)
        = under key.name before ++ (key.name, value) :: under key.name after := by
      rw [under_append]
      simp [under]
    have length := congrArg List.length twice
    rw [List.length_append, List.length_cons] at length
    have positive := List.length_pos_of_ne_nil earlier
    rcases accepts key known with ⟨_, once, _⟩ | ⟨none, _⟩
    · rw [once, List.length_singleton] at length
      omega
    · rw [none, List.length_nil] at length
      omega
  | @untaken key value fault known fresh faulty =>
    have mem := mem_under.mpr
      (List.mem_append_right before (List.mem_cons_self (a := (key.name, value)) (l := after)))
    rcases accepts key known with ⟨other, once, decodes⟩ | ⟨none, _⟩
    · rw [once] at mem
      cases List.mem_singleton.mp mem
      exact absurd (faulty.symm.trans decodes) error_ne_ok
    · rw [none] at mem
      exact absurd mem List.not_mem_nil

end RestatingLemmas

open MembersLemmas RestatingLemmas

/-- A record is accepted exactly if the members say of every key what it holds. -/
theorem outcome_ok_iff {members : List (String × Value)} {x : α} :
    Outcome keys members (.ok x) ↔ ∀ key ∈ keys, key.Accepts members x := by
  constructor
  · rintro ⟨⟩ key known
    rename_i blameless holds
    rcases holds key known with ⟨value, mem, decodes⟩ | ⟨notMem, fallback⟩
    · refine .inl ⟨value, ?_, decodes⟩
      have mem := mem_under.mpr mem
      rcases under_of_blameless known blameless with none | ⟨other, once⟩
      · rw [none] at mem
        exact absurd mem List.not_mem_nil
      · rw [once] at mem ⊢
        rw [List.mem_singleton.mp mem]
    · exact .inr ⟨under_eq_nil_iff.mpr notMem, fallback⟩
  · refine fun accepts => .made (blameless_of_accepts accepts) fun key known => ?_
    rcases accepts key known with ⟨value, once, decodes⟩ | ⟨none, fallback⟩
    · exact .inl ⟨value, mem_under.mp (once ▸ List.mem_singleton_self _), decodes⟩
    · exact .inr ⟨under_eq_nil_iff.mp none, fallback⟩

/-! ## 2. Other words -/

/-- Whether members have the same key and values that mean the same under it. -/
def RestatesMember (keys : List (Key α)) (member other : String × Value) : Prop :=
  member.1 = other.1 ∧ ∀ key ∈ keys, key.name = member.1 → key.same member.2 other.2

/-- Whether members restate others: under the keys of the record they are the same in some order, up
to values that mean the same. Members with other keys do not count. -/
def Restates (keys : List (Key α)) (members others : List (String × Value)) : Prop :=
  ∃ arranged, (members.filter (·.1 ∈ keys.map (·.name))).Perm arranged
    ∧ List.Forall₂ (RestatesMember keys) arranged (others.filter (·.1 ∈ keys.map (·.name)))

/-- Members restate others if they are the same under the keys of the record, in any order. -/
theorem restates_of_perm {members others : List (String × Value)}
    (perm : (members.filter (·.1 ∈ keys.map (·.name))).Perm
      (others.filter (·.1 ∈ keys.map (·.name)))) : Restates keys members others :=
  ⟨_, perm, List.forall₂_same.mpr fun _ _ => ⟨rfl, fun key _ _ => key.same_refl _⟩⟩

/-- A member with an unknown key may be added anywhere. -/
theorem restates_insert {name : String} (unknown : name ∉ keys.map (·.name))
    (before : List (String × Value)) (value : Value) (after : List (String × Value)) :
    Restates keys (before ++ after) (before ++ (name, value) :: after) := by
  refine restates_of_perm (List.Perm.of_eq ?_)
  rw [List.filter_append, List.filter_append, List.filter_cons_of_neg (by simpa using unknown)]

/-- Whether values are the same, or objects one of which restates the other. -/
inductive SameObject (keys : List (Key α)) : Value → Value → Prop
  | refl (value : Value) : SameObject keys value value
  | restated {members others : List (String × Value)} (restates : Restates keys members others) :
      SameObject keys (.object (.ofList members)) (.object (.ofList others))

/-- Whether values are the same, or arrays with the same items. -/
inductive SameList (same : Value → Value → Prop) : Value → Value → Prop
  | refl (value : Value) : SameList same value value
  | items {items others : List Value} (restates : List.Forall₂ same items others) :
      SameList same (.array (.ofList items)) (.array (.ofList others))

/-- Whether values that mean the same are taken for the same, if they are taken. -/
def Preserves (same : Value → Value → Prop) (decode : Decoder α) : Prop :=
  ∀ value other x, same value other → value.isWhole = true → other.isWhole = true →
    decode value = .ok x → decode other = .ok x

theorem preserves_eq (decode : Decoder α) : Preserves Eq decode := by
  rintro value _ x rfl _ _ decodes
  exact decodes

namespace RestatingLemmas

theorem under_known {key : Key α} (known : key ∈ keys) (members : List (String × Value)) :
    under key.name (members.filter (·.1 ∈ keys.map (·.name))) = under key.name members := by
  rw [under, under, List.filter_filter]
  refine List.filter_congr fun member _ => ?_
  by_cases same : member.1 = key.name
  · simp only [same, List.mem_map_of_mem known, decide_true, Bool.and_self]
  · simp [same]

/-- What the members say of a key is said in other words. -/
theorem under_restates {members others : List (String × Value)}
    (restates : Restates keys members others) {key : Key α} (known : key ∈ keys) :
    ∃ arranged, (under key.name members).Perm arranged
      ∧ List.Forall₂ (RestatesMember keys) arranged (under key.name others) := by
  obtain ⟨arranged, perm, related⟩ := restates
  refine ⟨under key.name arranged, ?_, ?_⟩
  · rw [← under_known known members]
    exact perm.filter _
  · rw [← under_known known others]
    exact List.rel_filter (fun _ _ same => by simp [same.1]) related

theorem accepts_restates {members others : List (String × Value)}
    (restates : Restates keys members others) {key : Key α} (known : key ∈ keys)
    (preserves : Preserves key.same key.decode)
    (membersWhole : ∀ member ∈ members, member.2.isWhole = true)
    (othersWhole : ∀ other ∈ others, other.2.isWhole = true) {x : α}
    (accepts : key.Accepts members x) : key.Accepts others x := by
  obtain ⟨arranged, perm, related⟩ := under_restates restates known
  rcases accepts with ⟨value, once, decodes⟩ | ⟨none, fallback⟩
  · rw [once] at perm
    rw [List.perm_singleton.mp perm.symm] at related
    obtain ⟨⟨name, other⟩, _, ⟨sameName, sameValue⟩, rest, eq⟩ :=
      List.forall₂_cons_left_iff.mp related
    cases sameName
    rw [List.forall₂_nil_left_iff.mp rest] at eq
    have valueMem : (key.name, value) ∈ members := mem_under.mp (once ▸ List.mem_singleton_self _)
    have otherMem : (key.name, other) ∈ others := mem_under.mp (eq ▸ List.mem_singleton_self _)
    exact .inl ⟨other, eq, preserves value other _ (sameValue key known rfl)
      (membersWhole _ valueMem) (othersWhole _ otherMem) decodes⟩
  · rw [none] at perm
    cases perm.nil_eq
    exact .inr ⟨List.forall₂_nil_left_iff.mp related, fallback⟩

end RestatingLemmas

/-- An object that restates an accepted one is accepted for the same. -/
theorem preserves_object (keyed : Keyed record keys)
    (preserves : ∀ key ∈ keys, Preserves key.same key.decode) :
    Preserves (SameObject keys) record.decode := by
  rintro _ _ x (value | ⟨restates⟩) membersWhole othersWhole decodes
  · exact decodes
  · have membersWhole := (Members.isWhole_ofList _).mp membersWhole
    have othersWhole := (Members.isWhole_ofList _).mp othersWhole
    have accepts := outcome_ok_iff.mp ((decode_object_iff keyed membersWhole).mp decodes)
    refine (decode_object_iff keyed othersWhole).mpr (outcome_ok_iff.mpr fun key known => ?_)
    exact accepts_restates restates known (preserves key known) membersWhole othersWhole
      (accepts key known)

namespace RestatingLemmas

theorem decodeItems_eq_ok_iff {decode : Decoder α} {items : List Value} {parts : List α} :
    decodeItems decode (.ofList items) = .ok parts
      ↔ List.Forall₂ (fun item part => decode item = .ok part) items parts := by
  induction items generalizing parts with
  | nil =>
    rw [Items.ofList, decodeItems, List.forall₂_nil_left_iff]
    exact ⟨fun eq => (Except.ok.inj eq).symm, fun eq => congrArg Except.ok eq.symm⟩
  | cons item items ih =>
    rw [Items.ofList, decodeItems, List.forall₂_cons_left_iff, bind_eq_ok_iff]
    simp only [bind_eq_ok_iff, ih]
    constructor
    · rintro ⟨first, decodes, others, decodesOthers, eq⟩
      exact ⟨first, others, decodes, decodesOthers, (Except.ok.inj eq).symm⟩
    · rintro ⟨first, others, decodes, decodesOthers, rfl⟩
      exact ⟨first, decodes, others, decodesOthers, rfl⟩

end RestatingLemmas

/-- A list of items that mean the same is accepted for the same. -/
theorem preserves_list {same : Value → Value → Prop} {decode : Decoder α}
    (preserves : Preserves same decode) : Preserves (SameList same) (decodeList decode) := by
  rintro _ _ parts (value | ⟨restates⟩) itemsWhole othersWhole decodes
  · exact decodes
  · rw [Value.isWhole, Items.isWhole_ofList] at itemsWhole othersWhole
    rw [decodeList, decodeItems_eq_ok_iff] at decodes ⊢
    induction restates generalizing parts with
    | nil => exact decodes
    | cons sameItem _ ih =>
      cases decodes with
      | cons decodesItem decodesItems =>
        obtain ⟨itemWhole, itemsWhole⟩ := List.forall_mem_cons.mp itemsWhole
        obtain ⟨otherWhole, othersWhole⟩ := List.forall_mem_cons.mp othersWhole
        exact .cons (preserves _ _ _ sameItem itemWhole otherWhole decodesItem)
          (ih _ itemsWhole othersWhole decodesItems)

/-! ## 3. Arrays -/

namespace RestatingLemmas

theorem ofMembers_eq_ok_iff {members : Members} {x : α} :
    record.ofMembers members = .ok x ↔ ∃ taken,
      record.takeMembers [] record.unfilled members = .ok (taken, x)
        ∧ record.missing? taken = none := by
  rw [Record.ofMembers, bind_eq_ok_iff]
  constructor
  · rintro ⟨⟨taken, filled⟩, takes, result⟩
    dsimp only at result
    split at result
    · exact absurd result error_ne_ok
    · next complete =>
      cases result
      exact ⟨taken, takes, complete⟩
  · rintro ⟨taken, takes, complete⟩
    refine ⟨(taken, x), takes, ?_⟩
    dsimp only
    rw [complete]
    rfl

/-- Slots for which there are no items are left as they are, if they may be. -/
theorem takeItems_done_iff {position : Nat} {filled x : α} {left : List (Key α)} :
    record.takeItems position filled (left.map Key.slot) .done = .ok x
      ↔ (∀ key ∈ left, key.fallback? ≠ none) ∧ filled = x := by
  induction left generalizing position with
  | nil => simp [Record.takeItems]
  | cons key left ih =>
    rw [List.map_cons, Record.takeItems]
    cases fallback : key.fallback? with
    | none => simp [Key.slot, Slot.of, fallback]
    | some part =>
      have optional : key.slot.isRequired = false := by simp [Key.slot, Slot.of, fallback]
      rw [optional]
      simpa [fallback] using ih

theorem name_notMem_before (keyed : Keyed record keys) {before left : List (Key α)}
    (split : keys = before ++ left) {key : Key α} (mem : key ∈ left) :
    key.name ∉ (before.map (·.name)).reverse := by
  have distinct := keyed.distinct
  rw [split, List.map_append] at distinct
  intro early
  exact (List.nodup_append.mp distinct).2.2 _ (List.mem_reverse.mp early) _
    (List.mem_map_of_mem mem) rfl

theorem missing?_before_iff (keyed : Keyed record keys) {before left : List (Key α)}
    (split : keys = before ++ left) :
    record.missing? (before.map (·.name)).reverse = none
      ↔ ∀ key ∈ left, key.fallback? ≠ none := by
  rw [Record.missing?, keyed.slots, List.find?_eq_none, List.forall_mem_map]
  constructor
  · intro complete key mem required
    refine complete key (split ▸ List.mem_append_right _ mem) ?_
    simp [Key.slot, Slot.of, required, name_notMem_before keyed split mem]
  · intro optional key mem
    rw [split] at mem
    rcases List.mem_append.mp mem with early | mem
    · have taken : key.slot.key ∈ (before.map (·.name)).reverse :=
        List.mem_reverse.mpr (List.mem_map_of_mem early)
      simp [taken]
    · simp [Key.slot, Slot.of, optional key mem]

/-- An item brings the part of the first key that is left. -/
theorem takeItems_known (position : Nat) (filled : α) (key : Key α) (slots : List (Slot α))
    (value : Value) (items : Items) :
    record.takeItems position filled (key.slot :: slots) (.cons value items)
      = (key.decode value >>= fun part =>
          record.takeItems (position + 1) (key.put part filled) slots items) := by
  rw [Record.takeItems]
  simp only [Key.slot, Slot.of]
  cases key.decode value <;> rfl

/-- By induction on the items. The keys before those that are left are taken. -/
theorem takeItems_iff (keyed : Keyed record keys) {values : List Value}
    {before left : List (Key α)} (split : keys = before ++ left)
    (short : values.length ≤ left.length) {position : Nat} {filled x : α} :
    record.takeItems position filled (left.map Key.slot) (.ofList values) = .ok x
      ↔ ∃ taken, record.takeMembers (before.map (·.name)).reverse filled
          (.ofList ((left.map (·.name)).zip values)) = .ok (taken, x)
        ∧ record.missing? taken = none := by
  induction values generalizing before left position filled with
  | nil =>
    rw [Items.ofList, takeItems_done_iff, List.zip_nil_right, Members.ofList, Record.takeMembers,
      ← missing?_before_iff keyed split]
    constructor
    · rintro ⟨complete, rfl⟩
      exact ⟨_, rfl, complete⟩
    · rintro ⟨_, ⟨⟩, complete⟩
      exact ⟨complete, rfl⟩
  | cons value values ih =>
    cases left with
    | nil => exact absurd short (Nat.not_succ_le_zero _)
    | cons key left =>
      have known : key ∈ keys := by simp [split]
      have fresh := name_notMem_before keyed split (List.mem_cons_self ..)
      rw [List.map_cons, List.map_cons, List.zip_cons_cons, Items.ofList, takeItems_known,
        takeMembers_known keyed known fresh]
      cases key.decode value with
      | error fault =>
        constructor
        · exact fun takes => absurd takes error_ne_ok
        · rintro ⟨_, takes, _⟩
          exact absurd takes error_ne_ok
      | ok part =>
        have later := @ih (before ++ [key]) left (by simp [split])
          (Nat.le_of_succ_le_succ short) (position + 1) (key.put part filled)
        rw [List.map_append, List.reverse_append] at later
        exact later

end RestatingLemmas

/-- An array stands for the object with its items under the keys in order. Items at the end may be
left out for keys that may be absent. -/
theorem decode_array_iff (keyed : Keyed record keys) {values : List Value}
    (short : values.length ≤ keys.length) {x : α} :
    record.decode (.array (.ofList values)) = .ok x
      ↔ record.decode (.object (.ofList ((keys.map (·.name)).zip values))) = .ok x := by
  rw [Record.decode, Record.decode, ofMembers_eq_ok_iff, keyed.slots]
  exact takeItems_iff keyed (List.nil_append keys).symm short

end QueryScribe.Json
