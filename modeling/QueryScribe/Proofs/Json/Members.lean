import Mathlib.Data.List.Induction
import Mathlib.Data.List.Nodup
import QueryScribe.Proofs.Json.Decoder
import QueryScribe.Proofs.Json.Grammar
import QueryScribe.Proofs.Success

/-!
# Objects for records

What an object comes to where a record is expected, told from the keys of the record. The members
are looked at in the order of the text, and the first one that repeats a key of the record, or has a
value that is not taken, is to blame. If there is none, the first key that has to be there and is
absent is to blame. If there is none either, the record is made of the members and the defaults.

Results:
1. `takeMembers_blameless`: what has been filled after members of which none is to blame.
2. `takeMembers_blamed`: the first member to blame decides.
3. `missing?_eq_some_iff`: the key that is missing first.
4. `decode_object_iff`: what an object comes to.
-/

namespace QueryScribe.Json

/-! ## Keys -/

/-- A key of a record: how its values are taken, for which part of the record they stand, and what
the part is where the key is absent. A key without such a default has to be there. Values that are
the `same` mean the same under the key. -/
structure Key (α : Type) where
  name : String
  Part : Type
  decode : Decoder Part
  get : α → Part
  put : Part → α → α
  fallback? : Option Part
  same : Value → Value → Prop := Eq
  get_put : ∀ part x, get (put part x) = part := by intro _ _; rfl
  same_refl : ∀ value, same value value := by intro _; rfl

variable {α : Type}

namespace Key

/-- The slot of a key. -/
def slot (key : Key α) : Slot α :=
  .of key.name key.fallback?.isNone key.decode key.put

/-- Whether the key has to be there and is absent. -/
def IsMissing (key : Key α) (members : List (String × Value)) : Prop :=
  key.fallback? = none ∧ key.name ∉ members.map (·.1)

/-- Whether a record holds what the members say of the key. -/
def Holds (key : Key α) (members : List (String × Value)) (x : α) : Prop :=
  (∃ value, (key.name, value) ∈ members ∧ key.decode value = .ok (key.get x))
    ∨ (key.name ∉ members.map (·.1) ∧ key.fallback? = some (key.get x))

end Key

/-- Whether a record is stored under the keys, in their order. The keys stand for different parts,
which together are the whole record. -/
structure Keyed (record : Record α) (keys : List (Key α)) : Prop where
  slots : record.slots = keys.map Key.slot
  distinct : (keys.map (·.name)).Nodup
  apart : ∀ key ∈ keys, ∀ other ∈ keys, other.name ≠ key.name →
    ∀ part x, other.get (key.put part x) = other.get x
  unfilled : ∀ key ∈ keys, ∀ part, key.fallback? = some part → key.get record.unfilled = part
  ext : ∀ x y, (∀ key ∈ keys, key.get x = key.get y) → x = y

/-! ## What an object comes to -/

/-- Whether a member is to blame, after others, and for what: it repeats a key, or its value is not
taken. Members with unknown keys are never to blame. -/
inductive Blames (keys : List (Key α)) (before : List (String × Value)) :
    String × Value → Fault → Prop
  | repeated {key : Key α} {value : Value} (known : key ∈ keys)
      (again : key.name ∈ before.map (·.1)) :
      Blames keys before (key.name, value) (.duplicateField key.name)
  | untaken {key : Key α} {value : Value} {fault : Fault} (known : key ∈ keys)
      (fresh : key.name ∉ before.map (·.1)) (faulty : key.decode value = .error fault) :
      Blames keys before (key.name, value) fault

/-- Whether none of the members is to blame. -/
def Blameless (keys : List (Key α)) (members : List (String × Value)) : Prop :=
  ∀ before member after, members = before ++ member :: after →
    ∀ fault, ¬ Blames keys before member fault

/-- What the members of an object come to. -/
inductive Outcome (keys : List (Key α)) (members : List (String × Value)) : Except Fault α → Prop
  | blamed {before : List (String × Value)} {member : String × Value}
      {after : List (String × Value)} {fault : Fault} (split : members = before ++ member :: after)
      (earlier : Blameless keys before) (blames : Blames keys before member fault) :
      Outcome keys members (.error fault)
  | missing {before : List (Key α)} {key : Key α} {after : List (Key α)}
      (blameless : Blameless keys members) (split : keys = before ++ key :: after)
      (missing : key.IsMissing members) (earlier : ∀ other ∈ before, ¬ other.IsMissing members) :
      Outcome keys members (.error (.missingField key.name))
  | made {x : α} (blameless : Blameless keys members) (holds : ∀ key ∈ keys, key.Holds members x) :
      Outcome keys members (.ok x)

/-! ## 1. Members of which none is to blame -/

variable {record : Record α} {keys : List (Key α)}

namespace MembersLemmas

/-- After members of which none is to blame, the next one is or none of them all is. -/
theorem blameless_append_iff {before : List (String × Value)} {member : String × Value} :
    Blameless keys (before ++ [member])
      ↔ Blameless keys before ∧ ∀ fault, ¬ Blames keys before member fault := by
  constructor
  · intro blameless
    refine ⟨fun first other after split => ?_, blameless before member [] rfl⟩
    refine blameless first other (after ++ [member]) ?_
    rw [split, List.append_assoc, List.cons_append]
  · rintro ⟨earlier, last⟩ first other after split
    rcases List.eq_nil_or_concat after with rfl | ⟨middle, final, rfl⟩
    · obtain ⟨rfl, eq⟩ := List.append_inj' split rfl
      cases eq
      exact last
    · rw [List.concat_eq_append, ← List.cons_append, ← List.append_assoc] at split
      exact earlier first other middle (List.append_inj' split rfl).1

/-- Either none of the members is to blame, or one of them is the first. -/
theorem blameless_or_blamed (keys : List (Key α)) (members : List (String × Value)) :
    Blameless keys members ∨ ∃ before member after fault,
      members = before ++ member :: after ∧ Blameless keys before
        ∧ Blames keys before member fault := by
  induction members using List.reverseRecOn with
  | nil => exact .inl fun before member after split => absurd split.symm (by simp)
  | append_singleton members member ih =>
    rcases ih with blameless | ⟨before, first, after, fault, split, blames⟩
    · by_cases blames : ∃ fault, Blames keys members member fault
      · obtain ⟨fault, blames⟩ := blames
        exact .inr ⟨members, member, [], fault, rfl, blameless, blames⟩
      · exact .inl (blameless_append_iff.mpr ⟨blameless, not_exists.mp blames⟩)
    · refine .inr ⟨before, first, after ++ [member], fault, ?_, blames⟩
      rw [split, List.append_assoc, List.cons_append]

theorem slot?_known (keyed : Keyed record keys) {key : Key α} (known : key ∈ keys) :
    record.slot? key.name = some key.slot := by
  obtain ⟨before, after, rfl⟩ := List.append_of_mem known
  have distinct : (record.slots.map (·.key)).Nodup := by
    rw [keyed.slots, List.map_map]
    exact keyed.distinct
  have whole : record.slots = before.map Key.slot ++ key.slot :: after.map Key.slot := by
    rw [keyed.slots, List.map_append, List.map_cons]
  exact (DecoderLemmas.slot?_of_distinct whole distinct).1

theorem slot?_unknown (keyed : Keyed record keys) {name : String}
    (unknown : ∀ key ∈ keys, key.name ≠ name) : record.slot? name = none := by
  rw [Record.slot?, keyed.slots]
  refine List.find?_eq_none.mpr fun slot mem => ?_
  obtain ⟨key, known, rfl⟩ := List.mem_map.mp mem
  exact fun same => unknown key known (of_decide_eq_true same)

/-- A member with a known key that is not taken yet brings its part. -/
theorem takeMembers_known (keyed : Keyed record keys) {key : Key α} (known : key ∈ keys)
    {taken : List String} (fresh : key.name ∉ taken) (filled : α) (value : Value)
    (after : List (String × Value)) :
    record.takeMembers taken filled (.ofList ((key.name, value) :: after))
      = (key.decode value >>= fun part =>
          record.takeMembers (key.name :: taken) (key.put part filled) (.ofList after)) := by
  rw [Members.ofList, Record.takeMembers, slot?_known keyed known]
  simp only [if_neg fresh, Key.slot, Slot.of]
  cases key.decode value <;> rfl

end MembersLemmas

open MembersLemmas

/-- Whether a record has been filled with members, and the taken keys are theirs. A part of which no
member says anything is as it was at the start. -/
structure Filled (record : Record α) (keys : List (Key α)) (before : List (String × Value))
    (taken : List String) (filled : α) : Prop where
  taken : ∀ key ∈ keys, key.name ∈ taken ↔ key.name ∈ before.map (·.1)
  present : ∀ key ∈ keys, ∀ value, (key.name, value) ∈ before →
    key.decode value = .ok (key.get filled)
  absent : ∀ key ∈ keys, key.name ∉ before.map (·.1) → key.get filled = key.get record.unfilled

theorem filled_start : Filled record keys [] [] record.unfilled where
  taken _ _ := Iff.rfl
  present _ _ _ mem := nomatch mem
  absent _ _ _ := rfl

namespace MembersLemmas

/-- A member with an unknown key changes nothing. -/
theorem filled_unknown {before : List (String × Value)} {taken : List String} {filled : α}
    (state : Filled record keys before taken filled) {name : String}
    (unknown : ∀ key ∈ keys, key.name ≠ name) (value : Value) :
    Filled record keys (before ++ [(name, value)]) taken filled := by
  have names : ∀ key ∈ keys,
      (key.name ∈ (before ++ [(name, value)]).map (·.1) ↔ key.name ∈ before.map (·.1)) := by
    intro key known
    rw [List.map_append, List.mem_append]
    exact or_iff_left fun mem => unknown key known (List.mem_singleton.mp mem)
  refine ⟨fun key known => ?_, fun key known part mem => ?_, fun key known notMem => ?_⟩
  · rw [names key known, state.taken key known]
  · rcases List.mem_append.mp mem with mem | mem
    · exact state.present key known part mem
    · exact absurd (Prod.ext_iff.mp (List.mem_singleton.mp mem)).1 (unknown key known)
  · exact state.absent key known (mt (names key known).mpr notMem)

/-- A member with a fresh key brings its part and leaves the others. -/
theorem filled_known (keyed : Keyed record keys) {before : List (String × Value)}
    {taken : List String} {filled : α} (state : Filled record keys before taken filled)
    {key : Key α} (known : key ∈ keys) (fresh : key.name ∉ before.map (·.1)) {value : Value}
    {part : key.Part} (decodes : key.decode value = .ok part) :
    Filled record keys (before ++ [(key.name, value)]) (key.name :: taken)
      (key.put part filled) := by
  -- Another key has another name, so that its part is not touched.
  have sameOrApart : ∀ other ∈ keys, other = key ∨ other.name ≠ key.name := fun other otherKnown =>
    Classical.or_iff_not_imp_right.mpr fun same =>
      List.inj_on_of_nodup_map keyed.distinct otherKnown known (not_not.mp same)
  have names : ∀ name, name ∈ (before ++ [(key.name, value)]).map (·.1)
      ↔ name ∈ before.map (·.1) ∨ name = key.name := by
    simp
  refine ⟨fun other otherKnown => ?_, fun other otherKnown part' mem => ?_,
    fun other otherKnown notMem => ?_⟩
  · rw [names, List.mem_cons, state.taken other otherKnown, or_comm]
  · rcases sameOrApart other otherKnown with rfl | apart
    · rcases List.mem_append.mp mem with mem | mem
      · exact absurd (List.mem_map_of_mem mem) fresh
      · cases List.mem_singleton.mp mem
        rw [decodes, other.get_put]
    · rcases List.mem_append.mp mem with mem | mem
      · rw [keyed.apart key known other otherKnown apart]
        exact state.present other otherKnown part' mem
      · exact absurd (Prod.ext_iff.mp (List.mem_singleton.mp mem)).1 apart
  · rw [names, not_or] at notMem
    rw [keyed.apart key known other otherKnown notMem.2]
    exact state.absent other otherKnown notMem.1

end MembersLemmas

/-- Members of which none is to blame are taken one after the other, whatever follows them. By
induction from the right, as a member is to blame only for what stands before it. -/
theorem takeMembers_blameless (keyed : Keyed record keys) {before : List (String × Value)}
    (blameless : Blameless keys before) (whole : ∀ member ∈ before, member.2.isWhole = true) :
    ∃ taken filled, Filled record keys before taken filled ∧
      ∀ after, record.takeMembers [] record.unfilled (.ofList (before ++ after))
        = record.takeMembers taken filled (.ofList after) := by
  induction before using List.reverseRecOn with
  | nil => exact ⟨[], record.unfilled, filled_start, fun after => rfl⟩
  | append_singleton before member ih =>
    obtain ⟨earlier, blames⟩ := blameless_append_iff.mp blameless
    obtain ⟨taken, filled, state, takes⟩ :=
      ih earlier fun member mem => whole member (List.mem_append_left _ mem)
    obtain ⟨name, value⟩ := member
    have takes : ∀ after,
        record.takeMembers [] record.unfilled (.ofList (before ++ [(name, value)] ++ after))
          = record.takeMembers taken filled (.ofList ((name, value) :: after)) := fun after => by
      rw [List.append_assoc, takes, List.singleton_append]
    by_cases unknown : ∀ key ∈ keys, key.name ≠ name
    · refine ⟨taken, filled, filled_unknown state unknown value, fun after => ?_⟩
      have isWhole := whole (name, value) (List.mem_append_right _ (List.mem_singleton_self _))
      rw [takes, Members.ofList, Record.takeMembers, slot?_unknown keyed unknown]
      exact if_pos isWhole
    · obtain ⟨key, known, rfl⟩ : ∃ key ∈ keys, key.name = name := by simpa using unknown
      have fresh : key.name ∉ before.map (·.1) := fun again => blames _ (.repeated known again)
      have decodes : ∃ part, key.decode value = .ok part := by
        cases decoded : key.decode value with
        | ok part => exact ⟨part, rfl⟩
        | error fault => exact absurd (.untaken known fresh decoded) (blames fault)
      obtain ⟨part, decodes⟩ := decodes
      refine ⟨key.name :: taken, key.put part filled,
        filled_known keyed state known fresh decodes, fun after => ?_⟩
      rw [takes, takeMembers_known keyed known (mt (state.taken key known).mp fresh), decodes]
      rfl

/-! ## 2. The first member to blame -/

/-- A member to blame ends the reading. -/
theorem takeMembers_blamed (keyed : Keyed record keys) {before : List (String × Value)}
    {taken : List String} {filled : α} (state : Filled record keys before taken filled)
    {member : String × Value} {fault : Fault} (blames : Blames keys before member fault)
    (after : List (String × Value)) :
    record.takeMembers taken filled (.ofList (member :: after)) = .error fault := by
  cases blames with
  | repeated known again =>
    rw [Members.ofList, Record.takeMembers, slot?_known keyed known]
    exact if_pos ((state.taken _ known).mpr again)
  | @untaken key value fault known fresh faulty =>
    rw [takeMembers_known keyed known (mt (state.taken key known).mp fresh), faulty]
    rfl

/-! ## 3. The first key that is missing -/

section Filled

variable {members : List (String × Value)} {taken : List String} {filled : α}

namespace MembersLemmas

theorem isMissing_iff (state : Filled record keys members taken filled) {key : Key α}
    (known : key ∈ keys) :
    (key.slot.isRequired && !taken.contains key.slot.key) = true ↔ key.IsMissing members := by
  have keyTaken := state.taken key known
  simp only [Key.slot, Slot.of, Key.IsMissing, Bool.and_eq_true, Option.isNone_iff_eq_none,
    Bool.not_eq_true', ← Bool.not_eq_true, List.contains_iff_mem, keyTaken]

end MembersLemmas

/-- The first key that is missing is the one that is reported. -/
theorem missing?_eq_some_iff (keyed : Keyed record keys)
    (state : Filled record keys members taken filled) {slot : Slot α} :
    record.missing? taken = some slot ↔ ∃ before key after, keys = before ++ key :: after
      ∧ key.IsMissing members ∧ (∀ other ∈ before, ¬ other.IsMissing members)
      ∧ key.slot = slot := by
  rw [Record.missing?, keyed.slots, List.find?_map, Option.map_eq_some_iff]
  constructor
  · rintro ⟨key, found, rfl⟩
    obtain ⟨missing, before, after, rfl, earlier⟩ := List.find?_eq_some_iff_append.mp found
    refine ⟨before, key, after, rfl, (isMissing_iff state (by simp)).mp missing, ?_, rfl⟩
    intro other mem isMissing
    have here := (isMissing_iff state (by simp [mem])).mpr isMissing
    simpa using (earlier other mem).symm.trans (congrArg (!·) here)
  · rintro ⟨before, key, after, rfl, missing, earlier, rfl⟩
    refine ⟨key, List.find?_eq_some_iff_append.mpr ⟨?_, before, after, rfl, ?_⟩, rfl⟩
    · exact (isMissing_iff state (by simp)).mpr missing
    · intro other mem
      have present := mt (isMissing_iff state (by simp [mem])).mp (earlier other mem)
      exact (Bool.not_eq_true' _).mpr (Bool.eq_false_iff.mpr present)

/-- No key is missing exactly if none is reported. -/
theorem missing?_eq_none_iff (keyed : Keyed record keys)
    (state : Filled record keys members taken filled) :
    record.missing? taken = none ↔ ∀ key ∈ keys, ¬ key.IsMissing members := by
  rw [Record.missing?, keyed.slots, List.find?_eq_none]
  simp only [List.forall_mem_map]
  exact forall₂_congr fun key known => not_congr (isMissing_iff state known)

end Filled

/-! ## 4. What an object comes to -/

section Object

variable {members : List (String × Value)}

namespace MembersLemmas

theorem holds_filled (keyed : Keyed record keys) {taken : List String} {filled : α}
    (state : Filled record keys members taken filled) {key : Key α} (known : key ∈ keys)
    (present : ¬ key.IsMissing members) : key.Holds members filled := by
  by_cases mem : key.name ∈ members.map (·.1)
  · obtain ⟨⟨name, value⟩, mem, rfl⟩ := List.mem_map.mp mem
    exact .inl ⟨value, mem, state.present key known value mem⟩
  · have optional : key.fallback? ≠ none := fun required => present ⟨required, mem⟩
    obtain ⟨part, fallback⟩ := Option.ne_none_iff_exists'.mp optional
    refine .inr ⟨mem, ?_⟩
    rw [state.absent key known mem, keyed.unfilled key known part fallback, fallback]

theorem eq_filled (keyed : Keyed record keys) {taken : List String} {filled x : α}
    (state : Filled record keys members taken filled)
    (holds : ∀ key ∈ keys, key.Holds members x) : x = filled := by
  refine keyed.ext x filled fun key known => ?_
  rcases holds key known with ⟨value, mem, decodes⟩ | ⟨notMem, fallback⟩
  · exact Except.ok.inj (decodes.symm.trans (state.present key known value mem))
  · rw [state.absent key known notMem, keyed.unfilled key known _ fallback]

theorem not_isMissing_of_holds {key : Key α} {x : α} (holds : key.Holds members x) :
    ¬ key.IsMissing members := by
  rintro ⟨required, notMem⟩
  rcases holds with ⟨value, mem, _⟩ | ⟨_, fallback⟩
  · exact notMem (List.mem_map_of_mem mem)
  · exact absurd (required.symm.trans fallback) nofun

/-- The members of an object are taken from the start. -/
theorem takeMembers_all (keyed : Keyed record keys) (blameless : Blameless keys members)
    (whole : ∀ member ∈ members, member.2.isWhole = true) :
    ∃ taken filled, Filled record keys members taken filled
      ∧ record.takeMembers [] record.unfilled (.ofList members) = .ok (taken, filled) := by
  obtain ⟨taken, filled, state, takes⟩ := takeMembers_blameless keyed blameless whole
  have all := takes []
  rw [List.append_nil] at all
  exact ⟨taken, filled, state, all⟩

theorem decode_of_outcome (keyed : Keyed record keys)
    (whole : ∀ member ∈ members, member.2.isWhole = true) {result : Except Fault α}
    (outcome : Outcome keys members result) :
    record.decode (.object (.ofList members)) = result := by
  cases outcome with
  | blamed split earlier blames =>
    subst split
    obtain ⟨taken, filled, state, takes⟩ := takeMembers_blameless keyed earlier
      fun member mem => whole member (List.mem_append_left _ mem)
    rw [Record.decode, Record.ofMembers, takes, takeMembers_blamed keyed state blames]
    rfl
  | missing blameless split missing earlier =>
    obtain ⟨taken, filled, state, takes⟩ := takeMembers_all keyed blameless whole
    have reported := (missing?_eq_some_iff keyed state).mpr
      ⟨_, _, _, split, missing, earlier, rfl⟩
    rw [Record.decode, Record.ofMembers, takes]
    simp only [bind, Except.bind, reported]
    rfl
  | made blameless holds =>
    obtain ⟨taken, filled, state, takes⟩ := takeMembers_all keyed blameless whole
    have complete := (missing?_eq_none_iff keyed state).mpr fun key known =>
      not_isMissing_of_holds (holds key known)
    rw [Record.decode, Record.ofMembers, takes, eq_filled keyed state holds]
    simp only [bind, Except.bind, complete]
    rfl

/-- Every object comes to something. -/
theorem exists_outcome (keyed : Keyed record keys)
    (whole : ∀ member ∈ members, member.2.isWhole = true) :
    ∃ result, Outcome keys members result := by
  rcases blameless_or_blamed keys members with
    blameless | ⟨before, member, after, fault, split, earlier, blames⟩
  · obtain ⟨taken, filled, state, _⟩ := takeMembers_all keyed blameless whole
    cases reported : record.missing? taken with
    | none =>
      have complete := (missing?_eq_none_iff keyed state).mp reported
      exact ⟨_, .made blameless fun key known =>
        holds_filled keyed state known (complete key known)⟩
    | some slot =>
      obtain ⟨before, key, after, split, missing, earlier, _⟩ :=
        (missing?_eq_some_iff keyed state).mp reported
      exact ⟨_, .missing blameless split missing earlier⟩
  · exact ⟨_, .blamed split earlier blames⟩

end MembersLemmas

/-- An object is decoded to what its members come to, and to nothing else. -/
theorem decode_object_iff (keyed : Keyed record keys)
    (whole : ∀ member ∈ members, member.2.isWhole = true) {result : Except Fault α} :
    record.decode (.object (.ofList members)) = result ↔ Outcome keys members result := by
  refine ⟨fun decodes => ?_, decode_of_outcome keyed whole⟩
  obtain ⟨other, outcome⟩ := exists_outcome keyed whole
  rwa [← decodes, decode_of_outcome keyed whole outcome]

end Object

end QueryScribe.Json
