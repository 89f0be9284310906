import QueryScribe.Proofs.Text.Blank
import QueryScribe.Proofs.Text.Case
import QueryScribe.Query.Tag

/-!
# Tags

A tag is one of a few names with white space around it, in capitals or small letters. Dialects are
lowered beyond ASCII, so that a kelvin sign in their names counts as the `k` that it is lowered to.
Operations are lowered like that too, but no name of theirs has a `k`. A tag that is no such name is
kept in the failure as it was given.

Results:
1. `Dialect.ofTag_eq_error_iff`, …: what becomes of a tag that is not understood.
2. `lookup_lower_iff`, `find?_spelling_iff`: names by either of the two ways to look them up.
3. `Dialect.ofTag_eq_ok_iff`, …, `tags_decided`: which tags are understood.
-/

namespace QueryScribe

open Text

/-! ## 1. Unknown tags -/

/-- Whether a tag is not understood: there is nothing that it stands for. -/
def Unknown (read : String → Except Failure α) (tag : String) : Prop :=
  ∀ value, read tag ≠ .ok value

namespace TagLemmas

/-- A reader with a single failure fails exactly when the tag stands for nothing. -/
theorem eq_error_iff_of_cases {read : String → Except Failure α} {tag : String} {missing : Failure}
    (cases : read tag = .error missing ∨ ∃ value, read tag = .ok value) (failure : Failure) :
    read tag = .error failure ↔ Unknown read tag ∧ failure = missing := by
  rcases cases with missed | ⟨value, found⟩
  · simp [Unknown, missed, eq_comm]
  · simp [Unknown, found]

end TagLemmas

open TagLemmas

theorem Dialect.ofTag_eq_error_iff (tag : String) (failure : Failure) :
    ofTag tag = .error failure ↔ Unknown ofTag tag ∧ failure = .unsupportedDialect tag :=
  eq_error_iff_of_cases (by rw [ofTag]; split <;> simp) failure

theorem Operation.ofTag_eq_error_iff (tag : String) (failure : Failure) :
    ofTag tag = .error failure ↔ Unknown ofTag tag ∧ failure = .unknownOperation tag :=
  eq_error_iff_of_cases (by rw [ofTag]; split <;> simp) failure

theorem Operator.ofTag_eq_error_iff (tag : String) (failure : Failure) :
    ofTag tag = .error failure ↔ Unknown ofTag tag ∧ failure = .unknownOperator tag :=
  eq_error_iff_of_cases (by rw [ofTag]; split <;> simp) failure

theorem Connector.ofTag_eq_error_iff (tag : String) (failure : Failure) :
    ofTag tag = .error failure ↔ Unknown ofTag tag ∧ failure = .unknownConnector tag :=
  eq_error_iff_of_cases (by rw [ofTag]; split <;> simp) failure

/-! ## 2. Names -/

/-- Whether a text is a name letter by letter, in any case. A kelvin sign stands for a `k` as well. -/
def Spells (name text : String) : Prop :=
  List.Forall₂ IsCaseOf (name.toList.map asciiLower) text.toList

/-- Whether a name is small and has nothing beyond ASCII. -/
def IsSmallName (name : String) : Prop :=
  ∀ letter ∈ name.toList, letter.toNat < 128 ∧ asciiLower letter = letter

instance : DecidablePred IsSmallName := fun name => List.decidableBAll _ name.toList

namespace TagLemmas

/-- The texts that are lowered to a small name. -/
theorem lower_eq_iff {name : String} (small : IsSmallName name) (text : String) :
    lower text = name ↔ Spells name text := by
  have letters : name.toList.map asciiLower = name.toList := by
    conv_rhs => rw [← List.map_id name.toList]
    exact List.map_congr_left fun letter mem => (small letter mem).2
  rw [← String.toList_inj, lower, String.toList_ofList,
    lowerChars_eq_iff fun letter mem => (small letter mem).1, Spells, letters]

/-- Without a `k` among the letters there is no place for a kelvin sign. -/
theorem forall₂_isCaseOf_iff {letters : List Char} (noKelvin : 'k' ∉ letters) (cs : List Char) :
    List.Forall₂ IsCaseOf letters cs ↔ letters = cs.map asciiLower := by
  induction letters generalizing cs with
  | nil => cases cs <;> simp
  | cons letter letters ih =>
    obtain ⟨first, others⟩ := not_or.mp (List.mem_cons.not.mp noKelvin)
    cases cs with
    | nil => simp
    | cons c cs => simp [ih others, IsCaseOf, Ne.symm first, eq_comm]

theorem spells_iff_of_no_kelvin {name : String} (noKelvin : 'k' ∉ name.toList.map asciiLower)
    (text : String) : Spells name text ↔ eqIgnoringAsciiCase name text = true := by
  rw [Spells, forall₂_isCaseOf_iff noKelvin, eqIgnoringAsciiCase_iff]

variable {α : Type}

/-- In a table without repeated names, each entry is found. -/
theorem lookup_eq_some_iff {table : List (String × α)} (distinct : (table.map Prod.fst).Nodup)
    {name : String} {value : α} : table.lookup name = some value ↔ (name, value) ∈ table := by
  induction table with
  | nil => simp
  | cons entry table ih =>
    obtain ⟨known, other⟩ := entry
    obtain ⟨new, distinct⟩ := List.nodup_cons.mp distinct
    rw [List.lookup_cons, List.mem_cons, Prod.mk.injEq]
    by_cases same : name = known
    · subst same
      have absent : (name, value) ∉ table := fun listed =>
        new (List.mem_map.mpr ⟨(name, value), listed, rfl⟩)
      simp [absent, eq_comm]
    · have missed : (name == known) = false := beq_eq_false_iff_ne.mpr same
      rw [missed, or_iff_right fun here => same here.1]
      exact ih distinct

/-- Looking up a lowered text in a table of small names. -/
theorem lookup_lower_iff {table : List (String × α)} (distinct : (table.map Prod.fst).Nodup)
    (small : ∀ entry ∈ table, IsSmallName entry.1) (text : String) (value : α) :
    table.lookup (lower text) = some value
      ↔ ∃ name, (name, value) ∈ table ∧ Spells name text := by
  rw [lookup_eq_some_iff distinct]
  constructor
  · intro listed
    exact ⟨_, listed, (lower_eq_iff (small _ listed) text).mp rfl⟩
  · rintro ⟨name, listed, spells⟩
    rwa [(lower_eq_iff (small _ listed) text).mpr spells]

/-- Searching for a value by its spelling, where the spellings are told apart in any case. -/
theorem find?_spelling_iff {spelling : α → String} {all : List α}
    (apart : ∀ value ∈ all, ∀ other ∈ all,
      eqIgnoringAsciiCase (spelling value) (spelling other) = true → value = other)
    (text : String) {value : α} (listed : value ∈ all) :
    all.find? (fun value => eqIgnoringAsciiCase (spelling value) text) = some value
      ↔ eqIgnoringAsciiCase (spelling value) text = true := by
  constructor
  · intro found
    exact List.find?_some (p := fun value => eqIgnoringAsciiCase (spelling value) text) found
  · intro spells
    cases found : all.find? fun value => eqIgnoringAsciiCase (spelling value) text with
    | none => exact absurd spells (List.find?_eq_none.mp found value listed)
    | some other =>
      have spells' : eqIgnoringAsciiCase (spelling other) text = true :=
        List.find?_some (p := fun value => eqIgnoringAsciiCase (spelling value) text) found
      rw [eqIgnoringAsciiCase_iff] at spells spells'
      have alike := eqIgnoringAsciiCase_iff.mpr (spells'.trans spells.symm)
      rw [apart other (List.mem_of_find?_eq_some found) value listed alike]

end TagLemmas

/-! ## 3. Known tags -/

/-- The names that a dialect is known by. -/
def Dialect.names : Dialect → List String
  | specification => ["specification", "jpa", "criteria"]
  | fluent => ["fluent", "mybatis-plus", "mybatis_plus", "mp"]
  | markup => ["markup", "mybatis", "xml"]

/-- The names that an operation is known by. -/
def Operation.names : Operation → List String
  | selectPage => ["select_page", "selectpage", "select-page", "page"]
  | operation => [operation.name]

/-- Whether a text is one of the names of a dialect. -/
def Dialect.IsNamed (dialect : Dialect) (text : String) : Prop :=
  ∃ name ∈ dialect.names, Spells name text

/-- Whether a text is one of the names of an operation. -/
def Operation.IsNamed (operation : Operation) (text : String) : Prop :=
  ∃ name ∈ operation.names, eqIgnoringAsciiCase name text = true

/-- Whether a text is the symbol of an operator. -/
def Operator.IsNamed (operator : Operator) (text : String) : Prop :=
  eqIgnoringAsciiCase operator.symbol text = true

/-- Whether a text is the keyword of a connector. -/
def Connector.IsNamed (connector : Connector) (text : String) : Prop :=
  eqIgnoringAsciiCase connector.keyword text = true

theorem Dialect.ofTag_eq_ok_iff (tag : String) (dialect : Dialect) :
    ofTag tag = .ok dialect ↔ dialect.IsNamed (trim tag) := by
  have reads : ofTag tag = .ok dialect ↔ aliases.lookup (lower (trim tag)) = some dialect := by
    rw [ofTag]
    cases aliases.lookup (lower (trim tag)) <;> simp
  rw [reads, lookup_lower_iff (by decide) (by decide)]
  refine exists_congr fun name => and_congr_left fun _ => ?_
  cases dialect <;> simp [aliases, names]

theorem Operation.ofTag_eq_ok_iff (tag : String) (operation : Operation) :
    ofTag tag = .ok operation ↔ operation.IsNamed (trim tag) := by
  have reads : ofTag tag = .ok operation ↔ aliases.lookup (lower (trim tag)) = some operation := by
    rw [ofTag]
    cases aliases.lookup (lower (trim tag)) <;> simp
  rw [reads, lookup_lower_iff (by decide) (by decide)]
  refine exists_congr fun name => ?_
  have listed : (name, operation) ∈ aliases ↔ name ∈ operation.names := by
    cases operation <;> simp [aliases, names, Operation.name]
  have noKelvin : ∀ name ∈ operation.names, 'k' ∉ name.toList.map asciiLower := by
    cases operation <;> decide
  rw [listed]
  exact and_congr_right fun mem => spells_iff_of_no_kelvin (noKelvin name mem) (trim tag)

theorem Operator.ofTag_eq_ok_iff (tag : String) (operator : Operator) :
    ofTag tag = .ok operator ↔ operator.IsNamed (trim tag) := by
  have listed : operator ∈ all := by cases operator <;> decide
  rw [IsNamed, ← find?_spelling_iff (by decide) (trim tag) listed, ofTag]
  cases all.find? fun operator => eqIgnoringAsciiCase operator.symbol (trim tag) <;> simp

theorem Connector.ofTag_eq_ok_iff (tag : String) (connector : Connector) :
    ofTag tag = .ok connector ↔ connector.IsNamed (trim tag) := by
  have listed : connector ∈ [and, or] := by cases connector <;> decide
  rw [IsNamed, ← find?_spelling_iff (by decide) (trim tag) listed, ofTag]
  cases [and, or].find? fun connector => eqIgnoringAsciiCase connector.keyword (trim tag) <;> simp

/-- Whether a reader takes a tag by what is left of it, and otherwise keeps the tag as it is. -/
structure ReadsTag (read : String → Except Failure α) (unread : String → Failure)
    (names : α → String → Prop) (tag core : String) : Prop where
  accepts : ∀ value, read tag = .ok value ↔ names value core
  rejects : ∀ failure,
    read tag = .error failure ↔ (∀ value, ¬ names value core) ∧ failure = unread tag

namespace TagLemmas

theorem readsTag_of_iff {read : String → Except Failure α} {unread : String → Failure}
    {names : α → String → Prop} {tag core : String}
    (accepts : ∀ value, read tag = .ok value ↔ names value core)
    (rejects : ∀ failure, read tag = .error failure ↔ Unknown read tag ∧ failure = unread tag) :
    ReadsTag read unread names tag core where
  accepts := accepts
  rejects failure := by
    rw [rejects, Unknown]
    simp only [ne_eq, accepts]

/-- The names of dialects have nothing beyond ASCII, which leaves the kelvin sign. -/
theorem ascii_or_kelvin_of_isNamed {dialect : Dialect} {text : String}
    (named : dialect.IsNamed text) : ∀ c ∈ text.toList, c.toNat < 128 ∨ c = '\u212A' := by
  obtain ⟨name, listed, spells⟩ := named
  have ascii : ∀ name ∈ dialect.names, ∀ letter ∈ name.toList.map asciiLower,
      letter.toNat < 128 := by
    cases dialect <;> decide
  exact CaseLemmas.ascii_or_kelvin (ascii name listed) spells

end TagLemmas

/-- A tag is understood by what is left of it without the white space around it. There it has to be
a name, in any case; only the dialects know a name by a character beyond ASCII, and only by the
kelvin sign. Otherwise the tag stays in the failure with its white space. -/
theorem tags_decided (tag : String) :
    (∀ core, trim tag = core ↔ Trims tag.toList core.toList)
      ∧ ReadsTag Dialect.ofTag .unsupportedDialect Dialect.IsNamed tag (trim tag)
      ∧ (∀ dialect, Dialect.ofTag tag = .ok dialect →
        ∀ c ∈ (trim tag).toList, c.toNat < 128 ∨ c = '\u212A')
      ∧ ReadsTag Operation.ofTag .unknownOperation Operation.IsNamed tag (trim tag)
      ∧ ReadsTag Operator.ofTag .unknownOperator Operator.IsNamed tag (trim tag)
      ∧ ReadsTag Connector.ofTag .unknownConnector Connector.IsNamed tag (trim tag) := by
  refine ⟨fun core => trim_eq_iff, ?_, fun dialect read => ?_, ?_, ?_, ?_⟩
  · exact readsTag_of_iff (Dialect.ofTag_eq_ok_iff tag) (Dialect.ofTag_eq_error_iff tag)
  · exact ascii_or_kelvin_of_isNamed ((Dialect.ofTag_eq_ok_iff tag dialect).mp read)
  · exact readsTag_of_iff (Operation.ofTag_eq_ok_iff tag) (Operation.ofTag_eq_error_iff tag)
  · exact readsTag_of_iff (Operator.ofTag_eq_ok_iff tag) (Operator.ofTag_eq_error_iff tag)
  · exact readsTag_of_iff (Connector.ofTag_eq_ok_iff tag) (Connector.ofTag_eq_error_iff tag)

/-- A tag between other white space than that of ASCII, with a kelvin sign in the middle. -/
def kelvinTag : String :=
  "\u2003MAR\u212Aup\u00A0\n"

theorem kelvinTag_decided :
    Dialect.ofTag kelvinTag = .ok .markup
      ∧ Dialect.markup.IsNamed (trim kelvinTag)
      ∧ ∀ c ∈ (trim kelvinTag).toList, c.toNat < 128 ∨ c = '\u212A' := by
  obtain ⟨-, reads, plain, -⟩ := tags_decided kelvinTag
  have read : Dialect.ofTag kelvinTag = .ok .markup := by decide +kernel
  exact ⟨read, (reads.accepts .markup).mp read, plain .markup read⟩

end QueryScribe
