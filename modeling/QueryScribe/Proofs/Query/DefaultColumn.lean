import QueryScribe.Proofs.Query.Fields
import QueryScribe.Proofs.Text.Case

/-!
# Default columns

A name stands for the first declared field that is alike, where the case of ASCII letters does not
count, and without such a field for the first one of all. Either way it is a declared name that
comes out, and that stands for itself.

Results:
1. `resolveColumn_eq_iff`: the column that a name stands for.
2. `Defaults.stands`, `Defaults.mem_fieldNames`, `resolveColumn_congr`: what keeps it.
3. `resolveColumn_stable`: both together, for all names of an entity.
-/

namespace QueryScribe

open Text

namespace Entity

/-- Which column a name stands for. -/
inductive Defaults (entity : Entity) (name : String) : String → Prop
  | alike {before : List Field} {field : Field} {after : List Field}
      (fields : entity.fields = before ++ field :: after)
      (earlier : ∀ other ∈ before, eqIgnoringAsciiCase other.name name = false)
      (alike : eqIgnoringAsciiCase field.name name = true) : Defaults entity name field.name
  | first {field : Field} {others : List Field} (fields : entity.fields = field :: others)
      (unlike : ∀ other ∈ entity.fields, eqIgnoringAsciiCase other.name name = false) :
      Defaults entity name field.name
  | empty (fields : entity.fields = []) : Defaults entity name ""

/-- Whether the declared names are told apart in any case. -/
def IsApart (entity : Entity) : Prop :=
  ∀ field ∈ entity.fields, ∀ other ∈ entity.fields,
    eqIgnoringAsciiCase field.name other.name = true → field.name = other.name

instance (entity : Entity) : Decidable entity.IsApart :=
  List.decidableBAll _ entity.fields

/-! ## 1. Columns -/

namespace DefaultsLemmas

theorem alike_refl (name : String) : eqIgnoringAsciiCase name name = true :=
  eqIgnoringAsciiCase_iff.mpr rfl

/-- Names that are alike are alike the same names. -/
theorem alike_congr {name other : String} (alike : eqIgnoringAsciiCase name other = true)
    (third : String) : eqIgnoringAsciiCase third name = eqIgnoringAsciiCase third other := by
  rw [Bool.eq_iff_iff, eqIgnoringAsciiCase_iff, eqIgnoringAsciiCase_iff,
    eqIgnoringAsciiCase_iff.mp alike]

theorem defaults_resolveColumn (entity : Entity) (name : String) :
    entity.Defaults name (entity.resolveColumn name) := by
  unfold resolveColumn
  split
  · next field found =>
    obtain ⟨alike, before, after, fields, earlier⟩ := List.find?_eq_some_iff_append.mp found
    refine .alike fields (fun other mem => ?_) alike
    simpa using earlier other mem
  · next none =>
    have unlike : ∀ other ∈ entity.fields, eqIgnoringAsciiCase other.name name = false := by
      simpa using none
    split
    · next fields => exact .empty fields
    · next field others fields => exact .first fields unlike

theorem resolveColumn_of_defaults {entity : Entity} {name column : String}
    (defaults : entity.Defaults name column) : entity.resolveColumn name = column := by
  unfold resolveColumn
  cases defaults with
  | @alike before field after fields earlier alike =>
    have found : (entity.fields.find? fun field => eqIgnoringAsciiCase field.name name)
        = some field := by
      rw [List.find?_eq_some_iff_append]
      exact ⟨alike, before, after, fields, fun other mem => by simp [earlier other mem]⟩
    rw [found]
  | first fields unlike =>
    have none : (entity.fields.find? fun field => eqIgnoringAsciiCase field.name name) = none := by
      simpa using unlike
    rw [none, fields]
  | empty fields => simp [fields]

end DefaultsLemmas

open DefaultsLemmas

theorem resolveColumn_eq_iff {entity : Entity} {name column : String} :
    entity.resolveColumn name = column ↔ entity.Defaults name column := by
  constructor
  · rintro rfl
    exact defaults_resolveColumn entity name
  · exact resolveColumn_of_defaults

/-! ## 2. Stability -/

/-- A column stands for itself. Where it is alike the name, both are alike the same fields, so that
no earlier field comes in between. -/
theorem Defaults.stands {entity : Entity} {name column : String}
    (defaults : entity.Defaults name column) : entity.Defaults column column := by
  cases defaults with
  | alike fields earlier alike =>
    refine .alike fields (fun other mem => ?_) (alike_refl _)
    rw [alike_congr alike]
    exact earlier other mem
  | @first field others fields _ =>
    have front : entity.fields = [] ++ field :: others := fields
    exact .alike front (by simp) (alike_refl field.name)
  | empty fields => exact .empty fields

/-- The column of an entity with fields is one of their names. -/
theorem Defaults.mem_fieldNames {entity : Entity} {name column : String}
    (defaults : entity.Defaults name column) (some : entity.fields ≠ []) :
    column ∈ entity.fieldNames := by
  cases defaults with
  | alike fields _ _ => simp [fieldNames, fields]
  | first fields _ => simp [fieldNames, fields]
  | empty fields => exact absurd fields some

/-- Where the declared names are told apart, each of them stands for itself. -/
theorem Defaults.eq_name {entity : Entity} (apart : entity.IsApart) {field : Field}
    (listed : field ∈ entity.fields) {column : String}
    (defaults : entity.Defaults field.name column) : column = field.name := by
  cases defaults with
  | @alike before other after fields _ alike =>
    exact apart other (by simp [fields]) field listed alike
  | first _ unlike => exact absurd (alike_refl field.name) (by simp [unlike field listed])
  | empty fields =>
    rw [fields] at listed
    exact absurd listed List.not_mem_nil

theorem resolveColumn_congr (entity : Entity) {name other : String}
    (alike : eqIgnoringAsciiCase name other = true) :
    entity.resolveColumn name = entity.resolveColumn other := by
  unfold resolveColumn
  simp only [alike_congr alike]

/-- A name stands for one column, which is declared if anything is, which stands for itself, and
which the name has in common with those that are alike. Names that are declared stand for themselves
if no two of them are alike. -/
theorem resolveColumn_stable (entity : Entity) (name : String) :
    (∀ column, entity.resolveColumn name = column ↔ entity.Defaults name column)
      ∧ (entity.fields ≠ [] → entity.resolveColumn name ∈ entity.fieldNames)
      ∧ entity.resolveColumn (entity.resolveColumn name) = entity.resolveColumn name
      ∧ (∀ other, eqIgnoringAsciiCase name other = true →
        entity.resolveColumn name = entity.resolveColumn other)
      ∧ (entity.IsApart → ∀ field ∈ entity.fields,
        entity.resolveColumn field.name = field.name) := by
  have defaults := defaults_resolveColumn entity name
  refine ⟨fun column => resolveColumn_eq_iff, defaults.mem_fieldNames, ?_, ?_, ?_⟩
  · exact resolveColumn_of_defaults defaults.stands
  · exact fun other alike => resolveColumn_congr entity alike
  · exact fun apart field listed => (defaults_resolveColumn entity field.name).eq_name apart listed

/-- An account whose names are told apart in any case. -/
def account : Entity :=
  ⟨"Account", "app.Account", [⟨"id", "Long"⟩, ⟨"userName", "String"⟩, ⟨"tags", "Set<String>"⟩]⟩

theorem account_columns :
    account.fields ≠ []
      ∧ account.resolveColumn "owner" ∈ account.fieldNames
      ∧ account.resolveColumn (account.resolveColumn "owner") = account.resolveColumn "owner"
      ∧ account.resolveColumn "USERNAME" = account.resolveColumn "username"
      ∧ account.IsApart
      ∧ account.resolveColumn "tags" = "tags" := by
  have some : account.fields ≠ [] := by decide
  have apart : account.IsApart := by decide
  obtain ⟨-, declared, stands, -, own⟩ := resolveColumn_stable account "owner"
  obtain ⟨-, -, -, shared, -⟩ := resolveColumn_stable account "USERNAME"
  exact ⟨some, declared some, stands, shared "username" (by decide), apart,
    own apart ⟨"tags", "Set<String>"⟩ (by decide)⟩

end Entity

end QueryScribe
