import QueryScribe.Proofs.Query.Fields

/-!
# Field lists as ordered maps

Declared one after the other, the fields of an entity are a map from names to types that keeps an
order. The order and the types come from opposite ends of the declarations: a name has its place
from the first of them that has it, and its type from the last.

Results:
1. `field?_withField`, `field?_foldl`: the field that a name stands for.
2. `newNames_cons`, `fieldNames_foldl`: which names there are, and in which order.
3. `field?_eq_some_iff`, `declared_as_map`: an entity after any declarations.
-/

namespace QueryScribe

/-- The names that are not known yet, in the order of their first occurrence. -/
def newNames (known names : List String) : List String :=
  (names.filter (· ∉ known)).eraseDups

namespace Entity

/-- The field of a name after some declarations: the last one declared, or else the one that the
entity had before. -/
def latest? (before : Entity) (declared : List Field) (name : String) : Option Field :=
  (declared.findRev? (·.name = name)).or (before.field? name)

/-- Whether an entity is what some declarations make of another one, as an ordered map from names to
types. -/
structure DeclaredAs (before : Entity) (declared : List Field) (after : Entity) : Prop where
  name : after.name = before.name
  qualifiedName : after.qualifiedName = before.qualifiedName
  distinct : after.IsDistinct
  names : after.fieldNames
    = before.fieldNames ++ newNames before.fieldNames (declared.map (·.name))
  types : ∀ field ∈ after.fields, before.latest? declared field.name = some field
  lookup : ∀ name, after.field? name = before.latest? declared name
  has : ∀ name, after.hasField name = true
    ↔ name ∈ before.fieldNames ∨ name ∈ declared.map (·.name)

/-! ## 1. Types -/

namespace FieldMapLemmas

theorem find?_insertField (field : Field) (fields : List Field) (name : String) :
    (insertField field fields).find? (·.name = name)
      = if field.name = name then some field else fields.find? (·.name = name) := by
  induction fields with
  | nil =>
    rw [insertField, List.find?_cons]
    split <;> simp_all
  | cons other fields ih =>
    rw [insertField]
    by_cases same : other.name = field.name
    · -- The place is found. It has the same name as before, so that other names are not affected.
      rw [if_pos same, List.find?_cons, List.find?_cons, same]
      by_cases asked : field.name = name <;> simp [asked]
    · rw [if_neg same, List.find?_cons, List.find?_cons, ih]
      by_cases asked : field.name = name
      · have elsewhere : other.name ≠ name := fun named => same (named.trans asked.symm)
        simp [asked, elsewhere]
      · simp [asked]

end FieldMapLemmas

open FieldMapLemmas

/-- A declaration decides about its own name and no other. -/
theorem field?_withField (entity : Entity) (field : Field) (name : String) :
    (entity.withField field).field? name
      = if field.name = name then some field else entity.field? name :=
  find?_insertField field entity.fields name

/-- Of several declarations of a name, the last one counts. By induction on the declarations, the
first of which is what the others find there. -/
theorem field?_foldl (entity : Entity) (declared : List Field) (name : String) :
    (declared.foldl withField entity).field? name = entity.latest? declared name := by
  unfold latest?
  induction declared generalizing entity with
  | nil => rfl
  | cons field declared ih =>
    rw [List.foldl_cons, ih, field?_withField, List.findRev?]
    cases declared.findRev? (·.name = name) with
    | some later => rfl
    | none => by_cases asked : field.name = name <;> simp [asked]

/-! ## 2. Names -/

/-- The first name is new or it is not, and what is new after it does not have it. -/
theorem newNames_cons (known : List String) (name : String) (names : List String) :
    newNames known (name :: names)
      = if name ∈ known then newNames known names
        else name :: newNames (known ++ [name]) names := by
  unfold newNames
  split
  · next old => rw [List.filter_cons_of_neg (by simp [old])]
  · next new =>
    rw [List.filter_cons_of_pos (by simp [new]), List.eraseDups_cons, List.filter_filter]
    congr 2
    refine List.filter_congr fun other _ => ?_
    by_cases same : other = name <;> simp [same]

theorem fieldNames_withField (entity : Entity) (field : Field) :
    (entity.withField field).fieldNames
      = if field.name ∈ entity.fieldNames then entity.fieldNames
        else entity.fieldNames ++ [field.name] :=
  names_insertField field entity.fields

/-- Names stay where they are, and new ones follow in the order in which they first come. -/
theorem fieldNames_foldl (entity : Entity) (declared : List Field) :
    (declared.foldl withField entity).fieldNames
      = entity.fieldNames ++ newNames entity.fieldNames (declared.map (·.name)) := by
  induction declared generalizing entity with
  | nil => simp [newNames]
  | cons field declared ih =>
    rw [List.foldl_cons, ih, fieldNames_withField, List.map_cons, newNames_cons]
    split
    · rfl
    · rw [List.append_assoc, List.singleton_append]

/-! ## 3. Declarations -/

/-- Where no name comes twice, each of the fields is the one that its name stands for. -/
theorem field?_eq_some_iff {entity : Entity} (distinct : entity.IsDistinct) {name : String}
    {field : Field} : entity.field? name = some field ↔ field ∈ entity.fields ∧ field.name = name := by
  constructor
  · intro found
    exact ⟨List.mem_of_find?_eq_some found, by simpa using List.find?_some found⟩
  · rintro ⟨listed, rfl⟩
    have has : entity.hasField field.name = true :=
      (entity.hasField_iff field.name).mpr (List.mem_map_of_mem listed)
    obtain ⟨other, found⟩ := Option.isSome_iff_exists.mp has
    have named : other.name = field.name := by simpa using List.find?_some found
    rw [found, List.inj_on_of_nodup_map distinct (List.mem_of_find?_eq_some found) listed named]

theorem latest?_isSome_iff (before : Entity) (declared : List Field) (name : String) :
    (before.latest? declared name).isSome = true
      ↔ name ∈ before.fieldNames ∨ name ∈ declared.map (·.name) := by
  rw [← field?_foldl, ← hasField, hasField_iff, fieldNames_foldl]
  simp only [newNames, List.mem_append, List.mem_eraseDups, List.mem_filter, decide_eq_true_eq]
  tauto

theorem titles_foldl (entity : Entity) (declared : List Field) :
    (declared.foldl withField entity).name = entity.name
      ∧ (declared.foldl withField entity).qualifiedName = entity.qualifiedName := by
  induction declared generalizing entity with
  | nil => exact ⟨rfl, rfl⟩
  | cons field declared ih => exact ih (entity.withField field)

/-- Declarations, however many and in whatever order, leave the names of an entity as they are and
put the new ones after them, and give each name the type that it is declared with last. -/
theorem declared_as_map {entity : Entity} (distinct : entity.IsDistinct) (declared : List Field) :
    entity.DeclaredAs declared (declared.foldl withField entity) := by
  have stays : (declared.foldl withField entity).IsDistinct := isDistinct_foldl distinct declared
  refine {
    name := (titles_foldl entity declared).1
    qualifiedName := (titles_foldl entity declared).2
    distinct := stays
    names := fieldNames_foldl entity declared
    types := ?_
    lookup := field?_foldl entity declared
    has := ?_ }
  · intro field listed
    rw [← field?_foldl, field?_eq_some_iff stays]
    exact ⟨listed, rfl⟩
  · intro name
    rw [hasField, field?_foldl, latest?_isSome_iff]

/-- An author before any change. -/
def author : Entity :=
  ⟨"Author", "app.Author", [⟨"id", "Long"⟩, ⟨"name", "String"⟩]⟩

/-- Two new names, one of them twice, around a new type for an old one. -/
def authorChanges : List Field :=
  [⟨"email", "String"⟩, ⟨"name", "CharSequence"⟩, ⟨"born", "Integer"⟩, ⟨"email", "Email"⟩]

theorem author_declared :
    author.IsDistinct
      ∧ author.DeclaredAs authorChanges ⟨"Author", "app.Author", [⟨"id", "Long"⟩,
          ⟨"name", "CharSequence"⟩, ⟨"email", "Email"⟩, ⟨"born", "Integer"⟩]⟩ := by
  have distinct : author.IsDistinct := by decide
  exact ⟨distinct, declared_as_map distinct authorChanges⟩

end Entity

end QueryScribe
