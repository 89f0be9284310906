import Mathlib.Data.List.Nodup
import QueryScribe.Query.Basic

/-!
# Field lists

The fields of an entity are an ordered set under their names as long as they are declared one by
one: a name that is there already keeps its place, and a new one goes to the end. Of two such
entities, the shared fields are an ordered set again.

Results:
1. `names_insertField`: which names there are after a declaration.
2. `isDistinct_withField`, `isDistinct_ofFields`: declarations repeat no name.
3. `sharesOnce_of_isDistinct`, `perm_sharedNames`: what a query of such entities shares.
-/

namespace QueryScribe

/-- The names that an entity declares, in order. -/
def Entity.fieldNames (entity : Entity) : List String :=
  entity.fields.map (·.name)

/-- Whether no two fields of an entity have the same name. -/
def Entity.IsDistinct (entity : Entity) : Prop :=
  entity.fieldNames.Nodup

instance (entity : Entity) : Decidable entity.IsDistinct :=
  inferInstanceAs (Decidable entity.fieldNames.Nodup)

/-- The names of the fields that the two sides of a query share, in order. -/
def Query.sharedNames (query : Query) : List String :=
  query.sharedFields.map (·.name)

/-- Whether the shared fields of a query are an ordered set: no name comes twice, they stand in the
source's order, and their names are exactly those that both sides declare. -/
structure Query.SharesOnce (query : Query) : Prop where
  distinct : query.sharedNames.Nodup
  ordered : query.sharedFields.Sublist query.source.fields
  shared : ∀ name, name ∈ query.sharedNames
    ↔ query.source.hasField name = true ∧ query.target.hasField name = true

namespace Entity

/-! ## 1. Names -/

/-- An entity has a field of every name that it declares, and of no other. -/
theorem hasField_iff (entity : Entity) (name : String) :
    entity.hasField name = true ↔ name ∈ entity.fieldNames := by
  rw [hasField, field?, List.isSome_find?, List.any_eq_true, fieldNames, List.mem_map]
  constructor
  · rintro ⟨field, mem, same⟩
    exact ⟨field, mem, of_decide_eq_true same⟩
  · rintro ⟨field, mem, same⟩
    exact ⟨field, mem, decide_eq_true same⟩

/-- A declaration adds its name at the end, unless the name is there already. -/
theorem names_insertField (field : Field) (fields : List Field) :
    (insertField field fields).map (·.name)
      = if field.name ∈ fields.map (·.name) then fields.map (·.name)
        else fields.map (·.name) ++ [field.name] := by
  induction fields with
  | nil => simp [insertField]
  | cons other fields ih =>
    rw [insertField]
    split
    · next same => simp [same]
    · next differs =>
      rw [List.map_cons, List.map_cons, ih]
      have absent : field.name ∈ other.name :: fields.map (·.name)
          ↔ field.name ∈ fields.map (·.name) := by
        rw [List.mem_cons, or_iff_right (Ne.symm differs)]
      rw [if_congr absent rfl rfl]
      split <;> rfl

/-! ## 2. Declarations -/

/-- A declaration repeats no name. -/
theorem isDistinct_withField {entity : Entity} (distinct : entity.IsDistinct) (field : Field) :
    (entity.withField field).IsDistinct := by
  rw [IsDistinct, fieldNames, withField, names_insertField]
  split
  · exact distinct
  · next absent =>
    refine List.nodup_append.mpr ⟨distinct, List.nodup_singleton _, fun name mem other last => ?_⟩
    rw [List.mem_singleton.mp last]
    exact fun same => absent (same ▸ mem)

/-- Declarations one after the other repeat no name, by induction on the fields. -/
theorem isDistinct_foldl {entity : Entity} (distinct : entity.IsDistinct) (fields : List Field) :
    (fields.foldl withField entity).IsDistinct := by
  induction fields generalizing entity with
  | nil => exact distinct
  | cons field fields ih => exact ih (isDistinct_withField distinct field)

/-- An entity that is built by declarations has no name twice, whatever is declared. -/
theorem isDistinct_ofFields (name qualifiedName : String) (fields : List Field) :
    (ofFields name qualifiedName fields).IsDistinct :=
  have undeclared : (⟨name, qualifiedName, []⟩ : Entity).IsDistinct := List.nodup_nil
  isDistinct_foldl undeclared fields

theorem isDistinct_empty : empty.IsDistinct :=
  List.nodup_nil

end Entity

/-! ## 3. Shared fields -/

namespace Query

/-- The shared names are those of the source that the target declares. -/
theorem mem_sharedNames (query : Query) (name : String) :
    name ∈ query.sharedNames
      ↔ query.source.hasField name = true ∧ query.target.hasField name = true := by
  rw [sharedNames, sharedFields, List.mem_map, Entity.hasField_iff query.source,
    Entity.fieldNames, List.mem_map]
  constructor
  · rintro ⟨field, mem, rfl⟩
    obtain ⟨declared, shared⟩ := List.mem_filter.mp mem
    exact ⟨⟨field, declared, rfl⟩, shared⟩
  · rintro ⟨⟨field, declared, rfl⟩, shared⟩
    exact ⟨field, List.mem_filter.mpr ⟨declared, shared⟩, rfl⟩

/-- A source without repeated names shares each of them at most once. -/
theorem sharesOnce_of_isDistinct {query : Query} (source : query.source.IsDistinct) :
    query.SharesOnce where
  distinct := source.sublist (List.filter_sublist.map _)
  ordered := List.filter_sublist
  shared := query.mem_sharedNames

/-- Where the sides of a query are exchanged, the same names are shared, in the order of the other
side. -/
theorem perm_sharedNames {query swapped : Query} (source : query.source.IsDistinct)
    (target : query.target.IsDistinct) (newSource : swapped.source = query.target)
    (newTarget : swapped.target = query.source) :
    swapped.sharedNames.Perm query.sharedNames := by
  have once : swapped.SharesOnce := sharesOnce_of_isDistinct (newSource ▸ target)
  refine (List.perm_ext_iff_of_nodup once.distinct (sharesOnce_of_isDistinct source).distinct).mpr
    fun name => ?_
  rw [mem_sharedNames, mem_sharedNames, newSource, newTarget]
  exact and_comm

end Query

end QueryScribe
