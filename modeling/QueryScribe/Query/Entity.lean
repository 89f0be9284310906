import QueryScribe.Query.Field
import QueryScribe.Text.Case

/-!
# Entities

A source or target of a query: a named type with declared fields, in the order of their
declaration.
-/

namespace QueryScribe

/-- A type with fields. Its name goes into code, its qualified name says where it is declared. -/
structure Entity where
  name : String
  qualifiedName : String
  fields : List Field
  deriving Repr, DecidableEq

namespace Entity

/-- The entity without names or fields. -/
def empty : Entity :=
  ⟨"", "", []⟩

/-- Puts a field where the first one of its name stands, or at the end if there is none. -/
def insertField (field : Field) : List Field → List Field
  | [] => [field]
  | other :: fields =>
    if other.name = field.name then field :: fields else other :: insertField field fields

/-- Declares a field. A field of the same name gives way to it and keeps its place. -/
def withField (entity : Entity) (field : Field) : Entity :=
  { entity with fields := insertField field entity.fields }

/-- The entity that declares the fields one after the other. -/
def ofFields (name qualifiedName : String) (fields : List Field) : Entity :=
  fields.foldl withField ⟨name, qualifiedName, []⟩

/-- The first field of the name. -/
def field? (entity : Entity) (name : String) : Option Field :=
  entity.fields.find? (·.name = name)

/-- Whether the entity declares a field of the name. -/
def hasField (entity : Entity) (name : String) : Bool :=
  (entity.field? name).isSome

/-- The column a field name stands for by default: the first field whose name differs at most in
ASCII case, or else the first field, or else nothing. -/
def resolveColumn (entity : Entity) (name : String) : String :=
  match entity.fields.find? fun field => Text.eqIgnoringAsciiCase field.name name with
  | some field => field.name
  | none => match entity.fields with
    | [] => ""
    | field :: _ => field.name

end Entity

end QueryScribe
