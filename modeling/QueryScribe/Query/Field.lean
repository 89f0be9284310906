import QueryScribe.Text.Occurrence

/-!
# Fields

A field has a name and a declared type. How its value is checked and compared depends on the
declared type only through one of three categories.
-/

namespace QueryScribe

/-- What a declared type holds, as far as guards and conditions care. -/
inductive Category
  | text
  | collection
  | scalar
  deriving Repr, DecidableEq

namespace Category

/-- The name of the category. -/
def name : Category → String
  | text => "text"
  | collection => "collection"
  | scalar => "scalar"

/-- The words that make any declared type that has one of them a collection. -/
def collectionMarkers : List String :=
  ["List", "Set", "Collection"]

/-- The category of a declared type: text for `String` alone, a collection wherever a marker
occurs, scalar otherwise. -/
def ofType (declaredType : String) : Category :=
  if declaredType = "String" then text
  else if collectionMarkers.any fun marker => Text.occurs marker.toList declaredType.toList then
    collection
  else scalar

end Category

/-- A field and the name of its declared type. -/
structure Field where
  name : String
  declaredType : String
  deriving Repr, DecidableEq

/-- The category of the field's declared type. -/
def Field.category (field : Field) : Category :=
  .ofType field.declaredType

end QueryScribe
