import QueryScribe.Declaration.Name
import QueryScribe.Declaration.Setting
import QueryScribe.Declaration.TypeExpr
import QueryScribe.Query.Entity

/-!
# Declared structs

A struct with named fields describes an entity. The fields that are not skipped become the entity's
fields, in order. A declaration is refused for its shape first, then for its settings, and at last
for the types of the fields that are kept.
-/

namespace QueryScribe.Declaration

/-- A named field of a struct, with the word that names it as it is written. -/
structure FieldItem where
  word : String
  type : TypeExpr
  settings : List Setting

/-- What a declaration is: a struct with named fields, another struct, or no struct. -/
inductive Shape
  | namedFields (fields : List FieldItem)
  | otherStruct
  | noStruct

/-- A declaration, with the word that names it as it is written. -/
structure Item where
  word : String
  settings : List Setting
  shape : Shape

namespace FieldItem

/-- The field's name, without the sign of a raw identifier. -/
def name (field : FieldItem) : String :=
  plainName field.word

/-- Whether the entity has the field. -/
def isKept (field : FieldItem) : Bool :=
  !Setting.isOn "skip" field.settings

/-- The field's name in the entity: as set, or else in the style. -/
def describedName (style : NameStyle) (field : FieldItem) : String :=
  (Setting.textOf? "rename" field.settings).getD (style.apply field.name)

/-- The field's declared type: as set, or else that of its type expression. -/
def declaredType? (field : FieldItem) : Option String :=
  (Setting.textOf? "type_name" field.settings).or field.type.declared?

/-- The field as the entity declares it. -/
def describe? (style : NameStyle) (field : FieldItem) : Option Field :=
  field.declaredType?.map fun declaredType => ⟨field.describedName style, declaredType⟩

end FieldItem

namespace Item

/-- The name of what is declared, without the sign of a raw identifier. -/
def name (item : Item) : String :=
  plainName item.word

/-- The entity's name: as set, or else the struct's. -/
def describedName (item : Item) : String :=
  (Setting.textOf? "name" item.settings).getD item.name

/-- The entity's qualified name: as set, or else the entity's name in the module. -/
def qualifiedName (moduleName : String) (item : Item) : String :=
  (Setting.textOf? "qualified" item.settings).getD (moduleName ++ "::" ++ item.describedName)

/-- The style of the field names. -/
def style (item : Item) : NameStyle :=
  (Setting.styleOf? "rename_all" item.settings).getD .camel

/-- The complaints about the settings of a struct and of its fields. -/
def settingComplaints (item : Item) (fields : List FieldItem) : List Complaint :=
  Setting.complaints Setting.structKeys item.settings
    ++ fields.flatMap fun field => Setting.complaints Setting.fieldKeys field.settings

/-- One complaint for each field without a declared type, in the order of the fields. -/
def typeComplaints (fields : List FieldItem) : List Complaint :=
  (fields.filter (·.declaredType?.isNone)).map fun field => .noDeclaredType field.word

/-- The entity that a declaration in a module describes. -/
def describe (moduleName : String) (item : Item) : Except (List Complaint) Entity :=
  match item.shape with
  | .noStruct => .error [.onlyStructs]
  | .otherStruct => .error [.needsNamedFields]
  | .namedFields fields =>
    let kept := fields.filter (·.isKept)
    match item.settingComplaints fields, typeComplaints kept with
    | [], [] =>
      .ok (.ofFields item.describedName (item.qualifiedName moduleName)
        (kept.filterMap (·.describe? item.style)))
    | [], complaints => .error complaints
    | complaints, _ => .error complaints

end Item

end QueryScribe.Declaration
