import QueryScribe.Declaration.Token
import QueryScribe.Declaration.NameStyle

/-!
# Settings

Attributes of a struct and of its fields say how the struct is described. All settings of an item
are taken in order; a key counts the first time, whether or not its value can be used, and every
problem is reported.
-/

namespace QueryScribe.Declaration

/-- A setting as it is written. An attribute that is itself assigned a value has no settings and is
kept as `assigned`. -/
inductive Setting
  | assigned
  | bare (value : Literal)
  | word (key : String)
  | list (key : String)
  | value (key : String) (value : Literal)
  deriving Repr, DecidableEq

/-- What is wrong with a declaration. Where a type has no name, the field is given as it is
written. -/
inductive Complaint
  | onlyStructs
  | needsNamedFields
  | assignedAttribute
  | unexpectedFormat (format : String)
  | unexpectedType (kind : String)
  | unknownValue (value : String)
  | duplicateKey (key : String)
  | unknownKey (key : String) (known : List String)
  | noDeclaredType (field : String)
  deriving Repr, DecidableEq

/-- A name between backquotes. -/
def ticked (name : String) : String :=
  "`" ++ name ++ "`"

/-- The wording of a complaint. -/
def Complaint.message : Complaint → String
  | onlyStructs => "Describe can only be derived for structs"
  | needsNamedFields => "Describe requires named fields"
  | assignedAttribute => "Name-value arguments are not supported. Use #[describe(...)]"
  | unexpectedFormat format => "Unexpected meta-item format " ++ ticked format
  | unexpectedType kind => "Unexpected type " ++ ticked kind
  | unknownValue value => "Unknown value: " ++ ticked value
  | duplicateKey key => "Duplicate field " ++ ticked key
  | unknownKey key known =>
    "Unknown field: " ++ ticked key ++ ". Available values: " ++ ", ".intercalate (known.map ticked)
  | noDeclaredType _ =>
    "cannot map this type to a declared type name; add #[describe(type_name = \"...\")]"

namespace Setting

/-- The key of a setting that has one. -/
def key? : Setting → Option String
  | word key | list key | value key _ => some key
  | assigned | bare _ => none

/-! ## Values -/

/-- The value of a setting that takes a text. -/
def text : Setting → Except Complaint String
  | value _ (.string content) => .ok content
  | value _ literal => .error (.unexpectedType literal.kind)
  | word _ => .error (.unexpectedFormat "word")
  | list _ => .error (.unexpectedFormat "list")
  | bare _ => .error (.unexpectedFormat "literal")
  | assigned => .error .assignedAttribute

/-- The value of a setting that is on or off. Its name alone turns it on. -/
def flag : Setting → Except Complaint Bool
  | word _ => .ok true
  | value _ (.bool on) => .ok on
  | value _ (.string "true") => .ok true
  | value _ (.string "false") => .ok false
  | value _ (.string content) => .error (.unknownValue content)
  | setting => do
    let _ ← setting.text
    return false

/-- The value of a setting that takes the name of a style. -/
def style (setting : Setting) : Except Complaint NameStyle := do
  let name ← setting.text
  match NameStyle.ofName? name with
  | some style => return style
  | none => throw (.unknownValue name)

/-! ## Keys -/

/-- What a key takes. -/
inductive Kind
  | text
  | flag
  | style
  deriving Repr, DecidableEq

/-- The complaint that a result is, if it is one. -/
def complaintOf? : Except Complaint α → Option Complaint
  | .ok _ => none
  | .error complaint => some complaint

/-- The complaint about a setting whose key takes the kind. -/
def complaint? (kind : Kind) (setting : Setting) : Option Complaint :=
  match kind with
  | .text => complaintOf? setting.text
  | .flag => complaintOf? setting.flag
  | .style => complaintOf? setting.style

/-- The keys of a struct's settings, as they are listed to users. -/
def structKeys : List (String × Kind) :=
  [("name", .text), ("qualified", .text), ("rename_all", .style)]

/-- The keys of a field's settings, as they are listed to users. -/
def fieldKeys : List (String × Kind) :=
  [("rename", .text), ("skip", .flag), ("type_name", .text)]

/-- The complaints about settings that follow others with the keys `taken`. -/
def complaintsAfter (known : List (String × Kind)) (taken : List String) :
    List Setting → List Complaint
  | [] => []
  | setting :: settings =>
    match setting.key? with
    | none =>
      (complaint? .text setting).toList ++ complaintsAfter known taken settings
    | some key =>
      match known.lookup key with
      | none => .unknownKey key (known.map (·.1)) :: complaintsAfter known taken settings
      | some kind =>
        if key ∈ taken then .duplicateKey key :: complaintsAfter known taken settings
        else (complaint? kind setting).toList ++ complaintsAfter known (key :: taken) settings

/-- The complaints about the settings of an item. -/
def complaints (known : List (String × Kind)) (settings : List Setting) : List Complaint :=
  complaintsAfter known [] settings

/-- The first setting with a key. -/
def find? (key : String) (settings : List Setting) : Option Setting :=
  settings.find? fun setting => setting.key? = some key

/-- The text set for a key. -/
def textOf? (key : String) (settings : List Setting) : Option String := do
  (← find? key settings).text.toOption

/-- Whether a key is turned on. -/
def isOn (key : String) (settings : List Setting) : Bool :=
  ((find? key settings).bind (·.flag.toOption)).getD false

/-- The style set for a key. -/
def styleOf? (key : String) (settings : List Setting) : Option NameStyle := do
  (← find? key settings).style.toOption

end Setting

end QueryScribe.Declaration
