import QueryScribe.Json.Numeral
import QueryScribe.Text.Quoted

/-!
# Values as far as they can be read

A text is read from left to right. Where it stops being a value the tree ends in `broken`, so that
whoever walks over the tree in order meets the first problem of the text first. A string whose
escapes do not denote characters is kept without content: it can be passed over but not used.
-/

namespace QueryScribe.Json

mutual

/-- A value, or the point at which a text stops being one. -/
inductive Value
  | null
  | bool (value : Bool)
  | number (numeral : Numeral)
  | string (content : Option String)
  | array (items : Items)
  | object (members : Members)
  | broken

/-- The items of an array, up to its end or to the first problem. -/
inductive Items
  | done
  | broken
  | cons (item : Value) (items : Items)

/-- The members of an object, up to its end or to the first problem. Where a key was to be read,
`found` is what stands in its place. -/
inductive Members
  | done
  | broken (found : Value)
  | cons (key : Option String) (value : Value) (members : Members)

end

namespace Value

/-- The value with its kind, as messages name it. Text that is no value has no description. -/
def description? : Value → Option String
  | null => some "null"
  | bool value => some ("boolean `" ++ (if value then "true" else "false") ++ "`")
  | number numeral => numeral.number?.map (·.description)
  | string content => content.map ("string " ++ Text.quoted ·)
  | array _ => some "sequence"
  | object _ => some "map"
  | broken => none

end Value

mutual

/-- Whether a value has no problem anywhere inside. -/
def Value.isWhole : Value → Bool
  | .array items => items.isWhole
  | .object members => members.isWhole
  | .broken => false
  | _ => true

/-- Whether the items of an array have no problem anywhere inside. -/
def Items.isWhole : Items → Bool
  | .done => true
  | .broken => false
  | .cons item items => item.isWhole && items.isWhole

/-- Whether the members of an object have no problem anywhere inside. -/
def Members.isWhole : Members → Bool
  | .done => true
  | .broken _ => false
  | .cons _ value members => value.isWhole && members.isWhole

end

end QueryScribe.Json
