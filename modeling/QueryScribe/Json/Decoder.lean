import QueryScribe.Json.Fault
import QueryScribe.Json.Reader

/-!
# Decoding values

A decoder takes a value for something or finds a fault in it. Values are walked over in the order of
the text, and the first fault counts.

A record is decoded from an object or from an array. The members of an object may come in any order
and may be unknown, in which case they are passed over; a known key may come once. The items of an
array stand for the record's slots in order, and an optional slot may be left out when the array
ends before it.
-/

namespace QueryScribe.Json

/-- How a value is taken for an `α`. -/
abbrev Decoder (α : Type) := Value → Except Fault α

/-! ## Plain values -/

/-- Takes a string. -/
def decodeString : Decoder String
  | .string (some content) => .ok content
  | value => .error (.mismatch value "a string")

/-- Takes the items of an array one by one. -/
def decodeItems (decode : Decoder α) : Items → Except Fault (List α)
  | .done => .ok []
  | .broken => .error .malformed
  | .cons item items => do
    let first ← decode item
    let others ← decodeItems decode items
    return first :: others

/-- Takes an array. -/
def decodeList (decode : Decoder α) : Decoder (List α)
  | .array items => decodeItems decode items
  | value => .error (.mismatch value "a sequence")

/-! ## Variants -/

/-- Takes the text of a variant. -/
def decodeVariant (variants : List (String × α)) (text : Option String) : Except Fault α :=
  match text with
  | none => .error .malformed
  | some text =>
    match variants.lookup text with
    | some variant => .ok variant
    | none => .error (.unknownVariant text (variants.map (·.1)))

/-- Takes one of several variants: its text, or an object with the text as its only key and nothing
as the value. -/
def decodeVariants (variants : List (String × α)) : Decoder α
  | .string text => decodeVariant variants text
  | .object (.cons key value members) => do
    let variant ← decodeVariant variants key
    match value, members with
    | .null, .done => return variant
    | .null, _ => throw .malformed
    | value, _ => throw (.mismatch value "unit")
  | .object (.broken found) => .error (.mismatch found "variant identifier")
  | _ => .error .malformed

/-! ## Records -/

/-- A part of a record: the key it is stored under, whether it has to be there, and how a value for
it is put into the record. -/
structure Slot (α : Type) where
  key : String
  isRequired : Bool
  fill : Value → α → Except Fault α

/-- A slot that is filled by what a decoder takes. -/
def Slot.of (key : String) (isRequired : Bool) (decode : Decoder β) (put : β → α → α) : Slot α :=
  ⟨key, isRequired, fun value record => (decode value).map fun part => put part record⟩

/-- How a record is stored: its name, its slots in the order of their declaration, and the record in
which no slot has been filled, which holds the defaults of the optional ones. -/
structure Record (α : Type) where
  name : String
  slots : List (Slot α)
  unfilled : α

namespace Record

/-- The slot with a key. -/
def slot? (record : Record α) (key : String) : Option (Slot α) :=
  record.slots.find? (·.key = key)

/-- Takes the members of an object one by one into a record that has been filled under the keys
`taken`. Gives the keys that are taken at the end, too. -/
def takeMembers (record : Record α) (taken : List String) (filled : α) :
    Members → Except Fault (List String × α)
  | .done => .ok (taken, filled)
  | .broken _ => .error .malformed
  | .cons none _ _ => .error .malformed
  | .cons (some key) value members =>
    match record.slot? key with
    | none =>
      if value.isWhole then record.takeMembers taken filled members else .error .malformed
    | some slot =>
      if key ∈ taken then .error (.duplicateField key)
      else do
        let filled ← slot.fill value filled
        record.takeMembers (key :: taken) filled members

/-- The first slot that has to be filled and is not among those that are. -/
def missing? (record : Record α) (taken : List String) : Option (Slot α) :=
  record.slots.find? fun slot => slot.isRequired && !taken.contains slot.key

/-- The record stored in the members of an object. -/
def ofMembers (record : Record α) (members : Members) : Except Fault α := do
  let (taken, filled) ← record.takeMembers [] record.unfilled members
  match record.missing? taken with
  | some slot => throw (.missingField slot.key)
  | none => return filled

/-- What an array for the record should be. -/
def arrayDescription (record : Record α) : String :=
  "struct " ++ record.name ++ " with " ++ toString record.slots.length ++ " elements"

/-- Takes the items of an array for slots, the first of which has the given position. -/
def takeItems (record : Record α) (position : Nat) (filled : α) :
    List (Slot α) → Items → Except Fault α
  | [], .done => .ok filled
  | [], _ => .error .malformed
  | _ :: _, .broken => .error .malformed
  | slot :: slots, .done =>
    if slot.isRequired then .error (.tooShort position record.arrayDescription)
    else record.takeItems (position + 1) filled slots .done
  | slot :: slots, .cons item items => do
    let filled ← slot.fill item filled
    record.takeItems (position + 1) filled slots items

/-- Takes a record. -/
def decode (record : Record α) : Decoder α
  | .object members => record.ofMembers members
  | .array items => record.takeItems 0 record.unfilled record.slots items
  | value => .error (.mismatch value ("struct " ++ record.name))

end Record

/-- What a text stands for. A fault in the value comes before anything that follows it. -/
def decodeText (decode : Decoder α) (text : String) : Except Fault α := do
  let (value, more) := read text
  let result ← decode value
  if more then throw .malformed else return result

end QueryScribe.Json
