import QueryScribe.Json.Quoted

/-!
# Writing values

Arrays and objects are written without any space, from the texts of their parts.
-/

namespace QueryScribe.Json

/-- An array of the items. -/
def writeArray (items : List String) : String :=
  "[" ++ ",".intercalate items ++ "]"

/-- A member of an object. -/
def writeMember (member : String × String) : String :=
  quote member.1 ++ ":" ++ member.2

/-- An object with the members, keys first. -/
def writeObject (members : List (String × String)) : String :=
  "\x7b" ++ ",".intercalate (members.map writeMember) ++ "\x7d"

end QueryScribe.Json
