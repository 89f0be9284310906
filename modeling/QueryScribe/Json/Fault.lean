import QueryScribe.Json.Value
import QueryScribe.Query.Failure

/-!
# Faults

Why a value cannot be taken for what it should be.
-/

namespace QueryScribe.Json

/-- The cause for which a value is not taken. A text that is no value at all is `malformed`. -/
inductive Fault
  | malformed
  | wrongType (found expected : String)
  | tooShort (length : Nat) (expected : String)
  | missingField (key : String)
  | duplicateField (key : String)
  | unknownVariant (text : String) (expected : List String)
  | refused (failure : Failure)
  deriving Repr, DecidableEq

namespace Fault

/-- The fault of a value of the wrong type, which must be a value in the first place. -/
def mismatch (value : Value) (expected : String) : Fault :=
  match value.description? with
  | some found => wrongType found expected
  | none => malformed

/-- The wording of a fault, if it has one. -/
def message? : Fault → Option String
  | malformed => none
  | wrongType found expected => some ("invalid type: " ++ found ++ ", expected " ++ expected)
  | tooShort length expected =>
    some ("invalid length " ++ toString length ++ ", expected " ++ expected)
  | missingField key => some ("missing field `" ++ key ++ "`")
  | duplicateField key => some ("duplicate field `" ++ key ++ "`")
  | unknownVariant text expected =>
    some ("unknown variant `" ++ text ++ "`, expected one of "
      ++ ", ".intercalate (expected.map fun variant => "`" ++ variant ++ "`"))
  | refused failure => some failure.message

end Fault

end QueryScribe.Json
