/-!
# Types of declared fields

A type expression is mapped to the name of a declared type: the text and collection types of the
target language, boxed primitives, or the type's own name. Only the last segment of a path counts,
and of its arguments only the types. What has no name (tuples, functions, pointers and the like) has
no declared type, and neither has anything that shows such a type.
-/

namespace QueryScribe.Declaration

mutual

/-- A type expression. A `group` is a type that was put in place of a macro's parameter, which keeps
it together without parentheses; a source text has none. `unnamed` is any type without a name:
tuples, functions, trait objects, pointers, inferred types and macros. -/
inductive TypeExpr
  | path (qualified : Bool) (earlier : List Segment) (last : Segment)
  | reference (element : TypeExpr)
  | paren (element : TypeExpr)
  | group (element : TypeExpr)
  | slice (element : TypeExpr)
  | array (element : TypeExpr)
  | unnamed

/-- A segment of a path. -/
inductive Segment
  | mk (name : String) (arguments : Arguments)

/-- The arguments of a segment. Those in parentheses are the parameters of a function trait. -/
inductive Arguments
  | none
  | angled (arguments : List Argument)
  | parenthesized

/-- An argument in angle brackets: a type, or a lifetime, constant or binding. -/
inductive Argument
  | type (type : TypeExpr)
  | other

end

/-- The boxed type of a primitive, and the one text type. -/
def boxed? : String → Option String
  | "str" | "String" => some "String"
  | "bool" => some "Boolean"
  | "i8" | "u8" => some "Byte"
  | "i16" | "u16" => some "Short"
  | "i32" | "u32" => some "Integer"
  | "i64" | "u64" | "isize" | "usize" => some "Long"
  | "f32" => some "Float"
  | "f64" => some "Double"
  | "char" => some "Character"
  | _ => none

/-- The wrappers whose declared type is that of their content. -/
def isWrapper (name : String) : Bool :=
  name = "Option" || name = "Box"

/-- The sequences that are declared as lists. -/
def isListType (name : String) : Bool :=
  name = "Vec" || name = "VecDeque" || name = "LinkedList"

/-- The collections that are declared as sets. -/
def isSetType (name : String) : Bool :=
  name = "HashSet" || name = "BTreeSet"

/-- The declared type of a path, from the name of its last segment and the declared types of that
segment's type arguments. -/
def applyName (name : String) (arguments : List String) : String :=
  match arguments with
  | [] => (boxed? name).getD name
  | [content] =>
    if isWrapper name then content
    else if isListType name then "List<" ++ content ++ ">"
    else if isSetType name then "Set<" ++ content ++ ">"
    else name ++ "<" ++ content ++ ">"
  | arguments => name ++ "<" ++ ", ".intercalate arguments ++ ">"

mutual

/-- The declared type of a type expression. -/
def TypeExpr.declared? : TypeExpr → Option String
  | .path qualified _ last => if qualified then none else last.declared?
  | .reference element => element.declared?
  | .paren element => element.declared?
  | .group element => element.declared?
  | .slice element => element.declared?.map fun content => "List<" ++ content ++ ">"
  | .array element => element.declared?.map fun content => "List<" ++ content ++ ">"
  | .unnamed => none

/-- The declared type of a path that ends with the segment. -/
def Segment.declared? : Segment → Option String
  | .mk name arguments => arguments.declared?.map (applyName name)

/-- The declared types of the type arguments. -/
def Arguments.declared? : Arguments → Option (List String)
  | .none => some []
  | .angled arguments => declaredAll? arguments
  | .parenthesized => Option.none

/-- The declared types among the arguments, all of which must have one. -/
def declaredAll? : List Argument → Option (List String)
  | [] => some []
  | argument :: arguments => argument.prepend? (declaredAll? arguments)

/-- Puts the declared type of an argument in front of others. Arguments that are no types are left
out. -/
def Argument.prepend? (others : Option (List String)) : Argument → Option (List String)
  | .type type =>
    match type.declared?, others with
    | some first, some others => some (first :: others)
    | _, _ => none
  | .other => others

end

end QueryScribe.Declaration
