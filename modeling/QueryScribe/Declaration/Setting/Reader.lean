import QueryScribe.Declaration.Setting

/-!
# Reading attributes

The attributes in front of a declaration or a field are read for their settings. Attributes other
than `describe` have none.
-/

namespace QueryScribe.Declaration

/-- The words of a path in front of a sequence of trees, each after the first behind two colons. -/
def pathWords : List Tree → List String × List Tree
  | .name word :: .mark ':' true :: .mark ':' _ :: trees =>
    let (words, rest) := pathWords trees
    (word :: words, rest)
  | .name word :: trees => ([word], trees)
  | trees => ([], trees)

/-- The path in front as one text. -/
def attributePath? (trees : List Tree) : Option (String × List Tree) :=
  let trees := match trees with
    | .mark ':' true :: .mark ':' _ :: trees => trees
    | trees => trees
  match pathWords trees with
  | ([], _) => none
  | (words, rest) => some ("::".intercalate words, rest)

/-- Whether the trees begin with a truth value that is assigned to, and so is a key. -/
def startsAssignedWord : List Tree → Bool
  | .name _ :: .mark '=' _ :: _ => true
  | _ => false

/-- The setting in front. -/
def setting? (trees : List Tree) : Option (Setting × List Tree) :=
  match Tree.literal? trees, startsAssignedWord trees with
  | some (value, rest), false => some (.bare value, rest)
  | _, _ => do
    let (key, rest) ← attributePath? trees
    match rest with
    | .group _ _ :: rest => return (.list key, rest)
    | .mark '=' _ :: rest => do
      let (value, rest) ← Tree.literal? rest
      return (.value key value, rest)
    | rest => return (.word key, rest)

/-- The settings of an attribute, separated by commas. -/
def readSettings : Nat → List Tree → Option (List Setting)
  | _, [] => some []
  | 0, _ => none
  | fuel + 1, trees => do
    let (setting, rest) ← setting? trees
    match rest with
    | [] => return [setting]
    | .mark ',' _ :: rest => return setting :: (← readSettings fuel rest)
    | _ => none

/-- The settings of the attribute between the square brackets. Only `describe` has any. -/
def attributeSettings (content : List Tree) : Option (List Setting) := do
  let (path, rest) ← attributePath? content
  if path ≠ "describe" then return []
  else match rest with
    | [] => return []
    | [.group _ trees] => readSettings trees.length trees
    | .mark '=' _ :: _ :: _ => return [.assigned]
    | _ => none

/-- The settings of the attributes in front, and the trees after these. -/
def readAttributes : List Tree → Option (List Setting × List Tree)
  | .mark '#' _ :: .group .square content :: trees => do
    let settings ← attributeSettings content
    let (others, rest) ← readAttributes trees
    return (settings ++ others, rest)
  | trees => some ([], trees)

end QueryScribe.Declaration
