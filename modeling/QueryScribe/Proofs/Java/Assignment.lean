import QueryScribe.Proofs.Java.Call

/-!
# Reading assignments

The chain of an update sets columns before it makes its conditions, one call a line. Such a call has
a flag in front of the column and the value, and counts when the flag holds. Here these calls are
read back from their lines and run for a bean.

Results:
1. `readSetting_assign`: a call that sets a column is read as its flag, column and value.
2. `text_chain_of_update`, `readSettings_assignments`: where an update has these calls, and what
   they are read as.
3. `settled_assignments`: for a bean, the calls of the present fields count.
-/

namespace QueryScribe.Java

open Text CallLemmas

/-! ## 1. Calls -/

/-- A call that sets a column: its flag as it is written, the reference to the column, and the
expression for the value. -/
structure Setting where
  flag : String
  reference : String
  value : String
  deriving Repr, DecidableEq

/-- The setting that a line makes. -/
def readSetting (line : List Char) : Option Setting := do
  let arguments ← between "        .set(" ")" line
  match arguments.splitOn ',' with
  | [flag, reference, value] => do
    let reference ← afterStart [' '] reference
    let value ← afterStart [' '] value
    return ⟨String.ofList flag, String.ofList reference, String.ofList value⟩
  | _ => none

/-- A call that sets a column is read as its flag, column and value. -/
theorem readSetting_assign {flag : Check} {reference value : String}
    (arguments : IsArguments flag reference value) :
    readSetting (Call.line (.assign flag reference value))
      = some ⟨condition flag, reference, value⟩ := by
  have line : Call.line (.assign flag reference value)
      = "        .set(".toList ++ ((condition flag).toList ++ ',' :: (' ' :: reference.toList
          ++ ',' :: (' ' :: value.toList))) ++ ")".toList := rfl
  have inside := between_append "        .set(" ")" ((condition flag).toList
    ++ ',' :: (' ' :: reference.toList ++ ',' :: (' ' :: value.toList)))
  rw [← line] at inside
  rw [readSetting, inside]
  simp only [splitOn_arguments arguments, afterStart, if_true, Option.bind_eq_bind,
    Option.bind_some, String.ofList_toList]
  rfl

/-! ## 2. The calls of an update -/

/-- The settings in the lines of a text. -/
def readSettings (sets : String) : Option (List Setting) := do
  (← linesOf sets).mapM readSetting

/-- The chain of an update, with the calls that set columns in front of those that compare. -/
def updateText (query : Query) (sets : String) : String :=
  "    return this.lambdaUpdate()\n" ++ sets
    ++ String.join ((Call.ofSelections query.target.name query.selections).map Call.text)
    ++ "        .update(new " ++ query.target.name ++ "());\n"

/-- The setting of a field: a column of the same name in the target class is set to the field's
value. -/
def Setting.ofField (target : String) (field : Field) : Setting :=
  ⟨condition (fieldCheck .present field), methodReference target field.name, accessor field.name⟩

/-- An update sets the fields that source and target share. -/
theorem text_chain_of_update {query : Query} (updates : query.operation = .update) :
    (Chain.ofQuery query).text query.target.name = updateText query
      (String.join ((query.sharedFields.map (Call.ofField query.target.name)).map Call.text)) := by
  have chain : Chain.ofQuery query
      = .update (query.sharedFields.map (Call.ofField query.target.name))
        (Call.ofSelections query.target.name query.selections) := by
    simp only [Chain.ofQuery, updates]
  rw [chain]
  rfl

/-- The calls that set fields are read as their settings. -/
theorem readSettings_assignments {target : String} {fields : List Field}
    (owner : HasWordChars target) (named : ∀ field ∈ fields, isIdentifier field.name = true) :
    readSettings (String.join ((fields.map (Call.ofField target)).map Call.text))
      = some (fields.map (Setting.ofField target)) := by
  have arguments (field : Field) (mem : field ∈ fields) :=
    isArguments_ofField owner (named field mem) (isWordChar_of_mem (named field mem))
  have readable : ∀ call ∈ fields.map (Call.ofField target), call.IsReadable := by
    intro call mem
    obtain ⟨field, among, rfl⟩ := List.mem_map.mp mem
    exact arguments field among
  rw [readSettings, linesOf_join readable, Option.bind_eq_bind, Option.bind_some, List.map_map]
  exact mapM_map_of_reads fun field mem => readSetting_assign (arguments field mem)

/-! ## 3. Settings that count -/

/-- The columns that settings set for a bean, each with the expression for its value: those of the
settings whose flags hold. -/
def settled (bean : Bean) : List Setting → Option (List (String × String))
  | [] => some []
  | setting :: others => do
    let here ← holds bean setting.flag
    let rest ← settled bean others
    return if here then (setting.reference, setting.value) :: rest else rest

/-- By induction on the fields: every flag answers whether its own field is present. -/
theorem settled_assignments {bean : Bean} {contents : String → Content} {target : String}
    {fields : List Field} (named : ∀ field ∈ fields, isIdentifier field.name = true)
    (gives : ∀ field ∈ fields, bean (accessor field.name) = contents field.name) :
    settled bean (fields.map (Setting.ofField target))
      = some ((fields.filter (·.isPresent contents)).map fun field =>
          (methodReference target field.name, accessor field.name)) := by
  induction fields with
  | nil => rfl
  | cons field fields ih =>
    have rest := ih (fun other mem => named other (List.mem_cons_of_mem _ mem))
      (fun other mem => gives other (List.mem_cons_of_mem _ mem))
    have flag : holds bean (condition (fieldCheck .present field))
        = some (field.isPresent contents) := by
      rw [holds_condition bean _ (isAccess_accessor (named field (by simp)))]
      exact congrArg some (congrArg (Content.isPresent field.category) (gives field (by simp)))
    rw [List.map_cons, settled, Setting.ofField, flag, rest, List.filter_cons]
    cases field.isPresent contents <;> rfl

end QueryScribe.Java
