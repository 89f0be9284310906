import QueryScribe.Java.Rejection

/-!
# Fluent call chains

A service method that builds its query by a chain of calls. Conditions join by conjunction unless an
`or` call stands before them; every condition and assignment carries a flag and counts only when the
flag holds.
-/

namespace QueryScribe.Java

/-- A link of a chain. -/
inductive Call
  | or
  | compare (operator : Operator) (flag : Check) (reference value : String)
  | assign (flag : Check) (reference value : String)
  deriving Repr, DecidableEq

namespace Call

/-- The method that makes a comparison. -/
def comparisonMethod : Operator → String
  | .eq => "eq"
  | .ne => "ne"
  | .lt => "lt"
  | .le => "le"
  | .gt => "gt"
  | .ge => "ge"
  | .like => "like"
  | .isIn => "in"

/-- The call that compares a selected field with its column in the target class. -/
def ofSelection (target : String) (selection : Selection) : Call :=
  .compare selection.operator (fieldCheck .present selection.field)
    (methodReference target selection.column) (accessor selection.name)

/-- The call that assigns a field to the column of its name in the target class. -/
def ofField (target : String) (field : Field) : Call :=
  .assign (fieldCheck .present field) (methodReference target field.name) (accessor field.name)

/-- The calls for a selected field that follows another one. -/
def joined (target : String) (selection : Selection) : List Call :=
  match selection.connector with
  | .and => [ofSelection target selection]
  | .or => [.or, ofSelection target selection]

/-- The calls for the selected fields. The connector of the first one joins nothing. -/
def ofSelections (target : String) : List Selection → List Call
  | [] => []
  | first :: others => ofSelection target first :: others.flatMap (joined target)

/-- The call as a line of the chain. -/
def text : Call → String
  | or => "        .or()\n"
  | compare operator flag reference value =>
    "        ." ++ comparisonMethod operator ++ "(" ++ condition flag ++ ", " ++ reference ++ ", "
      ++ value ++ ")\n"
  | assign flag reference value =>
    "        .set(" ++ condition flag ++ ", " ++ reference ++ ", " ++ value ++ ")\n"

end Call

/-- What the method does with its chain: list the rows found, set columns of the rows found, remove
the rows found, or save the bean as a new row without a chain. -/
inductive Chain
  | list (conditions : List Call)
  | update (assignments conditions : List Call)
  | remove (conditions : List Call)
  | save
  deriving Repr, DecidableEq

namespace Chain

/-- The chain of a query. -/
def ofQuery (query : Query) : Chain :=
  let conditions := Call.ofSelections query.target.name query.selections
  match query.operation with
  | .select | .selectPage => list conditions
  | .update => update (query.sharedFields.map (Call.ofField query.target.name)) conditions
  | .delete => remove conditions
  | .insert => save

/-- The chain as the statement that ends the method. -/
def text (target : String) : Chain → String
  | list conditions =>
    "    return this.lambdaQuery()\n" ++ String.join (conditions.map Call.text)
      ++ "        .list();\n"
  | update assignments conditions =>
    "    return this.lambdaUpdate()\n" ++ String.join (assignments.map Call.text)
      ++ String.join (conditions.map Call.text) ++ "        .update(new " ++ target ++ "());\n"
  | remove conditions =>
    "    return this.lambdaUpdate()\n" ++ String.join (conditions.map Call.text)
      ++ "        .remove();\n"
  | save => "    return this.save(entity);\n"

end Chain

/-- A service method. -/
structure ServiceMethod where
  operation : Operation
  source : String
  target : String
  rejections : List Rejection
  chain : Chain
  deriving Repr, DecidableEq

namespace ServiceMethod

/-- The service method of a query. -/
def ofQuery (query : Query) : ServiceMethod where
  operation := query.operation
  source := query.source.name
  target := query.target.name
  rejections := Rejection.ofQuery query
  chain := .ofQuery query

/-- The type of the method's result: the rows read, or whether anything was written. -/
def returnType (method : ServiceMethod) : String :=
  if method.operation.isSelect then "List<" ++ method.target ++ ">" else "boolean"

/-- The method as text. -/
def text (method : ServiceMethod) : String :=
  "public " ++ method.returnType ++ " " ++ method.operation.name ++ method.target ++ "("
    ++ method.source ++ " entity) \x7b\n"
    ++ String.join (method.rejections.map Rejection.text)
    ++ method.chain.text method.target
    ++ "\x7d"

end ServiceMethod

end QueryScribe.Java
