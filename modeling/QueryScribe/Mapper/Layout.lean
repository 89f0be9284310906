import QueryScribe.Mapper.Statement
import QueryScribe.Markup.Element
import QueryScribe.Markup.Text

/-!
# The markup of a statement

Each part of a mapper statement has an element of its own. Names go into the markup as they are;
of the text around them, only the symbols of operators need escaping.
-/

namespace QueryScribe.Mapper

open Markup

/-- The place of the value passed under a name. -/
def placeholder (name : String) : String :=
  "#\x7b" ++ name ++ "\x7d"

/-- A line of text. -/
def textLine (written : String) : Block :=
  .line [.text written]

/-- A part that is left out when its test fails. -/
def ifElement (test : Test) (body : List Block) : Block :=
  .element "if" [⟨"test", test.text⟩] body

/-- The lines of a clause. Membership is written over two lines, the second of which lists the
values. -/
def Clause.lines (clause : Clause) : List Block :=
  let start := clause.connector.keyword ++ " " ++ clause.column ++ " "
  match clause.operator with
  | .like => [textLine (start ++ "LIKE CONCAT('%', " ++ placeholder clause.field ++ ", '%')")]
  | .isIn =>
    [textLine (start ++ "IN"),
     .line [.element "foreach"
       [⟨"item", "item"⟩, ⟨"index", "index"⟩, ⟨"collection", clause.field⟩, ⟨"open", "("⟩,
        ⟨"separator", ","⟩, ⟨"close", ")"⟩]
       (placeholder "item")]]
  | operator => [textLine (start ++ escape operator.symbol ++ " " ++ placeholder clause.field)]

/-- The clause that is never true, with the reason why it is there. -/
def neverTrue : Block :=
  .line [.text "1=0 ", .comment " no usable criteria "]

/-- The element of a statement's criteria. -/
def Criteria.block (criteria : Criteria) : Block :=
  .element "where" []
    ((criteria.unusable.toList.map fun test => ifElement test [neverTrue])
      ++ criteria.clauses.map fun clause => ifElement clause.test clause.body.lines)

/-- The element of a list in parentheses whose last comma is dropped. -/
def trimElement (opening : String) (items : List (Optional String)) : Block :=
  .element "trim" [⟨"prefix", opening⟩, ⟨"suffix", ")"⟩, ⟨"suffixOverrides", ","⟩]
    (items.map fun item => ifElement item.test [textLine (item.body ++ ",")])

/-- The columns of a selection, or all columns if none are known. -/
def columnList : List String → String
  | [] => "*"
  | columns => ", ".intercalate columns

/-- The tag of an action's statement. -/
def Action.tag : Action → String
  | select .. => "select"
  | update .. => "update"
  | delete .. => "delete"
  | insert .. => "insert"

/-- The attributes of a statement besides its identifier. -/
def Action.attributes : Action → List Attribute
  | select resultType _ _ => [⟨"resultType", resultType⟩]
  | _ => []

/-- The blocks of a statement on a table. -/
def Action.blocks (table : String) : Action → List Block
  | select _ columns criteria =>
    [textLine ("SELECT " ++ columnList columns), textLine ("FROM " ++ table), criteria.block]
  | update assignments criteria =>
    [textLine ("UPDATE " ++ table),
     .element "set" [] (assignments.map fun assignment =>
       ifElement assignment.test
         [textLine (assignment.body.column ++ " = " ++ placeholder assignment.body.field ++ ",")]),
     criteria.block]
  | delete supplied criteria =>
    [ifElement supplied [textLine ("DELETE FROM " ++ table), criteria.block]]
  | insert columns fields =>
    [textLine ("INSERT INTO " ++ table),
     trimElement "(" columns,
     trimElement "VALUES (" (fields.map fun field => ⟨field.test, placeholder field.body⟩)]

/-- The statement as a document. -/
def Statement.document (statement : Statement) : Document where
  tag := statement.action.tag
  attributes := ⟨"id", statement.id⟩ :: statement.action.attributes
  children := statement.action.blocks statement.table

/-- The statement as text. -/
def Statement.text (statement : Statement) : String :=
  statement.document.render

end QueryScribe.Mapper
