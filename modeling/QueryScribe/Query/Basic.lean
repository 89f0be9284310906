import QueryScribe.Query.Selection

/-!
# Queries

A query carries out an operation on the rows of a target, with values from a source. It is a request
that has passed validation: something is selected and every operator fits its field. Writing a query
out cannot fail.
-/

namespace QueryScribe

/-! ## Operations -/

/-- What a query does. -/
inductive Operation
  | select
  | selectPage
  | update
  | delete
  | insert
  deriving Repr, DecidableEq

namespace Operation

/-- Every operation, in the order in which they are listed to users. -/
def all : List Operation :=
  [select, selectPage, update, delete, insert]

/-- The name of the operation in snake case. -/
def name : Operation → String
  | select => "select"
  | selectPage => "select_page"
  | update => "update"
  | delete => "delete"
  | insert => "insert"

/-- The name of the operation in pascal case. -/
def pascalName : Operation → String
  | select => "Select"
  | selectPage => "SelectPage"
  | update => "Update"
  | delete => "Delete"
  | insert => "Insert"

/-- The name of the mapper statement that carries out the operation. -/
def statementTag : Operation → String
  | select | selectPage => "select"
  | update => "update"
  | delete => "delete"
  | insert => "insert"

/-- Whether the query must refuse to run without usable criteria. Only a page may be asked for
without any. -/
def isGuarded : Operation → Bool
  | selectPage => false
  | _ => true

/-- Whether the operation reads rows. -/
def isSelect : Operation → Bool
  | select | selectPage => true
  | _ => false

/-- Reading, unless something else is asked for. -/
instance : Inhabited Operation := ⟨select⟩

end Operation

/-! ## Validated requests -/

/-- An operation on the rows of a target, with criteria read from a source. -/
structure Query where
  source : Entity
  target : Entity
  selections : List Selection
  operation : Operation
  selections_ne_nil : selections ≠ []
  fits : ∀ selection ∈ selections, selection.fits = true

namespace Query

/-- The query for a request. Nothing selected is reported first, then the first selection whose
operator does not fit. -/
def of (source target : Entity) (selections : List Selection) (operation : Operation) :
    Except Failure Query :=
  if empty : selections = [] then .error .emptySelection
  else match found : selections.find? fun selection => !selection.fits with
    | some selection => .error selection.misfit
    | none => .ok ⟨source, target, selections, operation, empty, by simpa using found⟩

/-- The fields of the source whose exact name the target declares too, in the source's order. -/
def sharedFields (query : Query) : List Field :=
  query.source.fields.filter fun field => query.target.hasField field.name

end Query

end QueryScribe
