import QueryScribe.Java.Chain
import QueryScribe.Java.Specification
import QueryScribe.Mapper.Layout
import QueryScribe.Query.Draft
import QueryScribe.Query.Request

/-!
# Generation

A query is validated once and then written out in a dialect. Every generation reports what it was
asked for and how it ended.
-/

namespace QueryScribe

/-- The query in a dialect. -/
def Query.text (query : Query) : Dialect → String
  | .specification => (Java.Specification.ofQuery query).text
  | .fluent => (Java.ServiceMethod.ofQuery query).text
  | .markup => (Mapper.Statement.ofQuery query).text

/-! ## Events -/

/-- What a generation reports while it runs. -/
inductive Event
  | started (dialect : Dialect) (operation : Operation) (source target : String) (selected : Nat)
  | rejected (dialect : Dialect) (operation : Operation) (failure : Failure)
  | generated (dialect : Dialect) (bytes : Nat)
  deriving Repr, DecidableEq

/-- How much attention an event asks for. -/
inductive Level
  | debug
  | trace
  deriving Repr, DecidableEq

namespace Event

/-- The level of an event. Only success goes without mention at the debug level. -/
def level : Event → Level
  | started .. | rejected .. => .debug
  | generated .. => .trace

/-- The wording of an event. -/
def message : Event → String
  | started .. => "generating query"
  | rejected .. => "generation rejected"
  | generated .. => "query generated"

end Event

/-- A computation that reports events and may fail. What it has reported by then stays reported. -/
abbrev Reporting := ExceptT Failure (StateM (List Event))

namespace Reporting

/-- Reports an event, behind those that have been reported. -/
def report (event : Event) : Reporting Unit :=
  modify (· ++ [event])

/-- Reports a failure before it is passed on. -/
def orReport (event : Failure → Event) : Except Failure α → Reporting α
  | .ok value => pure value
  | .error failure => do
    report (event failure)
    throw failure

/-- What a computation comes to, and the events that it has reported. -/
def outcome (computation : Reporting α) : Except Failure α × List Event :=
  StateT.run (ExceptT.run computation) []

end Reporting

/-! ## Generations -/

open Reporting

/-- The text in a dialect of the query for a request. The start is reported before anything is
checked, and success once the whole text is there. -/
def generation (dialect : Dialect) (source target : Entity) (selections : List Selection)
    (operation : Operation) : Reporting String := do
  report (.started dialect operation source.name target.name selections.length)
  let query ← orReport (.rejected dialect operation) (Query.of source target selections operation)
  let text := query.text dialect
  report (.generated dialect text.utf8ByteSize)
  return text

/-- The text in a dialect of the query for a request. -/
def generate (dialect : Dialect) (source target : Entity) (selections : List Selection)
    (operation : Operation) : Except Failure String :=
  (generation dialect source target selections operation).outcome.1

/-- The events of a generation, in order. -/
def events (dialect : Dialect) (source target : Entity) (selections : List Selection)
    (operation : Operation) : List Event :=
  (generation dialect source target selections operation).outcome.2

/-- A generation ends with the text of the query, if there is one. -/
theorem generate_eq (dialect : Dialect) (source target : Entity) (selections : List Selection)
    (operation : Operation) :
    generate dialect source target selections operation
      = (Query.of source target selections operation).map (·.text dialect) := by
  rw [generate, generation]
  cases Query.of source target selections operation <;> rfl

/-- The text for a request. -/
def Request.generate (request : Request) : Except Failure String :=
  QueryScribe.generate request.dialect request.source request.target request.selections
    request.operation

/-- The text for every dialect and operation, in the order in which these are listed to users. -/
def generateAll (source target : Entity) (selections : List Selection) :
    List ((Dialect × Operation) × Except Failure String) :=
  Dialect.all.flatMap fun dialect => Operation.all.map fun operation =>
    ((dialect, operation), generate dialect source target selections operation)

/-! ## Drafts -/

/-- The text of a draft in the dialect of a tag. The dialect's tag is read first. -/
def Query.Draft.generate (dialect : String) (draft : Query.Draft) : Except Failure String := do
  let dialect ← Dialect.ofTag dialect
  let (operation, selections) ← draft.resolve
  QueryScribe.generate dialect draft.source draft.target selections operation

/-- The events of a draft's generation. A tag that is not understood starts none. -/
def Query.Draft.events (dialect : String) (draft : Query.Draft) : List Event :=
  match Dialect.ofTag dialect, draft.resolve with
  | .ok dialect, .ok (operation, selections) =>
    QueryScribe.events dialect draft.source draft.target selections operation
  | _, _ => []

end QueryScribe
