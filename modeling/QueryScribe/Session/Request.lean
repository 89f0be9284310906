import QueryScribe.Declaration.Item.Reader
import QueryScribe.Exchange.Record
import QueryScribe.Generation

/-!
# Building a request

A session on one request. Every step is a program that reads and writes the request as it goes and
may fail at any point. Nothing takes back what a program has written before it fails.
-/

namespace QueryScribe.Session

/-- One of the two entities of a request. -/
inductive Side
  | source
  | target
  deriving Repr, DecidableEq

/-- A step of a session. Selections are named by their position. -/
inductive Step
  | load (json : String)
  | entity (side : Side) (entity : Entity)
  | describe (side : Side) (moduleName code : String)
  | field (side : Side) (field : Field)
  | swap
  | dialect (tag : String)
  | operation (tag : String)
  | select (draft : Selection.Draft)
  | selectField (name : String) (operator : Option String)
  | connector (index : Nat) (tag : String)
  | column (index : Nat) (name : String)
  | operator (index : Nat) (tag : String)
  | autoColumn (index : Nat)
  | drop (index : Nat)
  | selections
  | context
  | generate
  deriving Repr, DecidableEq

/-- Why a step fails. -/
inductive Refusal
  | failure (failure : Failure)
  | fault (fault : Json.Fault)
  | problem (problem : Declaration.Problem)
  | noSuchSelection
  | noSuchField
  deriving Repr, DecidableEq

/-- The answer to a step that succeeds. -/
inductive Answer
  | state (request : Request)
  | selections (selections : List Selection)
  | query (query : Query)
  | text (text : String)

/-- The request at the start of a session. -/
def start : Request :=
  ⟨.specification, .select, .empty, .empty, []⟩

/-! ## Programs -/

variable {α ε : Type}

/-- A program on the request of a session. If it fails, the request is what it has become by
then. -/
abbrev Program := ExceptT Refusal (StateM Request)

/-- What a program comes to when it begins with a request, and the request when it is over. -/
def Program.runFrom (program : Program α) (request : Request) : Except Refusal α × Request :=
  StateT.run (ExceptT.run program) request

/-- The value of a computation whose failure is a refusal. -/
def attempt (refusal : ε → Refusal) : Except ε α → Program α
  | .ok value => pure value
  | .error fault => throw (refusal fault)

/-- The value that has to be there. -/
def require (refusal : Refusal) : Option α → Program α
  | some value => pure value
  | none => throw refusal

/-- The request, as the answer to the step that has changed it. -/
def answerState : Program Answer := do
  return .state (← get)

/-- The entity on a side of a request. -/
def entityOn (request : Request) : Side → Entity
  | .source => request.source
  | .target => request.target

/-- Puts another entity on a side. -/
def putEntity (side : Side) (entity : Entity) : Program Unit :=
  modify fun request => match side with
    | .source => { request with source := entity }
    | .target => { request with target := entity }

/-- Puts other selections in place of those that there are. -/
def putSelections (change : List Selection → List Selection) : Program Unit :=
  modify fun request => { request with selections := change request.selections }

/-- Changes one of the selections. -/
def changeSelection (index : Nat) (change : Selection → Except Failure Selection) :
    Program Answer := do
  let request ← get
  let selection ← require .noSuchSelection request.selections[index]?
  let selection ← attempt .failure (change selection)
  putSelections (·.set index selection)
  answerState

/-- Adds a selection behind the others. -/
def addSelection (draft : Selection.Draft) : Program Answer := do
  let selection ← attempt .failure draft.resolve
  putSelections (· ++ [selection])
  answerState

/-- The program of a step. -/
def perform : Step → Program Answer
  | .load json => do
    let request ← attempt .fault (Json.decodeText Request.decode json)
    set request
    answerState
  | .entity side entity => do
    -- The fields are declared one after the other, so that repeated names fall together.
    putEntity side (.ofFields entity.name entity.qualifiedName entity.fields)
    answerState
  | .describe side moduleName code => do
    let entity ← attempt .problem (Declaration.describe moduleName code)
    putEntity side entity
    answerState
  | .field side field => do
    let request ← get
    putEntity side ((entityOn request side).withField field)
    answerState
  | .swap => do
    let request ← get
    putEntity .source request.target
    putEntity .target request.source
    answerState
  | .dialect tag => do
    let dialect ← attempt .failure (Dialect.ofTag tag)
    modify fun request => { request with dialect := dialect }
    answerState
  | .operation tag => do
    let operation ← attempt .failure (Operation.ofTag tag)
    modify fun request => { request with operation := operation }
    answerState
  | .select draft => addSelection draft
  | .selectField name operator => do
    let request ← get
    let field ← require .noSuchField (request.source.field? name)
    addSelection { field, operator }
  | .connector index tag => changeSelection index fun selection => do
    let connector ← Connector.ofTag tag
    return { selection with connector := connector }
  | .column index name => changeSelection index fun selection =>
    return { selection with targetColumn := name }
  | .operator index tag => changeSelection index fun selection => do
    let operator ← Operator.ofTag tag
    return { selection with operator := operator }
  | .autoColumn index => do
    let request ← get
    changeSelection index fun selection =>
      return { selection with targetColumn := request.target.resolveColumn selection.name }
  | .drop index => do
    let request ← get
    let _ ← require .noSuchSelection request.selections[index]?
    putSelections (·.eraseIdx index)
    answerState
  | .selections => do
    let request ← get
    return .selections request.selections
  | .context => do
    let request ← get
    let query ← attempt .failure (Query.of request.source request.target request.selections
      request.operation)
    return .query query
  | .generate => do
    let request ← get
    let text ← attempt .failure request.generate
    return .text text

/-! ## Sessions -/

/-- The answer to a step, and the request after it. -/
def step (request : Request) (step : Step) : Except Refusal Answer × Request :=
  (perform step).runFrom request

/-- The answers to the steps of a session, and the request at its end. -/
def run (request : Request) : List Step → List (Except Refusal Answer) × Request
  | [] => ([], request)
  | first :: steps =>
    let (answer, next) := step request first
    let (answers, last) := run next steps
    (answer :: answers, last)

end QueryScribe.Session
