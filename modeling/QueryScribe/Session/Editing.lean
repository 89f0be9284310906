import QueryScribe.Exchange.Record

/-!
# Editing an entity

A session on one entity: fields are declared one by one, and questions about the entity are answered
on the way.
-/

namespace QueryScribe

/-- A step of a session on an entity. -/
inductive Entity.Step
  | withField (field : Field)
  | field (name : String)
  | hasField (name : String)
  | resolveColumn (name : String)
  | dump
  deriving Repr, DecidableEq

/-- The answer to a step of a session on an entity. -/
inductive Entity.Answer
  | entity (entity : Entity)
  | field (field : Option Field)
  | truth (value : Bool)
  | text (text : String)
  deriving Repr, DecidableEq

namespace Entity

/-- The answer to a step, and the entity after it. Only declaring a field changes the entity. -/
def step (entity : Entity) : Step → Answer × Entity
  | .withField field =>
    let entity := entity.withField field
    (.entity entity, entity)
  | .field name => (.field (entity.field? name), entity)
  | .hasField name => (.truth (entity.hasField name), entity)
  | .resolveColumn name => (.text (entity.resolveColumn name), entity)
  | .dump => (.text entity.encode, entity)

/-- The answers to the steps of a session. -/
def answers (entity : Entity) : List Step → List Answer
  | [] => []
  | first :: steps =>
    let (answer, entity) := entity.step first
    answer :: answers entity steps

end Entity

end QueryScribe
