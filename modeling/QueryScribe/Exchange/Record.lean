import QueryScribe.Exchange.Tag
import QueryScribe.Query.Request

/-!
# Stored records

Fields, entities, selections and requests are stored as objects. Every key is written; on reading,
the keys that have a default may be left out.
-/

namespace QueryScribe

open Json

/-! ## Fields -/

/-- How a field is stored. -/
def Field.record : Record Field where
  name := "FieldDef"
  slots :=
    [.of "name" true decodeString fun name field => { field with name },
     .of "type" true decodeString fun declaredType field => { field with declaredType }]
  unfilled := ⟨"", ""⟩

/-- Reads a field. -/
def Field.decode : Decoder Field :=
  Field.record.decode

/-- Writes a field. -/
def Field.encode (field : Field) : String :=
  writeObject [("name", quote field.name), ("type", quote field.declaredType)]

/-! ## Entities -/

/-- How an entity is stored. It may come without fields, and repeated names are kept. -/
def Entity.record : Record Entity where
  name := "EntityDescriptor"
  slots :=
    [.of "name" true decodeString fun name entity => { entity with name },
     .of "qualified" true decodeString fun qualifiedName entity => { entity with qualifiedName },
     .of "fields" false (decodeList Field.decode) fun fields entity => { entity with fields }]
  unfilled := .empty

/-- Reads an entity. -/
def Entity.decode : Decoder Entity :=
  Entity.record.decode

/-- Writes an entity. -/
def Entity.encode (entity : Entity) : String :=
  writeObject
    [("name", quote entity.name), ("qualified", quote entity.qualifiedName),
     ("fields", writeArray (entity.fields.map Field.encode))]

/-! ## Selections -/

/-- How a selection is stored. Only its field has to be there. -/
def Selection.record : Record Selection where
  name := "FieldSelection"
  slots :=
    [.of "field" true Field.decode fun field selection => { selection with field },
     .of "operator" false Operator.decode fun operator selection => { selection with operator },
     .of "connector" false Connector.decode fun connector selection =>
       { selection with connector },
     .of "target_column" false decodeString fun targetColumn selection =>
       { selection with targetColumn }]
  unfilled := ⟨⟨"", ""⟩, default, default, ""⟩

/-- Reads a selection. -/
def Selection.decode : Decoder Selection :=
  Selection.record.decode

/-- Writes a selection. -/
def Selection.encode (selection : Selection) : String :=
  writeObject
    [("field", selection.field.encode), ("operator", selection.operator.encode),
     ("connector", selection.connector.encode), ("target_column", quote selection.targetColumn)]

/-! ## Requests -/

/-- How a request is stored. Only the operation has a default. -/
def Request.record : Record Request where
  name := "GenerationRequest"
  slots :=
    [.of "dialect" true Dialect.decode fun dialect request => { request with dialect },
     .of "operation" false Operation.decode fun operation request => { request with operation },
     .of "source" true Entity.decode fun source request => { request with source },
     .of "target" true Entity.decode fun target request => { request with target },
     .of "selections" true (decodeList Selection.decode) fun selections request =>
       { request with selections }]
  unfilled := ⟨.specification, default, .empty, .empty, []⟩

/-- Reads a request. -/
def Request.decode : Decoder Request :=
  Request.record.decode

/-- Writes a request. -/
def Request.encode (request : Request) : String :=
  writeObject
    [("dialect", request.dialect.encode), ("operation", request.operation.encode),
     ("source", request.source.encode), ("target", request.target.encode),
     ("selections", writeArray (request.selections.map Selection.encode))]

end QueryScribe
