import QueryScribe.Exchange.Record
import QueryScribe.Proofs.Json.Reading
import QueryScribe.Proofs.Json.Restating

/-!
# Reading stored records

What any text of an object or array comes to where a field, an entity, a selection or a request is
stored. Everything that counts is in the tables of their keys: the order of the keys, which of them
have to be there, and the defaults of the others.

Results:
1. `Field.keyed`, …, `Request.keyed`: the keys of each record.
2. `readsBy_of_keyed`: how the texts of a record are read by its keys.
3. `records_read_by_keys`: fields, entities, selections and requests.
-/

namespace QueryScribe

open Json

/-! ## 1. Keys -/

/-- The keys of a field. Both have to be there. -/
def Field.keys : List (Key Field) :=
  [{ name := "name", Part := String, decode := decodeString, fallback? := none
     get := fun field => field.name
     put := fun name field => { field with name } },
   { name := "type", Part := String, decode := decodeString, fallback? := none
     get := fun field => field.declaredType
     put := fun declaredType field => { field with declaredType } }]

theorem Field.keyed : Keyed Field.record Field.keys where
  slots := rfl
  distinct := by decide
  apart := by simp [Field.keys]
  unfilled := by simp [Field.keys]
  ext := by
    rintro ⟨⟩ ⟨⟩ same
    simpa [Field.keys] using same

/-- The keys of an entity, which may come without fields. Fields may be stored in other words. -/
def Entity.keys : List (Key Entity) :=
  [{ name := "name", Part := String, decode := decodeString, fallback? := none
     get := fun entity => entity.name
     put := fun name entity => { entity with name } },
   { name := "qualified", Part := String, decode := decodeString, fallback? := none
     get := fun entity => entity.qualifiedName
     put := fun qualifiedName entity => { entity with qualifiedName } },
   { name := "fields", Part := List Field, decode := decodeList Field.decode, fallback? := some []
     get := fun entity => entity.fields
     put := fun fields entity => { entity with fields }
     same := SameList (SameObject Field.keys)
     same_refl := .refl }]

theorem Entity.keyed : Keyed Entity.record Entity.keys where
  slots := rfl
  distinct := by decide
  apart := by simp [Entity.keys]
  unfilled := by simp [Entity.keys, Entity.record, Entity.empty]
  ext := by
    rintro ⟨⟩ ⟨⟩ same
    simpa [Entity.keys] using same

/-- The keys of a selection. Without anything else, a field is compared for equality with the column
of its own name, and joins by `AND`. -/
def Selection.keys : List (Key Selection) :=
  [{ name := "field", Part := Field, decode := Field.decode, fallback? := none
     get := fun selection => selection.field
     put := fun field selection => { selection with field }
     same := SameObject Field.keys
     same_refl := .refl },
   { name := "operator", Part := Operator, decode := Operator.decode, fallback? := some .eq
     get := fun selection => selection.operator
     put := fun operator selection => { selection with operator } },
   { name := "connector", Part := Connector, decode := Connector.decode, fallback? := some .and
     get := fun selection => selection.connector
     put := fun connector selection => { selection with connector } },
   { name := "target_column", Part := String, decode := decodeString, fallback? := some ""
     get := fun selection => selection.targetColumn
     put := fun targetColumn selection => { selection with targetColumn } }]

theorem Selection.keyed : Keyed Selection.record Selection.keys where
  slots := rfl
  distinct := by decide
  apart := by simp [Selection.keys]
  unfilled := by
    have operator : (default : Operator) = .eq := rfl
    have connector : (default : Connector) = .and := rfl
    simp [Selection.keys, Selection.record, operator, connector]
  ext := by
    rintro ⟨⟩ ⟨⟩ same
    simpa [Selection.keys] using same

/-- The keys of a request, which asks for rows if it does not say for what. -/
def Request.keys : List (Key Request) :=
  [{ name := "dialect", Part := Dialect, decode := Dialect.decode, fallback? := none
     get := fun request => request.dialect
     put := fun dialect request => { request with dialect } },
   { name := "operation", Part := Operation, decode := Operation.decode
     fallback? := some .select
     get := fun request => request.operation
     put := fun operation request => { request with operation } },
   { name := "source", Part := Entity, decode := Entity.decode, fallback? := none
     get := fun request => request.source
     put := fun source request => { request with source }
     same := SameObject Entity.keys
     same_refl := .refl },
   { name := "target", Part := Entity, decode := Entity.decode, fallback? := none
     get := fun request => request.target
     put := fun target request => { request with target }
     same := SameObject Entity.keys
     same_refl := .refl },
   { name := "selections", Part := List Selection, decode := decodeList Selection.decode
     fallback? := none
     get := fun request => request.selections
     put := fun selections request => { request with selections }
     same := SameList (SameObject Selection.keys)
     same_refl := .refl }]

theorem Request.keyed : Keyed Request.record Request.keys where
  slots := rfl
  distinct := by decide
  apart := by simp [Request.keys]
  unfilled := by
    have operation : (default : Operation) = .select := rfl
    simp [Request.keys, Request.record, operation]
  ext := by
    rintro ⟨⟩ ⟨⟩ same
    simpa [Request.keys] using same

/-! ## 2. Texts of records -/

/-- Whether a record is read by its keys, from any text: an object comes to what its members come
to, as part of a value and as a text; a value is read alike from all its texts; what is accepted is
accepted in other words, too, and so in another order or with another unknown key; and an array is
accepted for what the members come to that have its items under the keys in order. -/
structure ReadsBy (keys : List (Key α)) (decode : Decoder α) : Prop where
  part : ∀ members, (Value.object (.ofList members)).isWhole = true →
    ∀ result, decode (.object (.ofList members)) = result ↔ Outcome keys members result
  object : ∀ text members, IsText text (.object (.ofList members)) →
    ∀ result, decodeText decode text = result ↔ Outcome keys members result
  spelling : ∀ text other value, IsText text value → IsText other value →
    decodeText decode other = decodeText decode text
  wording : ∀ text other members others, IsText text (.object (.ofList members)) →
    IsText other (.object (.ofList others)) → Restates keys members others →
    ∀ x, decodeText decode text = .ok x → decodeText decode other = .ok x
  order : ∀ text other members others, IsText text (.object (.ofList members)) →
    IsText other (.object (.ofList others)) → members.Perm others →
    ∀ x, decodeText decode text = .ok x → decodeText decode other = .ok x
  unknown : ∀ text other before name value after, name ∉ keys.map (·.name) →
    IsText text (.object (.ofList (before ++ after))) →
    IsText other (.object (.ofList (before ++ (name, value) :: after))) →
    ∀ x, decodeText decode text = .ok x → decodeText decode other = .ok x
  array : ∀ text values, IsText text (.array (.ofList values)) → values.length ≤ keys.length →
    ∀ x, decodeText decode text = .ok x ↔ Outcome keys ((keys.map (·.name)).zip values) (.ok x)

section Keyed

variable {record : Record α} {keys : List (Key α)}

/-- Texts of objects, one of which restates the other, are accepted alike. -/
theorem decodeText_restated (keyed : Keyed record keys)
    (preserves : ∀ key ∈ keys, Preserves key.same key.decode) {text other : String}
    {members others : List (String × Value)} (isText : IsText text (.object (.ofList members)))
    (isOther : IsText other (.object (.ofList others))) (restates : Restates keys members others)
    {x : α} (accepted : decodeText record.decode text = .ok x) :
    decodeText record.decode other = .ok x := by
  rw [decodeText_of_isText _ isText] at accepted
  rw [decodeText_of_isText _ isOther]
  exact preserves_object keyed preserves _ _ x (.restated restates) isText.isWhole isOther.isWhole
    accepted

/-- A record is read by its keys if the values that mean the same under them are. -/
theorem readsBy_of_keyed (keyed : Keyed record keys)
    (preserves : ∀ key ∈ keys, Preserves key.same key.decode) : ReadsBy keys record.decode where
  part members isWhole result :=
    decode_object_iff keyed ((Members.isWhole_ofList members).mp isWhole)
  object text members isText result := by
    rw [decodeText_of_isText _ isText]
    exact decode_object_iff keyed ((Members.isWhole_ofList members).mp isText.isWhole)
  spelling text other value isText isOther := by
    rw [decodeText_of_isText _ isText, decodeText_of_isText _ isOther]
  wording _ _ _ _ isText isOther restates _ :=
    decodeText_restated keyed preserves isText isOther restates
  order _ _ _ _ isText isOther perm _ :=
    decodeText_restated keyed preserves isText isOther (restates_of_perm (perm.filter _))
  unknown _ _ before name value after unknown isText isOther _ :=
    decodeText_restated keyed preserves isText isOther (restates_insert unknown before value after)
  array text values isText short x := by
    have whole := (Items.isWhole_ofList values).mp isText.isWhole
    rw [decodeText_of_isText _ isText, decode_array_iff keyed short]
    exact decode_object_iff keyed fun member mem => whole member.2 (List.of_mem_zip mem).2

end Keyed

/-! ## 3. Stored records -/

theorem Field.preserves : ∀ key ∈ Field.keys, Preserves key.same key.decode := by
  simp only [Field.keys, List.forall_mem_cons]
  exact ⟨preserves_eq _, preserves_eq _, nofun⟩

theorem Entity.preserves : ∀ key ∈ Entity.keys, Preserves key.same key.decode := by
  have fields := preserves_list (preserves_object Field.keyed Field.preserves)
  simp only [Entity.keys, List.forall_mem_cons]
  exact ⟨preserves_eq _, preserves_eq _, fields, nofun⟩

theorem Selection.preserves : ∀ key ∈ Selection.keys, Preserves key.same key.decode := by
  have field := preserves_object Field.keyed Field.preserves
  simp only [Selection.keys, List.forall_mem_cons]
  exact ⟨field, preserves_eq _, preserves_eq _, preserves_eq _, nofun⟩

theorem Request.preserves : ∀ key ∈ Request.keys, Preserves key.same key.decode := by
  have entity := preserves_object Entity.keyed Entity.preserves
  have selections := preserves_list (preserves_object Selection.keyed Selection.preserves)
  simp only [Request.keys, List.forall_mem_cons]
  exact ⟨preserves_eq _, preserves_eq _, entity, entity, selections, nofun⟩

/-- Fields, entities, selections and requests are read by their keys. -/
theorem records_read_by_keys :
    ReadsBy Field.keys Field.decode ∧ ReadsBy Entity.keys Entity.decode
      ∧ ReadsBy Selection.keys Selection.decode ∧ ReadsBy Request.keys Request.decode :=
  ⟨readsBy_of_keyed Field.keyed Field.preserves, readsBy_of_keyed Entity.keyed Entity.preserves,
    readsBy_of_keyed Selection.keyed Selection.preserves,
    readsBy_of_keyed Request.keyed Request.preserves⟩

/-- A field with its keys in the other order, one of them escaped, and with an unknown key. -/
def fieldText : String :=
  " \x7b\"type\":\"String\", \"n\\u0061me\" :\"status\",\"size\":null\x7d"

/-- The members of the field. -/
def fieldMembers : List (String × Value) :=
  [("type", .string (some "String")), ("name", .string (some "status")), ("size", .null)]

theorem isText_fieldText : IsText fieldText (.object (.ofList fieldMembers)) := by
  have noGap : IsGap [] := nofun
  have gap : IsGap [' '] := by simp [IsGap, isSpace]
  have spaced {value cs} (written : Writes value cs) : WritesSpaced value ([] ++ (cs ++ [])) :=
    .around noGap written noGap
  have escaped : WritesChars "name".toList "n\\u0061me".toList :=
    .plain (by decide) (by decide) (by decide) <|
      .unit (show hexValue4? '0' '0' '6' '1' = some 97 by decide) (by decide) (by decide) <|
        writesChars_plain "me".toList (by decide)
  have type : WritesMember "type" (.string (some "String")) "\"type\":\"String\"".toList :=
    .keyed noGap (writesChars_plain "type".toList (by decide)) noGap <|
      spaced (.string (writesChars_plain "String".toList (by decide)))
  have name : WritesMember "name" (.string (some "status")) " \"n\\u0061me\" :\"status\"".toList :=
    .keyed gap escaped gap <|
      spaced (.string (writesChars_plain "status".toList (by decide)))
  have size : WritesMember "size" .null "\"size\":null".toList :=
    .keyed noGap (writesChars_plain "size".toList (by decide)) noGap (spaced .null)
  exact .around gap (.object (.cons type (.cons name (.last size)))) noGap

theorem fieldText_read :
    IsText fieldText (.object (.ofList fieldMembers))
      ∧ decodeText Field.decode fieldText = .ok ⟨"status", "String"⟩ := by
  refine ⟨isText_fieldText, ?_⟩
  refine (records_read_by_keys.1.object _ _ isText_fieldText _).mpr (outcome_ok_iff.mpr ?_)
  simp only [Field.keys, List.forall_mem_cons]
  refine ⟨.inl ⟨.string (some "status"), ?_, rfl⟩, .inl ⟨.string (some "String"), ?_, rfl⟩, nofun⟩
  · simp [under, fieldMembers]
  · simp [under, fieldMembers]

end QueryScribe
