import QueryScribe.Exchange.Record
import QueryScribe.Proofs.Json.Decoder
import QueryScribe.Session.Request

/-!
# Stored queries

Whatever is stored is read back as it was. Tags are read by more spellings than the one they are
written with, and records are read with their members in any order; what is written is one of the
forms that are read.

Results:
1. `Category.faithful`, …, `Dialect.faithful`: tags.
2. `Field.faithful`, …, `Request.faithful`: records.
3. `encode_round_trips`: decoding undoes encoding, and a session that loads its own request goes on
   with it.
-/

namespace QueryScribe

open Json

/-! ## 1. Tags -/

theorem Category.faithful : Faithful Category.encode Category.decode :=
  faithful_variants fun category => by cases category <;> rfl

theorem Operator.faithful : Faithful Operator.encode Operator.decode :=
  faithful_variants fun operator => by cases operator <;> rfl

theorem Connector.faithful : Faithful Connector.encode Connector.decode :=
  faithful_variants fun connector => by cases connector <;> rfl

theorem Operation.faithful : Faithful Operation.encode Operation.decode :=
  faithful_variants fun operation => by cases operation <;> rfl

/-- A dialect's tag is one of its names. -/
theorem Dialect.ofTag_tag (dialect : Dialect) : Dialect.ofTag dialect.tag = .ok dialect := by
  have named : Dialect.aliases.lookup (Text.lower (Text.trim dialect.tag)) = some dialect := by
    cases dialect <;> decide
  rw [Dialect.ofTag, named]

theorem Dialect.faithful : Faithful Dialect.encode Dialect.decode := by
  intro dialect
  refine ⟨_, spells_quote dialect.tag, ?_⟩
  have tag : decodeString (.string (some dialect.tag)) = .ok dialect.tag := rfl
  rw [Dialect.decode, tag]
  simp only [bind, Except.bind, Dialect.ofTag_tag]
  rfl

/-! ## 2. Records -/

theorem Field.faithful : Faithful Field.encode Field.decode :=
  faithful_record (by decide) fun field =>
    .slot faithful_string field.name <|
    .slot faithful_string field.declaredType <|
    .done field

theorem Entity.faithful : Faithful Entity.encode Entity.decode :=
  faithful_record (by decide) fun entity =>
    .slot faithful_string entity.name <|
    .slot faithful_string entity.qualifiedName <|
    .slot (faithful_list Field.faithful) entity.fields <|
    .done entity

theorem Selection.faithful : Faithful Selection.encode Selection.decode :=
  faithful_record (by decide) fun selection =>
    .slot Field.faithful selection.field <|
    .slot Operator.faithful selection.operator <|
    .slot Connector.faithful selection.connector <|
    .slot faithful_string selection.targetColumn <|
    .done selection

theorem Request.faithful : Faithful Request.encode Request.decode :=
  faithful_record (by decide) fun request =>
    .slot Dialect.faithful request.dialect <|
    .slot Operation.faithful request.operation <|
    .slot Entity.faithful request.source <|
    .slot Entity.faithful request.target <|
    .slot (faithful_list Selection.faithful) request.selections <|
    .done request

/-! ## 3. Round trips -/

/-- Whether a decoder undoes an encoding, which then cannot write two things alike. -/
structure RoundTrips (encode : α → String) (decode : Decoder α) : Prop where
  undone : ∀ x, decodeText decode (encode x) = .ok x
  injective : Function.Injective encode

theorem roundTrips_of_faithful {encode : α → String} {decode : Decoder α}
    (faithful : Faithful encode decode) : RoundTrips encode decode :=
  ⟨decodeText_encode faithful, injective_encode faithful⟩

/-- Decoding undoes encoding for everything that is stored, and a session that loads its own request
is where it was. -/
theorem encode_round_trips :
    RoundTrips Dialect.encode Dialect.decode
      ∧ RoundTrips Category.encode Category.decode
      ∧ RoundTrips Operator.encode Operator.decode
      ∧ RoundTrips Connector.encode Connector.decode
      ∧ RoundTrips Operation.encode Operation.decode
      ∧ RoundTrips Field.encode Field.decode
      ∧ RoundTrips Entity.encode Entity.decode
      ∧ RoundTrips Selection.encode Selection.decode
      ∧ RoundTrips Request.encode Request.decode
      ∧ ∀ steps, let request := (Session.run Session.start steps).2
        Session.step request (.load request.encode) = (.ok (.state request), request) := by
  refine ⟨roundTrips_of_faithful Dialect.faithful, roundTrips_of_faithful Category.faithful,
    roundTrips_of_faithful Operator.faithful, roundTrips_of_faithful Connector.faithful,
    roundTrips_of_faithful Operation.faithful, roundTrips_of_faithful Field.faithful,
    roundTrips_of_faithful Entity.faithful, roundTrips_of_faithful Selection.faithful,
    roundTrips_of_faithful Request.faithful, fun steps => ?_⟩
  -- Loading works in every state, whichever steps have led to it.
  generalize (Session.run Session.start steps).2 = request
  have loads := decodeText_encode Request.faithful request
  have performs : (Session.perform (.load request.encode)).runFrom request
      = (.ok (.state request), request) := by
    rw [Session.perform, loads]
    rfl
  exact performs

end QueryScribe
