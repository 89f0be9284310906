import Mathlib.Data.List.Forall2
import QueryScribe.Declaration.Item.Reader
import QueryScribe.Proofs.Declaration.Setting

/-!
# What a struct describes

Once all settings of a struct can be made use of, it describes an entity with one declaration for
each field that is not skipped, or else it is refused with one complaint for each of these fields
that has no declared type. What is skipped has no part in that. Words are taken as they are written,
raw identifiers with their sign.

Results:
1. `standsFor_plainName`: the name that a word stands for; `isKept_iff`,
   `declaredType?_eq_none_iff`, `describes_of_describe?`: single fields.
2. `settingComplaints_eq_nil_iff`, `kept_eq`, `typeComplaints_eq`: the fields of a struct.
3. `describe_decided`: the entity or the complaints.
-/

namespace QueryScribe.Declaration

open Setting

/-- Whether a word in a source text stands for a name: a raw identifier for the name behind its
sign, and any other word for itself. -/
inductive StandsFor : String → String → Prop
  | raw (name : String) : StandsFor ("r#" ++ name) name
  | plain {word : String} (bare : ∀ name, word ≠ "r#" ++ name) : StandsFor word word

namespace FieldItem

/-- Whether a field is left out of the entity. -/
def IsSkipped (field : FieldItem) : Prop :=
  TurnsOn "skip" field.settings

instance (field : FieldItem) : Decidable field.IsSkipped :=
  inferInstanceAs (Decidable (TurnsOn "skip" field.settings))

/-- Whether nothing gives a field a declared type: none is set, and its type expression has none. -/
def IsUntyped (field : FieldItem) : Prop :=
  Lacks "type_name" field.settings ∧ field.type.declared? = none

instance (field : FieldItem) : Decidable field.IsUntyped :=
  inferInstanceAs (Decidable (_ ∧ _))

/-- Whether a field of an entity is the one that a field of a struct describes: the name is as set,
or else the one that the field's word stands for, in the style, and the declared type is as set, or
else that of the type expression. -/
structure Describes (style : NameStyle) (field : FieldItem) (described : Field) : Prop where
  name : ∃ name, StandsFor field.word name
    ∧ Gives field.settings "rename" (some (style.apply name)) described.name
  declaredType : Gives field.settings "type_name" field.type.declared? described.declaredType

end FieldItem

namespace Item

/-- Whether the settings of a struct and of all its fields can be made use of. -/
structure IsUsable (item : Item) (fields : List FieldItem) : Prop where
  own : AreUsable structKeys item.settings
  fields : ∀ field ∈ fields, AreUsable fieldKeys field.settings

/-- Whether field names are put into the style: it is set, or none is set and it is camel case. -/
def IsStyled (item : Item) (style : NameStyle) : Prop :=
  (∃ name, .value "rename_all" (.string name) ∈ item.settings
      ∧ NameStyle.ofName? name = some style)
    ∨ Lacks "rename_all" item.settings ∧ style = .camel

end Item

/-! ## 1. Fields -/

/-- A word stands for its plain name. -/
theorem standsFor_plainName (word : String) : StandsFor word (plainName word) := by
  unfold plainName
  split
  · next cs chars =>
    have raw : word = "r#" ++ String.ofList cs := String.toList_injective (by simpa using chars)
    rw [raw]
    exact .raw _
  · next notRaw =>
    refine .plain fun name raw => notRaw name.toList ?_
    simp [raw]

namespace FieldItem

variable {field : FieldItem}

theorem isKept_iff (usable : AreUsable fieldKeys field.settings) :
    field.isKept = true ↔ ¬ field.IsSkipped := by
  rw [isKept, Bool.not_eq_true', ← Bool.not_eq_true, isOn_iff usable rfl]
  rfl

theorem declaredType?_eq_none_iff (usable : AreUsable fieldKeys field.settings) :
    field.declaredType? = none ↔ field.IsUntyped := by
  rw [declaredType?, Option.or_eq_none_iff, textOf?_eq_none_iff usable rfl]
  rfl

/-- A field that has a declared type is described. -/
theorem describes_of_describe? (usable : AreUsable fieldKeys field.settings)
    (typed : ¬ field.IsUntyped) (style : NameStyle) :
    ∃ described, field.describe? style = some described ∧ field.Describes style described := by
  rw [← declaredType?_eq_none_iff usable] at typed
  obtain ⟨declaredType, declared⟩ := Option.ne_none_iff_exists'.mp typed
  refine ⟨⟨field.describedName style, declaredType⟩, ?_, ?_, ?_⟩
  · rw [describe?, declared]
    rfl
  · refine ⟨field.name, standsFor_plainName field.word, (gives_iff usable rfl _ _).mpr ?_⟩
    rw [describedName, Option.or_some]
  · exact (gives_iff usable rfl _ _).mpr declared

end FieldItem

/-! ## 2. The fields of a struct -/

/-- Nothing is complained about exactly when all settings can be made use of. -/
theorem settingComplaints_eq_nil_iff (item : Item) (fields : List FieldItem) :
    item.settingComplaints fields = [] ↔ item.IsUsable fields := by
  rw [Item.settingComplaints, List.append_eq_nil_iff, complaints_eq_nil_iff,
    List.flatMap_eq_nil_iff]
  constructor
  · rintro ⟨own, quiet⟩
    exact ⟨own, fun field mem => (complaints_eq_nil_iff _ _).mp (quiet field mem)⟩
  · rintro ⟨own, usable⟩
    exact ⟨own, fun field mem => (complaints_eq_nil_iff _ _).mpr (usable field mem)⟩

namespace ItemLemmas

variable {item : Item} {fields : List FieldItem}

theorem kept_eq (usable : ∀ field ∈ fields, AreUsable fieldKeys field.settings) :
    fields.filter (·.isKept) = fields.filter fun field => ¬ field.IsSkipped := by
  refine List.filter_congr fun field mem => ?_
  rw [Bool.eq_iff_iff, FieldItem.isKept_iff (usable field mem), decide_eq_true_iff]

theorem typeComplaints_eq (usable : ∀ field ∈ fields, AreUsable fieldKeys field.settings) :
    Item.typeComplaints fields
      = (fields.filter fun field => field.IsUntyped).map fun field =>
          .noDeclaredType field.word := by
  rw [Item.typeComplaints]
  refine congrArg _ (List.filter_congr fun field mem => ?_)
  rw [Bool.eq_iff_iff, Option.isNone_iff_eq_none,
    FieldItem.declaredType?_eq_none_iff (usable field mem), decide_eq_true_iff]

/-- By induction on the fields, each of which has its declaration. -/
theorem describes_all (usable : ∀ field ∈ fields, AreUsable fieldKeys field.settings)
    (typed : ∀ field ∈ fields, ¬ field.IsUntyped) (style : NameStyle) :
    List.Forall₂ (FieldItem.Describes style) fields (fields.filterMap (·.describe? style)) := by
  induction fields with
  | nil => exact .nil
  | cons field fields ih =>
    obtain ⟨described, made, describes⟩ :=
      FieldItem.describes_of_describe? (usable field List.mem_cons_self)
        (typed field List.mem_cons_self) style
    rw [List.filterMap_cons_some made]
    exact .cons describes (ih (fun other mem => usable other (List.mem_cons_of_mem _ mem))
      fun other mem => typed other (List.mem_cons_of_mem _ mem))

theorem isStyled_style (usable : item.IsUsable fields) : item.IsStyled item.style := by
  rw [Item.style]
  cases given : styleOf? "rename_all" item.settings with
  | some style => exact .inl ((styleOf?_eq_some_iff usable.own rfl style).mp given)
  | none =>
    refine .inr ⟨(styleOf?_eq_none_iff usable.own rfl).mp given, rfl⟩

/-- What is left of a struct once its settings can be made use of: its kept fields decide. -/
theorem describe_eq (moduleName : String) (shape : item.shape = .namedFields fields)
    (usable : item.IsUsable fields) :
    item.describe moduleName
      = match Item.typeComplaints (fields.filter fun field => ¬ field.IsSkipped) with
        | [] => .ok (.ofFields item.describedName (item.qualifiedName moduleName)
          ((fields.filter fun field => ¬ field.IsSkipped).filterMap (·.describe? item.style)))
        | complaints => .error complaints := by
  rw [Item.describe, shape]
  simp only [(settingComplaints_eq_nil_iff item fields).mpr usable, kept_eq usable.fields]
  split <;> simp_all

theorem typeComplaints_kept (usable : item.IsUsable fields) :
    Item.typeComplaints (fields.filter fun field => ¬ field.IsSkipped)
      = ((fields.filter fun field => ¬ field.IsSkipped).filter fun field => field.IsUntyped).map
        fun field => .noDeclaredType field.word :=
  typeComplaints_eq fun field mem => usable.fields field (List.mem_of_mem_filter mem)

theorem describe_typed (moduleName : String) (shape : item.shape = .namedFields fields)
    (usable : item.IsUsable fields)
    (typed : ∀ field ∈ fields.filter fun field => ¬ field.IsSkipped, ¬ field.IsUntyped) :
    item.describe moduleName
      = .ok (.ofFields item.describedName (item.qualifiedName moduleName)
        ((fields.filter fun field => ¬ field.IsSkipped).filterMap (·.describe? item.style))) := by
  have quiet : (fields.filter fun field => ¬ field.IsSkipped).filter (fun field => field.IsUntyped)
      = [] := List.filter_eq_nil_iff.mpr fun field mem => by simpa using typed field mem
  rw [describe_eq moduleName shape usable, typeComplaints_kept usable, quiet]
  rfl

theorem describe_untyped (moduleName : String) (shape : item.shape = .namedFields fields)
    (usable : item.IsUsable fields)
    (untyped : ∃ field ∈ fields.filter fun field => ¬ field.IsSkipped, field.IsUntyped) :
    item.describe moduleName
      = .error (((fields.filter fun field => ¬ field.IsSkipped).filter
        fun field => field.IsUntyped).map fun field => .noDeclaredType field.word) := by
  obtain ⟨field, mem, lacks⟩ := untyped
  have some : field ∈ (fields.filter fun field => ¬ field.IsSkipped).filter
      fun field => field.IsUntyped := List.mem_filter.mpr ⟨mem, by simpa using lacks⟩
  rw [describe_eq moduleName shape usable, typeComplaints_kept usable]
  split
  · next quiet =>
    rw [List.map_eq_nil_iff.mp quiet] at some
    exact absurd some List.not_mem_nil
  · rfl

/-- A list without its skipped fields is the same, whichever skipped fields stand in a place. -/
theorem filter_replaced (before after : List FieldItem) {others : List FieldItem}
    (skipped : ∀ other ∈ others, other.IsSkipped) :
    (before ++ others ++ after).filter (fun field => ¬ field.IsSkipped)
      = (before ++ after).filter fun field => ¬ field.IsSkipped := by
  have gone : others.filter (fun field => ¬ field.IsSkipped) = [] :=
    List.filter_eq_nil_iff.mpr fun other mem => by simp [skipped other mem]
  rw [List.filter_append, List.filter_append, gone, List.append_nil, ← List.filter_append]

/-- Skipped fields make no difference, as long as their settings can be made use of. -/
theorem describe_replaced (moduleName : String) {before after : List FieldItem}
    {skipped : FieldItem} {others : List FieldItem}
    (shape : item.shape = .namedFields (before ++ skipped :: after))
    (usable : item.IsUsable (before ++ skipped :: after)) (isSkipped : skipped.IsSkipped)
    (harmless : ∀ other ∈ others, other.IsSkipped ∧ AreUsable fieldKeys other.settings) :
    Item.describe moduleName { item with shape := .namedFields (before ++ others ++ after) }
      = item.describe moduleName := by
  have replaced : Item.IsUsable { item with shape := .namedFields (before ++ others ++ after) }
      (before ++ others ++ after) := by
    refine ⟨usable.own, fun field mem => ?_⟩
    rw [List.append_assoc, List.mem_append, List.mem_append] at mem
    rcases mem with mem | mem | mem
    · exact usable.fields field (List.mem_append_left _ mem)
    · exact (harmless field mem).2
    · exact usable.fields field (List.mem_append_right _ (List.mem_cons_of_mem _ mem))
  have without := filter_replaced before after (List.forall_mem_singleton.mpr isSkipped)
  rw [List.append_assoc, List.singleton_append] at without
  rw [describe_eq moduleName shape usable, describe_eq moduleName rfl replaced,
    filter_replaced before after fun other mem => (harmless other mem).1, without]
  rfl

end ItemLemmas

open ItemLemmas

/-! ## 3. Structs -/

/-- A struct whose settings can be made use of describes the entity that declares its kept fields in
order, when each of these has a declared type. Otherwise there is no entity but one complaint about
each kept field without a declared type, in order. Skipped fields can be dropped, put in and
exchanged for others. -/
theorem describe_decided (moduleName : String) {item : Item} {fields : List FieldItem}
    (shape : item.shape = .namedFields fields) (usable : item.IsUsable fields) :
    let kept := fields.filter fun field => ¬ field.IsSkipped
    ((∀ field ∈ kept, ¬ field.IsUntyped) →
      ∃ plain name qualifiedName style described,
        StandsFor item.word plain
        ∧ Gives item.settings "name" (some plain) name
        ∧ Gives item.settings "qualified" (some (moduleName ++ "::" ++ name)) qualifiedName
        ∧ item.IsStyled style
        ∧ List.Forall₂ (FieldItem.Describes style) kept described
        ∧ item.describe moduleName
          = .ok (described.foldl Entity.withField ⟨name, qualifiedName, []⟩))
    ∧ ((∃ field ∈ kept, field.IsUntyped) →
      item.describe moduleName
        = .error ((kept.filter fun field => field.IsUntyped).map fun field =>
          .noDeclaredType field.word))
    ∧ (∀ before skipped after others, fields = before ++ skipped :: after → skipped.IsSkipped →
      (∀ other ∈ others, other.IsSkipped ∧ AreUsable fieldKeys other.settings) →
      Item.describe moduleName { item with shape := .namedFields (before ++ others ++ after) }
        = item.describe moduleName)
    ∧ ∀ source, Item.read? source = some item →
      describe moduleName source = (item.describe moduleName).mapError .refused := by
  intro kept
  have keptUsable : ∀ field ∈ kept, AreUsable fieldKeys field.settings :=
    fun field mem => usable.fields field (List.mem_of_mem_filter mem)
  refine ⟨fun typed => ?_, describe_untyped moduleName shape usable, ?_, fun source read => ?_⟩
  · refine ⟨item.name, item.describedName, item.qualifiedName moduleName, item.style, _,
      standsFor_plainName item.word, ?_, ?_, isStyled_style usable,
      describes_all keptUsable typed item.style, describe_typed moduleName shape usable typed⟩
    · refine (gives_iff usable.own rfl _ _).mpr ?_
      rw [Item.describedName, Option.or_some]
    · refine (gives_iff usable.own rfl _ _).mpr ?_
      rw [Item.qualifiedName, Option.or_some]
  · rintro before skipped after others rfl
    exact describe_replaced moduleName shape usable
  · rw [describe, read]

/-- Fields with settings of every kind. One is skipped, and one has a type without a name. -/
def orderFields : List FieldItem :=
  [⟨"number", .path false [] (.mk "u32" .none), [.value "rename" (.string "orderNo")]⟩,
   ⟨"page", .unnamed, [.word "skip"]⟩,
   ⟨"minTotal", .path false [] (.mk "f64" .none), [.value "type_name" (.string "BigDecimal")]⟩,
   ⟨"r#fn", .unnamed, []⟩]

/-- A filter on orders. -/
def orderFilter : Item where
  word := "OrderFilter"
  settings := [.value "name" (.string "OrderQuery"), .value "rename_all" (.string "Snake")]
  shape := .namedFields orderFields

theorem orderFilter_refused :
    orderFilter.IsUsable orderFields
      ∧ orderFilter.describe "app" = .error [.noDeclaredType "r#fn"] := by
  have usable : orderFilter.IsUsable orderFields :=
    (settingComplaints_eq_nil_iff _ _).mp (by decide)
  have function : ⟨"r#fn", .unnamed, []⟩ ∈ orderFields.filter fun field => ¬ field.IsSkipped :=
    List.mem_filter.mpr ⟨by simp [orderFields], by decide⟩
  exact ⟨usable, (describe_decided "app" rfl usable).2.1 ⟨_, function, by decide⟩⟩

/-- Raw identifiers lose their sign in the name of an entity and in the names of its fields. -/
example : describe "app" "struct r#Box \x7b r#type: u32 \x7d"
    = .ok ⟨"Box", "app::Box", [⟨"type", "Integer"⟩]⟩ := by
  decide +kernel

end QueryScribe.Declaration
