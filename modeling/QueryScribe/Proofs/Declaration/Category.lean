import QueryScribe.Proofs.Declaration.TypeExpr
import QueryScribe.Proofs.Query.Category

/-!
# Categories of type expressions

The category of a described field is that of its declared type, which is a text. It can be seen from
the type expression as well. Layers that leave no trace in the declared type are peeled off from
the outside: what is left at the core decides on text. For a collection it is enough that one is
shown anywhere.

Results:
1. `declared?_core`: the core has the declared type of the whole.
2. `applyName_eq_text_iff`, `hasMarker_applyName`: what becomes of a name and its arguments.
3. `isText_of_outermost`, `hasMarker_declared_iff`: text and markers in a declared type.
4. `category_of_declared`: the category.
-/

namespace QueryScribe.Declaration

open TypeExprLemmas

/-! ## 1. Layers -/

namespace TypeExpr

/-- The type expression inside the outermost layer, if that is one that leaves no trace: a
reference, a parenthesis, a group, or an `Option` or `Box` with one type argument. -/
def inner? : TypeExpr → Option TypeExpr
  | reference element | paren element | group element => some element
  | path _ _ (.mk name arguments) =>
    match arguments.types with
    | [content] => if name ∈ ["Option", "Box"] then some content else none
    | _ => none
  | _ => none

theorem inner?_path_eq_some_iff {qualified : Bool} {earlier : List Segment} {name : String}
    {arguments : Arguments} {inner : TypeExpr} :
    (path qualified earlier (.mk name arguments)).inner? = some inner
      ↔ name ∈ ["Option", "Box"] ∧ arguments.types = [inner] := by
  rw [inner?]
  split
  · next content only => by_cases wraps : name ∈ ["Option", "Box"] <;> simp [wraps, only]
  · next several =>
    refine iff_of_false (by simp) fun only => ?_
    exact several inner only.2

theorem mem_parts_of_inner? {type inner : TypeExpr} (isInner : type.inner? = some inner) :
    inner ∈ type.parts := by
  cases type with
  | path qualified earlier last =>
    obtain ⟨name, arguments⟩ := last
    rw [parts, (inner?_path_eq_some_iff.mp isInner).2]
    exact List.mem_singleton_self _
  | slice | array | unnamed => cases isInner
  | reference | paren | group =>
    cases isInner
    exact List.mem_singleton_self _

/-- The type expression without all layers around it that leave no trace. -/
def core (type : TypeExpr) : TypeExpr :=
  match _inside : type.inner? with
  | some inner => inner.core
  | none => type
termination_by sizeOf type
decreasing_by exact sizeOf_part (mem_parts_of_inner? _inside)

theorem inner?_core (type : TypeExpr) : type.core.inner? = none := by
  fun_induction core type with
  | case1 type inner _ ih => exact ih
  | case2 type outermost => exact outermost

end TypeExpr

/-! ## 2. Names with arguments -/

/-- The collections that are declared as a list or a set of their one type argument. -/
def collectionNames : List String :=
  ["Vec", "VecDeque", "LinkedList", "HashSet", "BTreeSet"]

/-- Whether a path is declared under its own name, which has so many type arguments. -/
structure IsPrinted (name : String) (count : Nat) : Prop where
  unboxed : count = 0 → boxed? name = none
  unwrapped : count = 1 → name ∉ ["Option", "Box"]
  unchanged : count = 1 → name ∉ collectionNames

/-- Whether a name with so many type arguments makes a path a collection: it is one that is declared
as a list or a set, or it is declared under its own name, which has a marker. -/
def NamesCollection (name : String) (count : Nat) : Prop :=
  name ∈ collectionNames ∧ count = 1 ∨ IsPrinted name count ∧ HasMarker name

namespace DeclaredCategoryLemmas

theorem isWrapper_iff (name : String) : isWrapper name = true ↔ name ∈ ["Option", "Box"] := by
  simp [isWrapper]

/-- The name under which a path with one type argument is declared, unless it is a wrapper. -/
def heading (name : String) : String :=
  if isListType name then "List" else if isSetType name then "Set" else name

theorem applyName_single (name content : String) :
    applyName name [content]
      = if name ∈ ["Option", "Box"] then content else heading name ++ "<" ++ content ++ ">" := by
  simp only [applyName, isWrapper_iff, heading]
  split
  · rfl
  · split
    · rfl
    · split <;> rfl

theorem applied_ne_text (name content : String) : name ++ "<" ++ content ++ ">" ≠ "String" := by
  intro same
  have bracket : '<' ∈ "String".toList := by simp [← same]
  exact absurd bracket (by decide)

theorem boxed?_getD_eq_text_iff (name : String) :
    (boxed? name).getD name = "String" ↔ name ∈ ["String", "str"] := by
  unfold boxed?
  split <;> simp_all

theorem not_hasMarker_boxed {name boxed : String} (isBoxed : boxed? name = some boxed) :
    ¬ HasMarker boxed := by
  unfold boxed? at isBoxed
  split at isBoxed <;> cases isBoxed <;> decide

theorem mem_collectionNames (name : String) :
    name ∈ collectionNames ↔ isListType name = true ∨ isSetType name = true := by
  simp [collectionNames, isListType, isSetType, or_assoc]

theorem hasMarker_heading (name : String) :
    HasMarker (heading name) ↔ name ∈ collectionNames ∨ HasMarker name := by
  have marked : HasMarker "List" ∧ HasMarker "Set" := by decide
  rw [heading, mem_collectionNames]
  split
  · next isList => simp [isList, marked]
  · next noList =>
    split
    · next isSet => simp [isSet, marked]
    · next noSet => simp [noList, noSet]

end DeclaredCategoryLemmas

open DeclaredCategoryLemmas

/-- Only the text types themselves are declared as text, and what wraps them. -/
theorem applyName_eq_text_iff (name : String) (contents : List String) :
    applyName name contents = "String"
      ↔ (name ∈ ["String", "str"] ∧ contents = [])
        ∨ name ∈ ["Option", "Box"] ∧ contents = ["String"] := by
  match contents with
  | [] => simpa [applyName] using boxed?_getD_eq_text_iff name
  | [content] =>
    rw [applyName_single]
    split
    · next wraps => simp [wraps]
    · next other => simp [other, applied_ne_text]
  | first :: second :: others => simpa [applyName] using applied_ne_text _ _

/-- A declared type has the markers of its arguments, and another if its name makes a collection. -/
theorem hasMarker_applyName (name : String) (contents : List String) :
    HasMarker (applyName name contents)
      ↔ NamesCollection name contents.length ∨ ∃ content ∈ contents, HasMarker content := by
  match contents with
  | [] =>
    have printed : IsPrinted name 0 ↔ boxed? name = none :=
      ⟨fun printed => printed.unboxed rfl, fun unboxed => ⟨fun _ => unboxed, by simp, by simp⟩⟩
    cases isBoxed : boxed? name with
    | none => simp [applyName, NamesCollection, printed, isBoxed]
    | some boxed => simp [applyName, NamesCollection, printed, isBoxed, not_hasMarker_boxed isBoxed]
  | [content] =>
    have printed : IsPrinted name 1 ↔ name ∉ ["Option", "Box"] ∧ name ∉ collectionNames :=
      ⟨fun printed => ⟨printed.unwrapped rfl, printed.unchanged rfl⟩,
        fun ⟨unwrapped, unchanged⟩ => ⟨by simp, fun _ => unwrapped, fun _ => unchanged⟩⟩
    rw [applyName_single, NamesCollection, List.length_singleton, printed]
    split
    · next wraps =>
      have noCollection : name ∉ collectionNames := by
        simp only [List.mem_cons, List.not_mem_nil, or_false] at wraps
        rcases wraps with rfl | rfl <;> decide
      simp [wraps, noCollection]
    · next other =>
      rw [Category.hasMarker_applied, hasMarker_heading]
      by_cases collects : name ∈ collectionNames <;> simp [collects, other]
  | first :: second :: others =>
    have printed : IsPrinted name (others.length + 1 + 1) := by
      constructor <;> simp
    have applied : applyName name (first :: second :: others)
        = name ++ "<" ++ ", ".intercalate (first :: second :: others) ++ ">" := rfl
    rw [applied, Category.hasMarker_applied, Category.hasMarker_arguments, NamesCollection]
    simp [printed]

/-! ## 3. Text and collections -/

namespace TypeExpr

/-- Whether a type expression is a path to text: its last segment is `String` or `str` without type
arguments. -/
def IsText : TypeExpr → Prop
  | path _ _ (.mk name arguments) => name ∈ ["String", "str"] ∧ arguments.types = []
  | _ => False

/-- Whether a type expression itself is a collection: a slice, an array or a path whose name makes
it one. -/
def IsCollection : TypeExpr → Prop
  | slice _ | array _ => True
  | path _ _ (.mk name arguments) => NamesCollection name arguments.types.length
  | _ => False

/-- A layer that leaves no trace has the declared type of what is inside. -/
theorem declared?_inner {type inner : TypeExpr} (isInner : type.inner? = some inner)
    {declared : String} (has : type.declared? = some declared) :
    inner.declared? = some declared := by
  cases type with
  | path qualified earlier last =>
    obtain ⟨name, arguments⟩ := last
    obtain ⟨wraps, only⟩ := inner?_path_eq_some_iff.mp isInner
    obtain ⟨_, contents, each, applied⟩ := declared?_path_eq_some_iff.mp has
    rw [only] at each
    obtain ⟨content, others, found, none, rfl⟩ := List.forall₂_cons_left_iff.mp each
    rw [List.forall₂_nil_left_iff.mp none, applyName_single, if_pos wraps] at applied
    rw [found, applied]
  | slice | array | unnamed => cases isInner
  | reference | paren | group =>
    cases isInner
    exact has

/-- The core of a type expression has its declared type. -/
theorem declared?_core {type : TypeExpr} {declared : String}
    (has : type.declared? = some declared) : type.core.declared? = some declared := by
  fun_induction core type with
  | case1 type inner isInner ih => exact ih (declared?_inner isInner has)
  | case2 type => exact has

theorem declared?_slice_eq_some_iff {element : TypeExpr} {declared : String} :
    (slice element).declared? = some declared
      ↔ ∃ content, element.declared? = some content
        ∧ "List" ++ "<" ++ content ++ ">" = declared := by
  rw [declared?, Option.map_eq_some_iff]
  rfl

/-- A type expression that is its own core is declared as text exactly if it is a path to text. -/
theorem isText_of_outermost {type : TypeExpr} (outermost : type.inner? = none) {declared : String}
    (has : type.declared? = some declared) : declared = "String" ↔ type.IsText := by
  cases type with
  | path qualified earlier last =>
    obtain ⟨name, arguments⟩ := last
    obtain ⟨_, contents, each, rfl⟩ := declared?_path_eq_some_iff.mp has
    have none : arguments.types = [] ↔ contents = [] := by
      rw [← List.length_eq_zero_iff, each.length_eq, List.length_eq_zero_iff]
    rw [applyName_eq_text_iff, IsText, none, or_iff_left]
    -- A wrapper with one argument would have something inside.
    rintro ⟨wraps, rfl⟩
    obtain ⟨content, others, _, none, only⟩ := List.forall₂_cons_right_iff.mp each
    rw [List.forall₂_nil_right_iff.mp none] at only
    rw [inner?_path_eq_some_iff.mpr ⟨wraps, only⟩] at outermost
    cases outermost
  | slice element | array element =>
    obtain ⟨content, _, rfl⟩ := declared?_slice_eq_some_iff.mp has
    exact iff_of_false (applied_ne_text _ _) id
  | unnamed => cases has
  | reference | paren | group => cases outermost

/-- What holds of some part holds of some declared type, if it holds of each part and its declared
type alike. -/
theorem exists_mem_iff_of_forall₂ {parts : List TypeExpr} {contents : List String}
    (each : List.Forall₂ (fun part content => part.declared? = some content) parts contents)
    {p : TypeExpr → Prop} {q : String → Prop}
    (alike : ∀ part ∈ parts, ∀ content, part.declared? = some content → (q content ↔ p part)) :
    (∃ content ∈ contents, q content) ↔ ∃ part ∈ parts, p part := by
  induction each with
  | nil => simp
  | cons found others ih =>
    rw [List.exists_mem_cons_iff, List.exists_mem_cons_iff,
      alike _ List.mem_cons_self _ found,
      ih fun part mem => alike part (List.mem_cons_of_mem _ mem)]

/-- A declared type has a marker exactly if a collection is shown. The induction is on parts: a type
expression has the markers of its parts, and one more if it is a collection itself. -/
theorem hasMarker_declared_iff {type : TypeExpr} {declared : String}
    (has : type.declared? = some declared) :
    HasMarker declared ↔ ∃ shown, type.Shows shown ∧ shown.IsCollection := by
  induction type using induction_parts generalizing declared with
  | step type ih =>
    rw [exists_shows_iff]
    cases type with
    | path qualified earlier last =>
      obtain ⟨name, arguments⟩ := last
      obtain ⟨_, contents, each, rfl⟩ := declared?_path_eq_some_iff.mp has
      rw [hasMarker_applyName, IsCollection, ← each.length_eq,
        exists_mem_iff_of_forall₂ each fun part mem content found => ih part mem found]
      rfl
    | slice element | array element =>
      obtain ⟨content, _, rfl⟩ := declared?_slice_eq_some_iff.mp has
      have marked : HasMarker "List" := by decide
      exact iff_of_true ((Category.hasMarker_applied _ _).mpr (.inl marked)) (.inl trivial)
    | unnamed => cases has
    | reference element | paren element | group element =>
      simpa [parts, IsCollection] using ih element (List.mem_singleton_self _) has

end TypeExpr

/-! ## 4. Categories -/

/-- The category of a declared type follows the type expression: text if there is text at the core,
a collection if one is shown, and a scalar otherwise. -/
theorem category_of_declared {type : TypeExpr} {declared : String}
    (has : type.declared? = some declared) :
    type.core.declared? = some declared
      ∧ (Category.ofType declared = .text ↔ type.core.IsText)
      ∧ (Category.ofType declared = .collection ↔ ∃ shown, type.Shows shown ∧ shown.IsCollection)
      ∧ (Category.ofType declared = .scalar ↔
        ¬ type.core.IsText ∧ ¬ ∃ shown, type.Shows shown ∧ shown.IsCollection) := by
  have core := TypeExpr.declared?_core has
  have text := TypeExpr.isText_of_outermost type.inner?_core core
  have collection := TypeExpr.hasMarker_declared_iff has
  refine ⟨core, ?_, ?_, ?_⟩
  · rw [Category.ofType_eq_text_iff, text]
  · rw [Category.ofType_eq_collection_iff, collection]
  · rw [Category.ofType_eq_scalar_iff, Ne, text, collection]

/-- A boxed text in a reference. -/
def boxedText : TypeExpr :=
  .reference (.path false [] (.mk "Box" (.angled [.type (.path false [] (.mk "str" .none))])))

/-- A map from texts to bytes, which may be missing. -/
def bytesByText : TypeExpr :=
  .path false [] (.mk "Option" (.angled [.type
    (.path false [.mk "std" .none] (.mk "HashMap" (.angled
      [.type boxedText, .type (.slice (.path false [] (.mk "u8" .none)))])))]))

theorem bytesByText_collection :
    bytesByText.declared? = some "HashMap<String, List<Byte>>"
      ∧ Category.ofType "HashMap<String, List<Byte>>" = .collection
      ∧ boxedText.core.IsText ∧ ¬ bytesByText.core.IsText := by
  have bytes : bytesByText.declared? = some "HashMap<String, List<Byte>>" := by decide
  have text : boxedText.declared? = some "String" := by decide
  obtain ⟨_, isText, isCollection, _⟩ := category_of_declared bytes
  have shown : ∃ shown, bytesByText.Shows shown ∧ shown.IsCollection :=
    ⟨_, .part (List.mem_singleton_self _)
      (.part (List.mem_cons_of_mem _ (List.mem_singleton_self _)) (.root _)), trivial⟩
  exact ⟨bytes, isCollection.mpr shown, (category_of_declared text).2.1.mp (by decide),
    fun core => absurd (isText.mpr core) (by decide)⟩

end QueryScribe.Declaration
