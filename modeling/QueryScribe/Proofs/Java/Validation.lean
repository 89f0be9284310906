import Mathlib.Data.List.Find
import QueryScribe.Generation
import QueryScribe.Proofs.Java.Statement

/-!
# Running validations

A generated method begins with statements that throw when something is wrong with its bean. They are
read from the method's text and run for a bean: the first one whose condition holds throws, and its
message says what is wrong.

Results:
1. `text_rejection`: a rejection is written as a guarded statement.
2. `runAll_statements`: statements of rejections throw as the first rejection whose checks hold.
3. `validate_ofQuery`: what the validation of a query throws, in terms of what its fields hold.
-/

namespace QueryScribe.Java

open Text

/-! ## Validations -/

/-- The message of the exception that a statement throws. -/
def Guarded.thrown (statement : Guarded) : Option String :=
  (between "throw new IllegalArgumentException(\"" "\");" statement.body.toList).map String.ofList

/-- The message of the exception that statements throw for a bean, if they throw one. -/
def runAll (bean : Bean) : List Guarded → Option (Option String)
  | [] => some none
  | statement :: others => do
    if ← holds bean statement.condition then
      let message ← statement.thrown
      return some message
    else runAll bean others

/-- What the validation that is written in a text throws for a bean. -/
def validate (bean : Bean) (text : String) : Option (Option String) := do
  runAll bean (← readBlock text)

/-- The text of a query's validation. -/
def validationText (query : Query) : String :=
  String.join ((Rejection.ofQuery query).map Rejection.text)

/-- The text of a query's predicates. -/
def predicatesText (query : Query) : String :=
  String.join ((query.selections.map Predicate.ofSelection).map Predicate.text)

/-- The text of a query's specification, with the statements that add its predicates. -/
def specificationText (query : Query) (predicates : String) : String :=
  "public static Specification<" ++ query.target.name ++ "> get" ++ query.operation.pascalName
    ++ "Specification(" ++ query.source.name ++ " entity) \x7b\n"
    ++ validationText query
    ++ "    return (root, query, cb) -> \x7b\n"
    ++ "        List<Predicate> predicates = new ArrayList<>();\n\n"
    ++ predicates
    ++ "        return cb.and(predicates.toArray(new Predicate[0]));\n"
    ++ "    \x7d;\n"
    ++ "\x7d"

/-- The text of a query's service method, with its chain. -/
def serviceText (query : Query) (chain : String) : String :=
  "public " ++ (ServiceMethod.ofQuery query).returnType ++ " " ++ query.operation.name
    ++ query.target.name ++ "(" ++ query.source.name ++ " entity) \x7b\n"
    ++ validationText query
    ++ chain
    ++ "\x7d"

theorem text_specification (query : Query) :
    query.text .specification = specificationText query (predicatesText query) := rfl

theorem text_fluent (query : Query) :
    query.text .fluent = serviceText query ((Chain.ofQuery query).text query.target.name) := rfl

/-- What is wrong with the values of a query's fields. Reading needs one of them, writing all of
them, and a page none. -/
def complaint (contents : String → Content) (query : Query) : Option String :=
  match query.operation with
  | .select =>
    if query.selections.all fun selection =>
        (contents selection.name).isMissing selection.category then
      some "At least one search criterion must be provided"
    else none
  | .selectPage => none
  | .update | .delete | .insert =>
    (query.selections.find? fun selection =>
        (contents selection.name).isMissing selection.category).map
      fun selection => selection.name ++ " must not be null or empty"

/-! ## 1. Rejections as statements -/

/-- The statement of a rejection. -/
def Rejection.statement (rejection : Rejection) : Guarded :=
  ⟨rejection.conditionText,
   "throw new IllegalArgumentException(\"" ++ rejection.message ++ "\");"⟩

/-- A rejection is written as a guarded statement. -/
theorem text_rejection (rejection : Rejection) :
    rejection.text = rejection.statement.text "    " := by
  unfold Rejection.text Guarded.text Rejection.statement Rejection.conditionText
  apply String.toList_injective
  simp

/-- Whether a rejection can be read back: it checks something, and its message has no braces. -/
structure Rejection.IsReadable (rejection : Rejection) : Prop where
  checks : rejection.checks ≠ []
  access : ∀ check ∈ rejection.checks, IsAccess check.subject
  message : HasNoBraces rejection.message

namespace ValidationLemmas

theorem isClosed_statement {rejection : Rejection} (readable : rejection.IsReadable) :
    rejection.statement.IsClosed where
  condition := by
    refine forall_intercalate (by decide) fun part mem => ?_
    obtain ⟨check, among, rfl⟩ := List.mem_map.mp mem
    exact hasNoBraces_condition (readable.access check among)
  body := forall_append (forall_append (by decide) readable.message) (by decide)
  trimmed := by
    rw [Rejection.statement, String.toList_append, String.toList_append]
    exact isTrimmed_around _ (by decide) (by decide)

theorem thrown_statement (rejection : Rejection) :
    rejection.statement.thrown = some rejection.message := by
  have message := between_append "throw new IllegalArgumentException(\"" "\");"
    rejection.message.toList
  rw [← String.toList_append, ← String.toList_append] at message
  rw [Guarded.thrown, Rejection.statement, message, Option.map_some, String.ofList_toList]

end ValidationLemmas

open ValidationLemmas

/-! ## 2. The first rejection -/

/-- Whether all checks of a rejection hold. -/
def Rejection.applies (bean : Bean) (rejection : Rejection) : Bool :=
  rejection.checks.all fun check => check.presence.holds check.category (bean check.subject)

/-- Statements of rejections throw as the first rejection whose checks hold. -/
theorem runAll_statements (bean : Bean) {rejections : List Rejection}
    (readable : ∀ rejection ∈ rejections, rejection.IsReadable) :
    runAll bean (rejections.map Rejection.statement)
      = some ((rejections.find? (·.applies bean)).map (·.message)) := by
  induction rejections with
  | nil => rfl
  | cons rejection others ih =>
    have here := readable rejection (by simp)
    have rest := ih fun other mem => readable other (List.mem_cons_of_mem _ mem)
    have value : holds bean rejection.statement.condition = some (rejection.applies bean) :=
      throws_eq bean rejection here.checks here.access
    rw [List.map_cons, runAll, value]
    cases applies : rejection.applies bean with
    | true =>
      rw [List.find?_cons_of_pos applies, thrown_statement]
      rfl
    | false =>
      rw [List.find?_cons_of_neg (by simp [applies])]
      exact rest

/-! ## 3. The validation of a query -/

/-- Whether a bean is there and has the given contents in a query's fields. -/
structure Bean.Holds (bean : Bean) (contents : String → Content) (query : Query) : Prop where
  entity : bean "entity" ≠ .null
  fields : ∀ selection ∈ query.selections, bean (accessor selection.name) = contents selection.name

theorem accessor_ne_entity (name : String) : accessor name ≠ "entity" := by
  intro same
  have chars := congrArg String.toList same
  simp [accessor] at chars

/-- The bean that has contents in the fields of some names, and something in every other place. -/
def Bean.ofNames (contents : String → Content) (names : List String) : Bean := fun expression =>
  match names.find? fun name => accessor name = expression with
  | some name => contents name
  | none => .filled

/-- Names with the same accessor aside, a bean can have any contents. -/
theorem exists_bean_of_names (contents : String → Content) (names : List String)
    (alike : ∀ first ∈ names, ∀ second ∈ names, accessor first = accessor second →
      contents first = contents second) :
    ∃ bean : Bean, bean "entity" ≠ .null
      ∧ ∀ name ∈ names, bean (accessor name) = contents name := by
  refine ⟨.ofNames contents names, ?_, fun name mem => ?_⟩
  · have missing : (names.find? fun name => accessor name = "entity") = none :=
      List.find?_eq_none.mpr fun name _ => by simp [accessor_ne_entity]
    rw [Bean.ofNames, missing]
    exact Content.noConfusion
  · rw [Bean.ofNames]
    cases found : names.find? fun other => accessor other = accessor name with
    | none => exact absurd (List.find?_eq_none.mp found name mem) (by simp)
    | some other =>
      have same : accessor other = accessor name := by simpa using List.find?_some found
      exact alike other (List.mem_of_find?_eq_some found) name mem same

/-- Fields with the same accessor aside, a bean can have any contents. -/
theorem exists_bean {contents : String → Content} {query : Query}
    (alike : ∀ first ∈ query.selections, ∀ second ∈ query.selections,
      accessor first.name = accessor second.name → contents first.name = contents second.name) :
    ∃ bean : Bean, bean.Holds contents query := by
  obtain ⟨bean, entity, names⟩ := exists_bean_of_names contents
    (query.selections.map (·.name)) (by simpa using alike)
  exact ⟨bean, entity, by simpa using names⟩

namespace ValidationLemmas

variable {query : Query}

theorem readable_ofQuery
    (named : ∀ selection ∈ query.selections, isIdentifier selection.name = true) :
    ∀ rejection ∈ Rejection.ofQuery query, rejection.IsReadable := by
  have access (selection : Selection) (mem : selection ∈ query.selections) :
      IsAccess (fieldCheck .missing selection.field).subject :=
    isAccess_accessor (named selection mem)
  have entity : Rejection.nullEntity.IsReadable := by
    refine ⟨by simp [Rejection.nullEntity], fun check mem => ?_,
      show HasNoBraces "Entity must not be null" by decide⟩
    rw [List.mem_singleton.mp mem]
    exact ⟨⟨_, rfl⟩, by decide⟩
  have none : (Rejection.noCriterion query.selections).IsReadable := by
    refine ⟨by simp [Rejection.noCriterion, query.selections_ne_nil], fun check mem => ?_,
      show HasNoBraces "At least one search criterion must be provided" by decide⟩
    obtain ⟨selection, selected, rfl⟩ := List.mem_map.mp mem
    exact access selection selected
  have field (selection : Selection) (selected : selection ∈ query.selections) :
      (Rejection.missingField selection).IsReadable := by
    have plain : HasNoBraces selection.name :=
      .of_forall (isWordChar_of_mem (named selection selected)) (by decide) (by decide)
    refine ⟨List.cons_ne_nil _ _, fun check mem => ?_, forall_append plain (by decide)⟩
    rw [List.mem_singleton.mp mem]
    exact access selection selected
  intro rejection mem
  rcases List.mem_cons.mp mem with rfl | mem
  · exact entity
  rw [Rejection.ofCriteria] at mem
  split at mem
  · exact absurd mem List.not_mem_nil
  split at mem
  · rw [List.mem_singleton.mp mem]
    exact none
  · obtain ⟨selection, selected, rfl⟩ := List.mem_map.mp mem
    exact field selection selected

theorem applies_nullEntity {bean : Bean} (entity : bean "entity" ≠ .null) :
    Rejection.nullEntity.applies bean = false := by
  cases content : bean "entity" <;>
    simp_all [Rejection.applies, Rejection.nullEntity, Presence.holds, Content.isMissing]

/-- The criteria are rejected with the complaint about them. -/
theorem find_ofCriteria {bean : Bean} {contents : String → Content}
    (fields : ∀ selection ∈ query.selections,
      bean (accessor selection.name) = contents selection.name) :
    ((Rejection.ofCriteria query).find? (·.applies bean)).map (·.message)
      = complaint contents query := by
  have answer (selection : Selection) (mem : selection ∈ query.selections) :
      (Rejection.missingField selection).applies bean
        = (contents selection.name).isMissing selection.category := by
    rw [← fields selection mem, Rejection.applies, Rejection.missingField, List.all_cons,
      List.all_nil, Bool.and_true]
    rfl
  cases operation : query.operation with
  | select =>
    have only : Rejection.ofCriteria query = [Rejection.noCriterion query.selections] := by
      simp [Rejection.ofCriteria, operation, Operation.isGuarded, Operation.isSelect]
    have all : (Rejection.noCriterion query.selections).applies bean
        = query.selections.all fun selection =>
          (contents selection.name).isMissing selection.category := by
      rw [Rejection.applies, Rejection.noCriterion, List.all_map, Bool.eq_iff_iff,
        List.all_eq_true, List.all_eq_true]
      refine forall₂_congr fun selection mem => ?_
      rw [← fields selection mem]
      rfl
    rw [only, List.find?_singleton, all]
    simp only [complaint, operation]
    cases query.selections.all fun selection =>
      (contents selection.name).isMissing selection.category <;> rfl
  | selectPage => simp [Rejection.ofCriteria, complaint, operation, Operation.isGuarded]
  | update | delete | insert =>
    have each : Rejection.ofCriteria query = query.selections.map .missingField := by
      simp [Rejection.ofCriteria, operation, Operation.isGuarded, Operation.isSelect]
    rw [each, List.find?_map, Option.map_map]
    simp only [complaint, operation]
    exact congrArg (Option.map _) (List.find?_congr answer)

end ValidationLemmas

/-- The validation of a query is read as the statements of its rejections. -/
theorem readBlock_validationText {query : Query}
    (named : ∀ selection ∈ query.selections, isIdentifier selection.name = true) :
    readBlock (validationText query)
      = some ((Rejection.ofQuery query).map Rejection.statement) := by
  have closed : ∀ statement ∈ (Rejection.ofQuery query).map Rejection.statement,
      statement.IsClosed := by
    intro statement mem
    obtain ⟨rejection, among, rfl⟩ := List.mem_map.mp mem
    exact isClosed_statement (readable_ofQuery named rejection among)
  have whole : validationText query = String.join
      (((Rejection.ofQuery query).map Rejection.statement).map (Guarded.text "    ")) := by
    rw [validationText, List.map_map]
    exact congrArg String.join (List.map_congr_left fun rejection _ => text_rejection rejection)
  rw [whole, readBlock_join (by decide) closed]

/-- What the validation of a query throws for a bean says what is wrong with the bean's values. -/
theorem validate_ofQuery {query : Query}
    (named : ∀ selection ∈ query.selections, isIdentifier selection.name = true)
    {contents : String → Content} {bean : Bean} (holds : bean.Holds contents query) :
    validate bean (validationText query) = some (complaint contents query) := by
  rw [validate, readBlock_validationText named, Option.bind_eq_bind, Option.bind_some,
    runAll_statements bean (readable_ofQuery named), Rejection.ofQuery,
    List.find?_cons_of_neg (by simp [applies_nullEntity holds.entity]),
    find_ofCriteria holds.fields]

end QueryScribe.Java
