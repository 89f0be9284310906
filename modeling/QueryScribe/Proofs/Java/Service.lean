import QueryScribe.Proofs.Java.Telling

/-!
# What service methods tell

The text of a service method is its header, its validation and its chain. None of them can be
mistaken for another one, and neither can the calls of the chain, so that the text tells what went
into it: names as they are written in accessors, categories, operators, and connectors from the
second selected field on. Everything else about a query leaves no trace.

Results:
1. `tells_header`: what the header tells.
2. `tells_conditions`, `tells_assignments`: what the calls of a chain tell.
3. `tells_chain`: what the chain of a query tells.
4. `fluent_text_eq_iff`: when two queries have the same service method.
-/

namespace QueryScribe

open Java Text

/-- Whether two queries agree in everything that a service method shows. -/
structure Query.SameMethod (first second : Query) : Prop where
  operation : first.operation = second.operation
  source : first.source.name = second.source.name
  target : first.target.name = second.target.name
  checks : first.selections.map (fun selection => (selection.category, capitalize selection.name))
    = second.selections.map (fun selection => (selection.category, capitalize selection.name))
  names : first.operation ∈ [.update, .delete, .insert] →
    first.selections.map (·.name) = second.selections.map (·.name)
  comparisons : first.operation ≠ .insert →
    first.selections.map (fun selection => (selection.operator, capitalize selection.column))
      = second.selections.map fun selection => (selection.operator, capitalize selection.column)
  connectors : first.operation ≠ .insert →
    first.selections.tail.map (·.connector) = second.selections.tail.map (·.connector)
  shared : first.operation = .update →
    first.sharedFields.map (fun field => (capitalize field.name, field.category))
      = second.sharedFields.map fun field => (capitalize field.name, field.category)

namespace Java

/-! ## 1. Headers -/

/-- The first line of a service method. -/
def header (query : Query) : String :=
  "public " ++ ((ServiceMethod.ofQuery query).returnType ++ " "
    ++ (query.operation.name ++ query.target.name ++ "("
      ++ (query.source.name ++ " entity) \x7b\n")))

namespace ServiceLemmas

theorem returnType_eq (query : Query) :
    (ServiceMethod.ofQuery query).returnType
      = if query.operation.isSelect then "List<" ++ query.target.name ++ ">" else "boolean" := rfl

theorem name_injective {x y : Operation} (same : x.name = y.name) : x = y := by
  cases x <;> cases y <;> first | rfl | exact absurd same (by decide)

/-- Operations that read show the target as the type of their rows; the names of those that write
are of one length. -/
theorem operation_of_header {x y : Query}
    (types : (ServiceMethod.ofQuery x).returnType = (ServiceMethod.ofQuery y).returnType)
    (names : x.operation.name ++ x.target.name = y.operation.name ++ y.target.name) :
    x.operation = y.operation ∧ x.target.name = y.target.name := by
  have differ (name : String) : "List<" ++ name ++ ">" ≠ "boolean" := by
    intro same
    have starts := congrArg (·.toList.head?) same
    simp at starts
  rw [returnType_eq, returnType_eq] at types
  cases readsX : x.operation.isSelect <;> cases readsY : y.operation.isSelect <;>
    rw [readsX, readsY] at types
  case true.true =>
    have target : x.target.name = y.target.name := by
      have types := (String.append_left_inj _).mp types
      exact (String.append_right_inj _).mp types
    rw [target] at names
    exact ⟨name_injective ((String.append_left_inj _).mp names), target⟩
  case true.false => exact absurd types (differ _)
  case false.true => exact absurd types.symm (differ _)
  case false.false =>
    have six {operation : Operation} (writes : operation.isSelect = false) :
        operation.name.toList.length = 6 := by
      cases operation <;> first | rfl | exact absurd writes (by decide)
    have chars := congrArg String.toList names
    rw [String.toList_append, String.toList_append] at chars
    obtain ⟨operations, targets⟩ :=
      List.append_inj chars ((six readsX).trans (six readsY).symm)
    exact ⟨name_injective (String.toList_injective operations), String.toList_injective targets⟩

end ServiceLemmas

open ServiceLemmas TellingLemmas

/-- The header of a method tells its operation, its target and its source. -/
theorem tells_header :
    Tells Query.HasWords header
      (fun query => (query.operation, query.target.name, query.source.name)) := by
  have absent {c : Char} (other : isWordChar c = false) {s : String} (word : HasWordChars s) :=
    not_mem_of_hasWordChars other word
  have types : Tells Query.HasWords (fun query => (ServiceMethod.ofQuery query).returnType ++ " ")
      (fun query => (ServiceMethod.ofQuery query).returnType) := by
    refine Tells.word (c := ' ') rfl fun query words => ?_
    rw [returnType_eq]
    have target := absent (c := ' ') (by decide) words.target
    split <;> simp [target]
  have names : Tells Query.HasWords (fun query => query.operation.name ++ query.target.name ++ "(")
      (fun query => query.operation.name ++ query.target.name) := by
    refine Tells.word (c := '(') rfl fun query words => ?_
    have operation : '(' ∉ query.operation.name.toList := by cases query.operation <;> decide
    simp [operation, absent (c := '(') (by decide) words.target]
  have sources : Tells Query.HasWords (fun query => query.source.name ++ " entity) \x7b\n")
      (fun query => query.source.name) :=
    Tells.word (c := ' ') rfl fun query words => absent (by decide) words.source
  refine ((types.append (names.append sources)).after "public ").tell fun x y => ?_
  simp only [Prod.mk.injEq]
  constructor
  · rintro ⟨types, names, source⟩
    obtain ⟨operation, target⟩ := operation_of_header types names
    exact ⟨operation, target, source⟩
  · rintro ⟨operation, target, source⟩
    rw [returnType_eq, returnType_eq, operation, target, source]
    exact ⟨rfl, rfl, rfl⟩

/-! ## 2. Calls -/

/-- What a chain shows of a comparison: the operator, the field and the column. -/
def shownComparison (selection : Selection) : Operator × (Category × String) × String :=
  (selection.operator, shownField selection.field, capitalize selection.column)

namespace ServiceLemmas

/-- What stands in front of the arguments of a comparison. -/
def comparing (operator : Operator) : String :=
  "        ." ++ Call.comparisonMethod operator ++ "("

/-- What stands in front of the arguments of a comparison and its connector. -/
def joining : Connector × Operator → String
  | (.and, operator) => comparing operator
  | (.or, operator) => "        .or()\n" ++ comparing operator

/-- The arguments of a comparison, to the end of the line. -/
def arguments (target : String) (selection : Selection) : String :=
  condition (fieldCheck .present selection.field)
    ++ (", " ++ target ++ "::get" ++ (capitalize selection.column ++ (", " ++ "entity.get")))
    ++ (capitalize selection.name ++ ("()" ++ ")\n"))

/-- The arguments of an assignment, to the end of the line. -/
def settings (target : String) (field : Field) : String :=
  condition (fieldCheck .present field)
    ++ (", " ++ target ++ "::get" ++ capitalize field.name ++ ", " ++ "entity.get"
      ++ capitalize field.name ++ "()" ++ ")\n")

theorem text_ofSelection (target : String) (selection : Selection) :
    (Call.ofSelection target selection).text
      = comparing selection.operator ++ arguments target selection := by
  unfold Call.ofSelection Call.text methodReference accessor comparing arguments
  simp only [String.append_assoc, -String.reduceAppend]

theorem text_joined (target : String) (selection : Selection) :
    String.join ((Call.joined target selection).map Call.text)
      = joining (selection.connector, selection.operator) ++ arguments target selection := by
  unfold Call.joined joining
  cases selection.connector with
  | and => simp [text_ofSelection]
  | or =>
    simp only [List.map_cons, List.map_nil, String.join_cons, String.join_nil, String.append_empty,
      text_ofSelection, String.append_assoc, -String.reduceAppend]
    rfl

theorem text_ofSelections (target : String) (query : Query) :
    String.join ((Call.ofSelections target query.selections).map Call.text)
      = comparing (Mapper.firstSelection query).operator
        ++ arguments target (Mapper.firstSelection query)
        ++ String.join (query.selections.tail.map fun selection =>
          String.join ((Call.joined target selection).map Call.text)) := by
  conv => lhs; rw [← Mapper.firstSelection_cons_tail query]
  rw [Call.ofSelections, List.map_cons, String.join_cons, List.map_flatMap, join_flatMap,
    text_ofSelection]

theorem text_ofField (target : String) (field : Field) :
    (Call.ofField target field).text = "        .set(" ++ settings target field := by
  unfold Call.ofField Call.text methodReference accessor settings
  simp only [String.append_assoc, -String.reduceAppend]

/-- Every beginning of a comparison. -/
def joinings : List (Connector × Operator) :=
  Operator.all.flatMap fun operator => [(.and, operator), (.or, operator)]

theorem mem_joinings (pair : Connector × Operator) : pair ∈ joinings := by
  obtain ⟨connector, operator⟩ := pair
  cases connector <;> cases operator <;> decide

theorem free_joining (a b : Connector × Operator)
    (starts : (joining a).toList <+: (joining b).toList) : a = b := by
  have free : ∀ a ∈ joinings, ∀ b ∈ joinings,
      (joining a).toList <+: (joining b).toList → a = b := by decide +kernel
  exact free a (mem_joinings a) b (mem_joinings b) starts

/-- No beginning of a comparison can be mistaken for the end of a chain. -/
theorem apart_joining (ending : String)
    (differ : ∀ a ∈ joinings, ¬ (joining a).toList <+: ending.toList
      ∧ ¬ ending.toList <+: (joining a).toList) (pair : Connector × Operator) :
    Apart (joining pair) ending :=
  .of_neither (differ pair (mem_joinings pair)).1 (differ pair (mem_joinings pair)).2

/-- The arguments of a comparison tell the field and the column. -/
theorem tells_arguments (target : String) :
    Tells IsWritten (arguments target)
      (fun selection => (shownField selection.field, capitalize selection.column)) := by
  have check : Tells IsWritten
      (fun selection => condition (fieldCheck .present selection.field))
      (fun selection => shownField selection.field) :=
    (tells_check .present).comap id fun _ written => written.1
  have column : Tells IsWritten
      (fun selection => capitalize selection.column ++ (", " ++ "entity.get"))
      (fun selection => capitalize selection.column) :=
    tells_capitalized (fun _ written => written.2) (c := ',') rfl (by decide)
  -- The name of the value is that of the condition.
  exact (check.append (column.after (", " ++ target ++ "::get"))).before _ fun x y same =>
    congrArg (· ++ ("()" ++ ")\n")) (Prod.mk.inj (Prod.mk.inj same).1).2

/-- The arguments of an assignment tell the field. -/
theorem tells_settings (target : String) :
    Tells (fun field : Field => HasWordChars field.name) (settings target) shownField :=
  (tells_condition .present).before _ fun x y same => by
    rw [show capitalize x.name = capitalize y.name from congrArg Prod.snd same]

end ServiceLemmas

/-- The calls that compare tell the comparisons, and the connectors from the second one on. They
are told from the end of the chain. -/
theorem tells_conditions (target : String) {ending : String}
    (apart : ∀ pair, Apart (joining pair) ending) :
    Tells Query.HasWords
      (fun query => String.join ((Call.ofSelections target query.selections).map Call.text)
        ++ ending)
      (fun query => (query.selections.map shownComparison,
        query.selections.tail.map (·.connector))) := by
  have free (a b : Operator) (starts : (comparing a).toList <+: (comparing b).toList) : a = b :=
    congrArg Prod.snd (free_joining (.and, a) (.and, b) starts)
  have first := ((Tells.ofTable free Selection.operator).append (tells_arguments target)).comap
    Mapper.firstSelection fun query words =>
      isWritten_of_hasWords words _ (List.head_mem query.selections_ne_nil)
  have joined : Tells IsWritten
      (fun selection => String.join ((Call.joined target selection).map Call.text))
      (fun selection => (shownComparison selection, selection.connector)) := by
    refine (((Tells.ofTable free_joining fun selection : Selection =>
      (selection.connector, selection.operator)).append (tells_arguments target)).congr
        fun selection _ => text_joined target selection).tell fun x y => ?_
    simp only [shownComparison, Prod.mk.injEq, and_comm, and_assoc]
  have others := joined.list (fun query : Query => query.selections.tail)
    (fun query words selection mem =>
      isWritten_of_hasWords words selection (List.mem_of_mem_tail mem))
    (Tells.constant ending) fun selection query _ _ => by
      rw [text_joined]
      exact (apart _).append_left _
  refine ((first.append others).congr fun query _ => ?_).tell fun x y => ?_
  · rw [text_ofSelections]
    simp only [String.append_assoc]
  · have all := map_selections_eq_iff shownComparison x y
    have pairs := map_pair_eq_iff shownComparison (·.connector) x.selections.tail
      y.selections.tail
    constructor
    · intro same
      obtain ⟨here, rest⟩ := Prod.mk.inj same
      obtain ⟨comparisons, connectors⟩ := pairs.mp (Prod.mk.inj rest).1
      exact Prod.ext (all.mpr ⟨here, comparisons⟩) connectors
    · intro same
      obtain ⟨comparisons, connectors⟩ := Prod.mk.inj same
      obtain ⟨here, later⟩ := all.mp comparisons
      exact Prod.ext here (Prod.ext (pairs.mpr ⟨later, connectors⟩) rfl)

/-- The calls that set columns tell the fields, and are told from the calls that compare. -/
theorem tells_assignments {κ : Type} (target : String) {rest : Query → String} {key : Query → κ}
    (last : Tells Query.HasWords rest key)
    (compares : ∀ query : Query, ∃ operator more, rest query = comparing operator ++ more) :
    Tells Query.HasWords
      (fun query => String.join ((query.sharedFields.map (Call.ofField target)).map Call.text)
        ++ rest query)
      (fun query => (query.sharedFields.map shownField, key query)) := by
  have apart (operator : Operator) : Apart "        .set(" (comparing operator) :=
    (apart_joining "        .set(" (by decide +kernel) (.and, operator)).symm
  refine (((tells_settings target).after "        .set(").list Query.sharedFields
    (fun query words field shared => words.declared field (List.mem_filter.mp shared).1) last
    fun field query _ _ => ?_).congr fun query _ => ?_
  · obtain ⟨operator, more, text⟩ := compares query
    rw [text]
    exact ((apart operator).append_left _).append_right _
  · rw [List.map_map]
    simp only [Function.comp_def, text_ofField]

/-! ## 3. Chains -/

/-- What the chain of a query shows: the fields it sets if it updates, and unless it inserts the
comparisons and the connectors from the second one on. -/
def shownChain (operation : Operation) (query : Query) :
    List (Category × String) × List (Operator × (Category × String) × String)
      × List Connector :=
  match operation with
  | .select | .selectPage | .delete =>
    ([], query.selections.map shownComparison, query.selections.tail.map (·.connector))
  | .update =>
    (query.sharedFields.map shownField, query.selections.map shownComparison,
      query.selections.tail.map (·.connector))
  | .insert => ([], [], [])

namespace ServiceLemmas

/-- Whether a query has an operation and a target, and names of word characters. -/
structure Does (operation : Operation) (target : String) (query : Query) : Prop where
  words : query.HasWords
  operation : query.operation = operation
  target : query.target.name = target

/-- A chain that sets nothing tells its comparisons. -/
theorem tells_comparisons {operation : Operation} {target : String} (opening : String)
    {ending : String} (apart : ∀ pair, Apart (joining pair) ending)
    (written : ∀ query, Does operation target query →
      (Chain.ofQuery query).text query.target.name ++ "\x7d"
        = opening ++ (String.join ((Call.ofSelections target query.selections).map Call.text)
          ++ ending)) :
    Tells (Does operation target)
      (fun query => (Chain.ofQuery query).text query.target.name ++ "\x7d")
      (fun query => (query.selections.map shownComparison,
        query.selections.tail.map (·.connector))) :=
  (((tells_conditions target apart).after opening).comap id fun _ does => does.words).congr written

end ServiceLemmas

/-- The chain of a query, with the end of the method, tells what it shows. -/
theorem tells_chain (operation : Operation) (target : String) :
    Tells (Does operation target)
      (fun query => (Chain.ofQuery query).text query.target.name ++ "\x7d")
      (shownChain operation) := by
  cases operation with
  | select | selectPage =>
    refine (tells_comparisons "    return this.lambdaQuery()\n"
      (apart_joining ("        .list();\n" ++ "\x7d") (by decide +kernel))
      fun query does => ?_).tell fun x y => by simp [shownChain]
    simp only [Chain.ofQuery, does.operation, does.target]
    unfold Chain.text
    simp only [String.append_assoc, -String.reduceAppend]
  | update =>
    have conditions := tells_conditions target fun pair =>
      (apart_joining "        .update(new " (by decide +kernel) pair).append_right
        (target ++ ("());\n" ++ "\x7d"))
    have calls := tells_assignments target conditions fun query => by
      rw [text_ofSelections, String.append_assoc, String.append_assoc]
      exact ⟨_, _, rfl⟩
    refine ((calls.after "    return this.lambdaUpdate()\n").comap id
      fun query does => does.words).congr fun query does => ?_
    simp only [Chain.ofQuery, does.operation, does.target]
    unfold Chain.text
    simp only [String.append_assoc, -String.reduceAppend]
    rfl
  | delete =>
    refine (tells_comparisons "    return this.lambdaUpdate()\n"
      (apart_joining ("        .remove();\n" ++ "\x7d") (by decide +kernel))
      fun query does => ?_).tell fun x y => by simp [shownChain]
    simp only [Chain.ofQuery, does.operation, does.target]
    unfold Chain.text
    simp only [String.append_assoc, -String.reduceAppend]
  | insert =>
    refine ((Tells.constant ("    return this.save(entity);\n" ++ "\x7d")).congr
      fun query does => ?_).tell fun x y => by simp [shownChain]
    simp only [Chain.ofQuery, does.operation]
    rfl

/-! ## 4. Methods -/

namespace ServiceLemmas

theorem text_method (query : Query) :
    query.text .fluent = header query ++ (validationText query
      ++ ((Chain.ofQuery query).text query.target.name ++ "\x7d")) := by
  rw [text_fluent]
  unfold serviceText header
  simp only [String.append_assoc, -String.reduceAppend]

theorem apart_chain (chain : Chain) (target : String) :
    Apart "    if (" (chain.text target ++ "\x7d") := by
  unfold Chain.text
  cases chain <;> simp only [String.append_assoc] <;>
    exact (Apart.of_neither (by decide) (by decide)).append_right _

/-- What stands behind the header tells what validation and chain show. -/
theorem tells_body (operation : Operation) (target : String) :
    Tells (Does operation target)
      (fun query => validationText query
        ++ ((Chain.ofQuery query).text query.target.name ++ "\x7d"))
      (fun query => (shownCriteria operation query, shownChain operation query)) :=
  tells_validation (fun _ does => does.words) (fun _ does => does.operation)
    (tells_chain operation target) fun query _ => apart_chain (Chain.ofQuery query) _

section Agreement

variable {first second : Query}

theorem shownChain_eq_iff (operation : Operation) :
    shownChain operation first = shownChain operation second
      ↔ (operation = .update →
          first.sharedFields.map shownField = second.sharedFields.map shownField)
        ∧ (operation ≠ .insert →
          first.selections.map shownComparison = second.selections.map shownComparison
          ∧ first.selections.tail.map (·.connector)
            = second.selections.tail.map (·.connector)) := by
  cases operation <;> simp [shownChain]

theorem map_shownComparison_eq_iff :
    first.selections.map shownComparison = second.selections.map shownComparison
      ↔ first.selections.map (fun selection => (selection.operator, capitalize selection.column))
          = second.selections.map (fun selection =>
            (selection.operator, capitalize selection.column))
        ∧ first.selections.map (fun selection => shownField selection.field)
          = second.selections.map (fun selection => shownField selection.field) := by
  have whole := map_pair_eq_iff Selection.operator
    (fun selection => (shownField selection.field, capitalize selection.column))
    first.selections second.selections
  have arguments := map_pair_eq_iff (fun selection : Selection => shownField selection.field)
    (fun selection => capitalize selection.column) first.selections second.selections
  rw [map_pair_eq_iff Selection.operator, and_assoc]
  exact whole.trans (and_congr_right fun _ => arguments.trans and_comm)

/-- Agreeing in everything that a method shows is agreeing in the header, the validation and the
chain. -/
theorem sameMethod_iff (same : first.operation = second.operation) :
    first.SameMethod second
      ↔ (first.source.name = second.source.name ∧ first.target.name = second.target.name)
        ∧ shownCriteria first.operation first = shownCriteria first.operation second
        ∧ shownChain first.operation first = shownChain first.operation second := by
  have shared := map_pair_eq_iff Field.category (fun field => capitalize field.name)
    first.sharedFields second.sharedFields
  have shared' := map_pair_eq_iff (fun field => capitalize field.name) Field.category
    first.sharedFields second.sharedFields
  rw [shownCriteria_eq_iff, shownChain_eq_iff]
  constructor
  · intro agree
    exact ⟨⟨agree.source, agree.target⟩,
      ⟨fun _ => agree.checks,
        fun writes => map_named_eq_iff.mpr ⟨agree.checks, agree.names writes⟩⟩,
      ⟨fun updates => shared.mpr (shared'.mp (agree.shared updates)).symm,
        fun compares => ⟨map_shownComparison_eq_iff.mpr ⟨agree.comparisons compares, agree.checks⟩,
          agree.connectors compares⟩⟩⟩
  · rintro ⟨⟨source, target⟩, ⟨_, writing⟩, ⟨updating, comparing⟩⟩
    exact {
      operation := same
      source
      target
      -- The fields show in the conditions of the chain, and of an insertion in its validation.
      checks := by
        by_cases inserts : first.operation = .insert
        · exact (map_named_eq_iff.mp (writing (by simp [inserts]))).1
        · exact (map_shownComparison_eq_iff.mp (comparing inserts).1).2
      names := fun writes => (map_named_eq_iff.mp (writing writes)).2
      comparisons := fun compares => (map_shownComparison_eq_iff.mp (comparing compares).1).1
      connectors := fun compares => (comparing compares).2
      shared := fun updates => shared'.mpr (shared.mp (updating updates)).symm }

end Agreement

end ServiceLemmas

end Java

open ServiceLemmas

/-- Two queries have the same service method exactly if they agree in everything that it shows.
Which connector the first selected field has, where entities are declared and which fields they do
not share makes no difference. -/
theorem fluent_text_eq_iff (first second : Query) (words : first.HasWords)
    (words' : second.HasWords) :
    first.text .fluent = second.text .fluent ↔ first.SameMethod second := by
  rw [text_method, text_method, tells_header words words']
  constructor
  · rintro ⟨shown, bodies⟩
    obtain ⟨operation, rest⟩ := Prod.mk.inj shown
    obtain ⟨target, source⟩ := Prod.mk.inj rest
    have body := (tells_body first.operation first.target.name).eq_iff
      ⟨words, rfl, rfl⟩ ⟨words', operation.symm, target.symm⟩
    obtain ⟨criteria, chain⟩ := Prod.mk.inj (body.mp bodies)
    exact (sameMethod_iff operation).mpr ⟨⟨source, target⟩, criteria, chain⟩
  · intro agree
    obtain ⟨⟨source, target⟩, criteria, chain⟩ := (sameMethod_iff agree.operation).mp agree
    have body := (tells_body first.operation first.target.name).eq_iff
      ⟨words, rfl, rfl⟩ ⟨words', agree.operation.symm, target.symm⟩
    exact ⟨Prod.ext agree.operation (Prod.ext target source),
      body.mpr (Prod.ext criteria chain)⟩

/-- An update of shelves from stock, by amount or by code. -/
def shelfUpdate (connector : Connector) : Query where
  source := ⟨"Stock", "app.Stock", [⟨"code", "String"⟩, ⟨"amount", "Integer"⟩]⟩
  target := ⟨"Shelf", "app.Shelf", [⟨"code", "String"⟩]⟩
  selections :=
    [⟨⟨"amount", "Integer"⟩, .ge, .and, ""⟩, ⟨⟨"code", "String"⟩, .eq, connector, "shelfCode"⟩]
  operation := .update
  selections_ne_nil := List.cons_ne_nil _ _
  fits := by cases connector <;> decide

/-- The same update for entities that are declared elsewhere, with other fields of their own. -/
def movedUpdate : Query where
  source := ⟨"Stock", "store.Stock", [⟨"amount", "Long"⟩, ⟨"code", "String"⟩]⟩
  target := ⟨"Shelf", "store.Shelf", [⟨"id", "Long"⟩, ⟨"code", "Long"⟩]⟩
  selections :=
    [⟨⟨"amount", "Long"⟩, .ge, .or, "Amount"⟩, ⟨⟨"code", "String"⟩, .eq, .or, "ShelfCode"⟩]
  operation := .update
  selections_ne_nil := by decide
  fits := by decide

theorem shelfUpdate_moved :
    (∀ connector, (shelfUpdate connector).HasWords) ∧ movedUpdate.HasWords
      ∧ (shelfUpdate .or).text .fluent = movedUpdate.text .fluent
      ∧ (shelfUpdate .and).text .fluent ≠ movedUpdate.text .fluent := by
  have words (connector : Connector) : (shelfUpdate connector).HasWords := by
    cases connector <;> constructor <;> decide
  have moved : movedUpdate.HasWords := by constructor <;> decide
  have agree : (shelfUpdate .or).SameMethod movedUpdate := by constructor <;> decide
  refine ⟨words, moved, (fluent_text_eq_iff _ _ (words .or) moved).mpr agree, fun same => ?_⟩
  have connectors := ((fluent_text_eq_iff _ _ (words .and) moved).mp same).connectors (by decide)
  exact absurd connectors (by decide)

end QueryScribe
