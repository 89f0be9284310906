import QueryScribe.Proofs.Java.Telling

/-!
# What factory methods tell

The text of a specification's factory method is its header, its validation and its predicates. A
predicate writes its column as it is, between quotes, and no expression of one operator begins like
that of another: membership is the one comparison that begins with the path itself. So the text
tells categories, operators, columns, and names as they are written in accessors. Connectors, fields
that are only declared and the places of declarations leave no trace.

Results:
1. `tells_factoryHeader`: what the header tells.
2. `tells_predicate`, `tells_predicates`: what the predicates tell.
3. `specification_text_eq_iff`: when two queries have the same factory method.
-/

namespace QueryScribe

open Java Text

/-- Whether two queries agree in everything that a factory method shows. -/
structure Query.SameFactory (first second : Query) : Prop where
  operation : first.operation = second.operation
  source : first.source.name = second.source.name
  target : first.target.name = second.target.name
  checks : first.selections.map (fun selection => (selection.category, capitalize selection.name))
    = second.selections.map (fun selection => (selection.category, capitalize selection.name))
  comparisons : first.selections.map (fun selection => (selection.operator, selection.column))
    = second.selections.map (fun selection => (selection.operator, selection.column))
  names : first.operation ∈ [.update, .delete, .insert] →
    first.selections.map (·.name) = second.selections.map (·.name)

namespace Java

open TellingLemmas

/-! ## 1. Headers -/

/-- The first line of a factory method. -/
def factoryHeader (query : Query) : String :=
  "public static Specification<" ++ (query.target.name ++ "> get"
    ++ (query.operation.pascalName ++ "Specification("
      ++ (query.source.name ++ " entity) \x7b\n")))

/-- The header of a factory method tells its target, its operation and its source. -/
theorem tells_factoryHeader :
    Tells Query.HasWords factoryHeader
      (fun query => (query.target.name, query.operation, query.source.name)) := by
  have target : Tells Query.HasWords (fun query => query.target.name ++ "> get")
      (fun query => query.target.name) :=
    Tells.word (c := '>') rfl fun _ words => not_mem_of_hasWordChars (by decide) words.target
  have free (a b : Operation) : (a.pascalName ++ "Specification(").toList
      <+: (b.pascalName ++ "Specification(").toList → a = b := by
    cases a <;> cases b <;> decide
  have source : Tells Query.HasWords (fun query => query.source.name ++ " entity) \x7b\n")
      (fun query => query.source.name) :=
    Tells.word (c := ' ') rfl fun _ words => not_mem_of_hasWordChars (by decide) words.source
  exact (target.append ((Tells.ofTable free Query.operation).append source)).after _

/-! ## 2. Predicates -/

/-- What a predicate shows of a selected field: its category and its name as it is in accessors, the
operator and the column. -/
def shownPredicate (selection : Selection) : (Category × String) × Operator × String :=
  (shownField selection.field, selection.operator, selection.column)

namespace FactoryLemmas

/-- What stands in front of the path in an expression. -/
def builder : Operator → String
  | .eq => "cb.equal("
  | .ne => "cb.notEqual("
  | .lt => "cb.lessThan("
  | .le => "cb.lessThanOrEqualTo("
  | .gt => "cb.greaterThan("
  | .ge => "cb.greaterThanOrEqualTo("
  | .like => "cb.like("
  | .isIn => ""

/-- What stands behind the path in an expression. -/
def compared (operator : Operator) (value : String) : String :=
  match operator with
  | .like => ", \"%\" + " ++ value ++ " + \"%\")"
  | .isIn => ".in(" ++ value ++ ")"
  | _ => ", " ++ value ++ ")"

theorem expression_eq (predicate : Predicate) :
    predicate.expression
      = builder predicate.operator ++ "root.get(\"" ++ (predicate.column ++ "\")")
        ++ compared predicate.operator predicate.value := by
  unfold Predicate.expression Predicate.builderCall Predicate.path
  apply String.toList_injective
  cases predicate.operator <;> simp [builder, compared]

theorem text_ofSelection (selection : Selection) :
    (Predicate.ofSelection selection).text
      = "        if (" ++ (condition (fieldCheck .present selection.field)
        ++ (") \x7b\n            predicates.add("
          ++ (builder selection.operator ++ "root.get(\"" ++ (selection.column ++ "\")")))
        ++ (compared selection.operator (accessor selection.name)
          ++ ");\n        \x7d\n")) := by
  unfold Predicate.text
  rw [expression_eq]
  apply String.toList_injective
  simp [Predicate.ofSelection]

/-- What stands behind the validation, to the first predicate. -/
def collecting : String :=
  "    return (root, query, cb) -> \x7b\n"
    ++ "        List<Predicate> predicates = new ArrayList<>();\n\n"

/-- What stands behind the last predicate. -/
def collected : String :=
  "        return cb.and(predicates.toArray(new Predicate[0]));\n" ++ "    \x7d;\n" ++ "\x7d"

/-- What stands behind the header. -/
def factoryBody (query : Query) : String :=
  validationText query ++ (collecting ++ (predicatesText query ++ collected))

theorem text_factory (query : Query) :
    query.text .specification = factoryHeader query ++ factoryBody query := by
  rw [text_specification]
  unfold specificationText factoryHeader factoryBody collecting collected
  simp only [String.append_assoc, -String.reduceAppend]

end FactoryLemmas

open FactoryLemmas

/-- The statement of a predicate tells what it shows of its field. -/
theorem tells_predicate :
    Tells IsWritten (fun selection => (Predicate.ofSelection selection).text) shownPredicate := by
  have check : Tells IsWritten
      (fun selection => condition (fieldCheck .present selection.field))
      (fun selection => shownField selection.field) :=
    (tells_check .present).comap id fun _ written => written.1
  have free (a b : Operator) :
      (builder a ++ "root.get(\"").toList <+: (builder b ++ "root.get(\"").toList → a = b := by
    cases a <;> cases b <;> decide
  have column : Tells IsWritten (fun selection => selection.column ++ "\")") (·.column) :=
    Tells.word (c := '"') rfl fun _ written => not_mem_of_hasWordChars (by decide) written.2
  have path := (Tells.ofTable free Selection.operator).append column
  -- The value is read by the accessor that stands in the condition.
  refine ((((check.append (path.after _)).before (fun selection =>
    compared selection.operator (accessor selection.name) ++ ");\n        \x7d\n")
      fun x y same => ?_).after "        if (").congr fun selection _ => text_ofSelection selection)
  obtain ⟨shown, rest⟩ := Prod.mk.inj same
  have name : capitalize x.name = capitalize y.name := (Prod.mk.inj shown).2
  rw [accessor, accessor, name, (Prod.mk.inj rest).1]

/-- The predicates of a query are told from each other and from the statement behind them. -/
theorem tells_predicates (ending : String) (apart : Apart "        if (" ending) :
    Tells Query.HasWords (fun query => predicatesText query ++ ending)
      (fun query => query.selections.map shownPredicate) := by
  refine ((tells_predicate.list Query.selections
    (fun query words => isWritten_of_hasWords words) (Tells.constant ending)
    fun selection _ _ _ => ?_).congr fun query _ => ?_).tell fun x y => ?_
  · rw [text_ofSelection]
    exact apart.append_left _
  · rw [predicatesText, List.map_map]
    rfl
  · rw [Prod.mk.injEq]
    exact and_iff_left rfl

/-! ## 3. Methods -/

namespace FactoryLemmas

/-- What stands behind the header tells what validation and predicates show. -/
theorem tells_factoryBody (operation : Operation) :
    Tells (fun query : Query => query.HasWords ∧ query.operation = operation) factoryBody
      (fun query => (shownCriteria operation query, query.selections.map shownPredicate)) := by
  have predicates := tells_predicates collected (Apart.of_neither (by decide) (by decide))
  exact tells_validation (fun _ does => does.1) (fun _ does => does.2)
    ((predicates.after collecting).comap id fun _ does => does.1)
    fun _ _ => (Apart.of_neither (by decide) (by decide)).append_right _

section Agreement

variable {first second : Query}

theorem map_shownPredicate_eq_iff :
    first.selections.map shownPredicate = second.selections.map shownPredicate
      ↔ first.selections.map (fun selection => shownField selection.field)
          = second.selections.map (fun selection => shownField selection.field)
        ∧ first.selections.map (fun selection => (selection.operator, selection.column))
          = second.selections.map fun selection => (selection.operator, selection.column) :=
  map_pair_eq_iff _ _ _ _

/-- Agreeing in everything that a factory method shows is agreeing in the header, the validation and
the predicates. -/
theorem sameFactory_iff (same : first.operation = second.operation) :
    first.SameFactory second
      ↔ (first.source.name = second.source.name ∧ first.target.name = second.target.name)
        ∧ shownCriteria first.operation first = shownCriteria first.operation second
        ∧ first.selections.map shownPredicate = second.selections.map shownPredicate := by
  rw [shownCriteria_eq_iff, map_shownPredicate_eq_iff]
  constructor
  · intro agree
    exact ⟨⟨agree.source, agree.target⟩,
      ⟨fun _ => agree.checks,
        fun writes => map_named_eq_iff.mpr ⟨agree.checks, agree.names writes⟩⟩,
      agree.checks, agree.comparisons⟩
  · rintro ⟨⟨source, target⟩, ⟨_, writing⟩, checks, comparisons⟩
    exact {
      operation := same
      source, target, checks, comparisons
      names := fun writes => (map_named_eq_iff.mp (writing writes)).2 }

end Agreement

end FactoryLemmas

end Java

open FactoryLemmas

/-- Two queries have the same factory method exactly if they agree in everything that it shows. How
criteria are connected, where entities are declared and which fields they declare makes no
difference. -/
theorem specification_text_eq_iff (first second : Query) (words : first.HasWords)
    (words' : second.HasWords) :
    first.text .specification = second.text .specification ↔ first.SameFactory second := by
  rw [text_factory, text_factory, tells_factoryHeader words words']
  constructor
  · rintro ⟨shown, bodies⟩
    obtain ⟨target, rest⟩ := Prod.mk.inj shown
    obtain ⟨operation, source⟩ := Prod.mk.inj rest
    have body := (tells_factoryBody first.operation).eq_iff ⟨words, rfl⟩ ⟨words', operation.symm⟩
    obtain ⟨criteria, predicates⟩ := Prod.mk.inj (body.mp bodies)
    exact (sameFactory_iff operation).mpr ⟨⟨source, target⟩, criteria, predicates⟩
  · intro agree
    obtain ⟨⟨source, target⟩, criteria, predicates⟩ := (sameFactory_iff agree.operation).mp agree
    have body := (tells_factoryBody first.operation).eq_iff ⟨words, rfl⟩
      ⟨words', agree.operation.symm⟩
    exact ⟨Prod.ext target (Prod.ext agree.operation source),
      body.mpr (Prod.ext criteria predicates)⟩

/-- A search for books by price, or by title in a column. -/
def bookSearch (column : String) : Query where
  source := ⟨"BookFilter", "app.BookFilter", [⟨"price", "Long"⟩, ⟨"title", "String"⟩]⟩
  target := ⟨"Book", "app.Book", [⟨"price", "Long"⟩]⟩
  selections := [⟨⟨"price", "Long"⟩, .le, .and, ""⟩, ⟨⟨"title", "String"⟩, .like, .or, column⟩]
  operation := .select
  selections_ne_nil := List.cons_ne_nil _ _
  fits := List.forall_mem_cons.mpr ⟨rfl, List.forall_mem_singleton.mpr rfl⟩

/-- The same search in entities that are declared elsewhere, by price and title. -/
def movedSearch : Query where
  source := ⟨"BookFilter", "store.BookFilter", []⟩
  target := ⟨"Book", "store.Book", [⟨"id", "Long"⟩, ⟨"Title", "String"⟩]⟩
  selections :=
    [⟨⟨"Price", "Integer"⟩, .le, .or, "price"⟩, ⟨⟨"title", "String"⟩, .like, .and, "title"⟩]
  operation := .select
  selections_ne_nil := by decide
  fits := by decide

theorem bookSearch_moved :
    (∀ column ∈ ["", "Title"], (bookSearch column).HasWords) ∧ movedSearch.HasWords
      ∧ (bookSearch "").text .specification = movedSearch.text .specification
      ∧ (bookSearch "Title").text .specification ≠ movedSearch.text .specification := by
  have words : ∀ column ∈ ["", "Title"], (bookSearch column).HasWords := by
    intro column mem
    simp only [List.mem_cons, List.not_mem_nil, or_false] at mem
    rcases mem with rfl | rfl <;> constructor <;> decide
  have moved : movedSearch.HasWords := by constructor <;> decide
  have agree : (bookSearch "").SameFactory movedSearch := by constructor <;> decide
  refine ⟨words, moved, ?_, fun same => ?_⟩
  · exact (specification_text_eq_iff _ _ (words "" (by decide)) moved).mpr agree
  · have comparisons :=
      ((specification_text_eq_iff _ _ (words "Title" (by decide)) moved).mp same).comparisons
    exact absurd comparisons (by decide)

end QueryScribe
