import QueryScribe.Proofs.Java.Validation
import QueryScribe.Proofs.Mapper.Guard

/-!
# Refusals across dialects

Code refuses values by an exception, markup by a condition that is never true at the top of its
criteria. For one query and one set of values, both refuse the same: the exception is thrown exactly
when the test of the guard holds. Both the exception and the guard are read from the texts of the
query. In markup that takes plain names, as a name with markup of its own brings in guards of its
own.

Results:
1. `text_validation`: where the validation stands in the code of a query.
2. `guards_markup`: the tests of the guards in the markup of a query.
3. `refusals_agree`: code and markup refuse the same values.
-/

namespace QueryScribe

open Markup Mapper Java OutlineLemmas

/-! ## 1. The place of the validation -/

namespace RefusalLemmas

/-- Every chain is a statement that returns something. -/
theorem text_chain (target : String) (chain : Chain) :
    ∃ rest, chain.text target = "    return " ++ rest := by
  have query : "    return this.lambdaQuery()\n" = "    return " ++ "this.lambdaQuery()\n" := by
    decide
  have update : "    return this.lambdaUpdate()\n" = "    return " ++ "this.lambdaUpdate()\n" := by
    decide
  have save : "    return this.save(entity);\n" = "    return " ++ "this.save(entity);\n" := by
    decide
  unfold Chain.text
  cases chain with
  | list conditions =>
    simp only [query, String.append_assoc, -String.reduceAppend]
    exact ⟨_, rfl⟩
  | update assignments conditions | remove conditions =>
    simp only [update, String.append_assoc, -String.reduceAppend]
    exact ⟨_, rfl⟩
  | save => exact ⟨_, save⟩

end RefusalLemmas

open RefusalLemmas

/-- In code, the validation stands between the header of the method and what it returns. -/
theorem text_validation (query : Query) {dialect : Dialect} (isCode : dialect.isCode = true) :
    ∃ header rest, query.text dialect
      = header ++ " entity) \x7b\n" ++ validationText query ++ "    return " ++ rest := by
  cases dialect with
  | specification =>
    have returns : "    return (root, query, cb) -> \x7b\n"
        = "    return " ++ "(root, query, cb) -> \x7b\n" := by decide
    rw [text_specification]
    unfold specificationText
    rw [returns]
    refine ⟨"public static Specification<" ++ query.target.name ++ "> get"
        ++ query.operation.pascalName ++ "Specification(" ++ query.source.name,
      "(root, query, cb) -> \x7b\n" ++ "        List<Predicate> predicates = new ArrayList<>();\n\n"
        ++ predicatesText query
        ++ "        return cb.and(predicates.toArray(new Predicate[0]));\n" ++ "    \x7d;\n"
        ++ "\x7d", ?_⟩
    simp only [String.append_assoc, -String.reduceAppend]
  | fluent =>
    obtain ⟨rest, returns⟩ := text_chain query.target.name (Chain.ofQuery query)
    rw [text_fluent, returns]
    unfold serviceText
    refine ⟨"public " ++ (ServiceMethod.ofQuery query).returnType ++ " " ++ query.operation.name
      ++ query.target.name ++ "(" ++ query.source.name, rest ++ "\x7d", ?_⟩
    simp only [String.append_assoc, -String.reduceAppend]
  | markup => exact absurd isCode (by decide)

/-! ## 2. The guards of a query -/

/-- The markup of a query with plain names is read back, and the guards in it are those of its
criteria. -/
theorem guards_markup {query : Query} (plain : query.HasPlainNames)
    (filtered : query.operation ∈ [.select, .selectPage, .update, .delete]) :
    ∃ outline, (readDocument (query.text .markup)).bind Node.outline? = some outline
      ∧ guards outline = (Criteria.ofQuery query).unusable.toList.map Test.text :=
  ⟨statementOutline query, outline_markup query plain, guards_statementOutline filtered⟩

/-! ## 3. The same refusals -/

namespace RefusalLemmas

/-- The guard of a query asks whether there is anything to complain about. -/
theorem lacksCriteria_eq (contents : String → Content) {query : Query}
    (guarded : query.operation ∈ [.select, .update, .delete]) :
    query.lacksCriteria contents = (complaint contents query).isSome := by
  simp only [List.mem_cons, List.not_mem_nil, or_false] at guarded
  rcases guarded with operation | operation | operation
  all_goals
    simp only [Query.lacksCriteria, complaint, operation, Selection.isPresent, Content.isPresent,
      Bool.not_not]
  case inl =>
    cases query.selections.all fun selection =>
      (contents selection.name).isMissing selection.category <;> rfl
  all_goals rw [Option.isSome_map, Bool.eq_iff_iff, List.find?_isSome, List.any_eq_true]

end RefusalLemmas

/-- Code and markup refuse the same values. For a bean with these values, the validation throws what
is wrong with them, and the one guard that is read from the markup holds exactly when something is.
Where rows are read by the page, there is neither a guard nor anything to validate but the bean
itself. -/
theorem refusals_agree (query : Query)
    (named : ∀ selection ∈ query.selections, IsTestName selection.name)
    (filtered : query.operation ∈ [.select, .selectPage, .update, .delete])
    (contents : String → Content)
    (alike : ∀ first ∈ query.selections, ∀ second ∈ query.selections,
      accessor first.name = accessor second.name → contents first.name = contents second.name) :
    (∀ dialect : Dialect, dialect.isCode = true → ∃ header rest, query.text dialect
        = header ++ " entity) \x7b\n" ++ validationText query ++ "    return " ++ rest)
      ∧ (∃ bean : Bean, bean.Holds contents query)
      ∧ (∀ bean : Bean, bean.Holds contents query →
        validate bean (validationText query) = some (complaint contents query))
      ∧ (query.operation = .selectPage →
        readBlock (validationText query) = some [⟨"entity == null",
          "throw new IllegalArgumentException(\"Entity must not be null\");"⟩])
      ∧ (query.HasPlainNames →
        ∃ outline, (readDocument (query.text .markup)).bind Node.outline? = some outline
          ∧ (query.operation ≠ .selectPage → ∃ test, guards outline = [test]
            ∧ Mapper.holds contents test = .ok (complaint contents query).isSome)
          ∧ (query.operation = .selectPage → guards outline = [])) := by
  have identifiers : ∀ selection ∈ query.selections, Text.isIdentifier selection.name = true :=
    fun selection mem => (named selection mem).1
  refine ⟨fun _ isCode => text_validation query isCode, exists_bean alike,
    fun _ holds => validate_ofQuery identifiers holds, fun page => ?_, fun plain => ?_⟩
  · have only : Rejection.ofQuery query = [.nullEntity] := by
      simp [Rejection.ofQuery, Rejection.ofCriteria, page, Operation.isGuarded]
    rw [readBlock_validationText identifiers, only]
    rfl
  · obtain ⟨outline, reads, tests⟩ := guards_markup plain filtered
    refine ⟨outline, reads, fun guarded => ?_, fun page => ?_⟩
    · have isGuarded : query.operation.isGuarded = true := by
        cases operation : query.operation <;> first | rfl | exact absurd operation guarded
      have unusable : (Criteria.ofQuery query).unusable
          = some (unusableTest query.operation (firstSelection query) query.selections.tail) :=
        if_pos isGuarded
      refine ⟨_, by rw [tests, unusable]; rfl, ?_⟩
      rw [holds_unusableTest contents named, lacksCriteria_eq contents]
      simp_all
    · have unusable : (Criteria.ofQuery query).unusable = none := if_neg (by rw [page]; decide)
      rw [tests, unusable]
      rfl

theorem userDeletion_refused :
    ∃ bean : Bean,
      validate bean (validationText userDeletion) = some (some "name must not be null or empty")
      ∧ ∃ outline, (readDocument (userDeletion.text .markup)).bind Node.outline? = some outline
        ∧ ∃ test, guards outline = [test] ∧ Mapper.holds onlyAge test = .ok true := by
  have alike : ∀ first ∈ userDeletion.selections, ∀ second ∈ userDeletion.selections,
      accessor first.name = accessor second.name → onlyAge first.name = onlyAge second.name := by
    decide +kernel
  obtain ⟨-, ⟨bean, holds⟩, refused, -, markup⟩ :=
    refusals_agree userDeletion userDeletion_hasTestNames.selected (by decide) onlyAge alike
  obtain ⟨outline, reads, guarded, -⟩ := markup userDeletion_hasPlainNames
  exact ⟨bean, refused bean holds, outline, reads, guarded (by decide)⟩

/-- A search in a table whose name has criteria of its own. -/
def strayLookup : Query where
  source := ⟨"User", "app.User", [⟨"email", "String"⟩]⟩
  target :=
    ⟨"user <where><if test=\"email != null\">1=0</if></where>", "app.User", [⟨"email", "String"⟩]⟩
  selections := [⟨⟨"email", "String"⟩, .eq, .and, ""⟩]
  operation := .select
  selections_ne_nil := by decide
  fits := by decide

/-- The text of that search, taken apart as a reader does. -/
def strayLookupDocument : Document where
  tag := "select"
  attributes := [⟨"id", "selectUser"⟩, ⟨"resultType", "app.User"⟩]
  children :=
    [textLine ("SELECT " ++ columnList ["email"]),
     .line [.text ("FROM " ++ "user "),
       .element "where" []
         (openingTag "if" [⟨"test", (Test.isNotNull "email").text⟩] ++ "1=0" ++ closingTag "if")],
     (Criteria.ofQuery strayLookup).block]

namespace RefusalLemmas

theorem text_strayLookup : strayLookup.text .markup = strayLookupDocument.render := by
  have table : snakeCase strayLookup.target.name = "user " ++ (openingTag "where" []
      ++ (openingTag "if" [⟨"test", (Test.isNotNull "email").text⟩] ++ "1=0" ++ closingTag "if")
      ++ closingTag "where") := by
    decide +kernel
  have document : (Statement.ofQuery strayLookup).document
      = ⟨"select", [⟨"id", "selectUser"⟩, ⟨"resultType", "app.User"⟩],
        [textLine ("SELECT " ++ columnList [snakeCase "email"]),
          textLine ("FROM " ++ snakeCase strayLookup.target.name),
          (Criteria.ofQuery strayLookup).block]⟩ := rfl
  have column : snakeCase "email" = "email" := by decide +kernel
  have text : strayLookup.text .markup = (Statement.ofQuery strayLookup).document.render := rfl
  rw [text, document, column, table, strayLookupDocument]
  simp only [render_document, Block.render, Block.renderAll, textLine, Inline.render, List.map_cons,
    List.map_nil, String.join_cons, String.join_nil, String.append_assoc, String.append_empty,
    -String.reduceAppend]

end RefusalLemmas

/-- Without plain names, there can be more guards than the query's own. Here the first one holds for
an address that is given, while the validation has nothing to complain about. -/
theorem strayLookup_guards :
    (∀ selection ∈ strayLookup.selections, IsTestName selection.name)
      ∧ (∃ outline, (readDocument (strayLookup.text .markup)).bind Node.outline? = some outline
        ∧ guards outline = ["email != null", "email == null or email == ''"])
      ∧ Mapper.holds (fun _ => .filled) "email != null" = .ok true
      ∧ ∀ bean : Bean, bean.Holds (fun _ => .filled) strayLookup →
        validate bean (validationText strayLookup) = some none := by
  have named : ∀ selection ∈ strayLookup.selections, IsTestName selection.name := by decide
  refine ⟨named, ?_, by decide +kernel, fun bean holds => ?_⟩
  · have columns := shows_textLine 1 (show IsText ("SELECT " ++ columnList ["email"]) by decide)
    have guard : Markup.Reads (openingTag "if" [⟨"test", (Test.isNotNull "email").text⟩] ++ "1=0"
        ++ closingTag "if") _ :=
      Markup.Reads.element (by decide) (wellWritten_test (by decide))
        (Markup.Reads.text (by decide))
    have front : Markup.Reads (Inline.text ("FROM " ++ "user ")).render _ :=
      Markup.Reads.text (show IsText ("FROM " ++ "user ") by decide)
    have back : Markup.Reads (Inline.element "where" [] (openingTag "if"
        [⟨"test", (Test.isNotNull "email").text⟩] ++ "1=0" ++ closingTag "if")).render _ :=
      Markup.Reads.element (by decide) (.of_names [] rfl (by simp) .nil (by simp)) guard
    have line := Shows.line 1 (reads_pieces_cons front (reads_piece back))
    have plain : ∀ selection ∈ strayLookup.selections, IsPlain selection.name := by decide
    have criteria := shows_single (shows_criteria 1 plain (by decide))
    have blocks := columns.append (line.append criteria)
    have written : WellWritten strayLookupDocument.attributes :=
      .of_names ["id", "resultType"] rfl (by decide) (by decide) (by decide)
    rw [text_strayLookup]
    refine ⟨_, outline_readDocument (by decide) written blocks, ?_⟩
    decide +kernel
  · have complains : complaint (fun _ => .filled) strayLookup = none := by decide
    rw [validate_ofQuery (fun selection mem => (named selection mem).1) holds, complains]

end QueryScribe
