import QueryScribe.Proofs.Mapper.Assembly
import QueryScribe.Proofs.Mapper.Outline

/-!
# Reading clauses

The criteria of a statement are the elements in its `where`: perhaps one that is never true, and one
for each comparison. The text of a comparison begins with its connector; where it asks for one of
several values, these are listed in an element of their own. Here comparisons are read back from the
outlines of these elements.

Results:
1. `readPresence_presentTest`: a test that a value is there is read as the check that it makes.
2. `readCriterion_criterionOutline`: a clause is read as its connector and its comparison.
3. `readClauses_ofQuery`: the criteria of a query are read as one comparison for each selected
   field.
4. `guards_statementOutline`: the tests of the guards in a statement.
-/

namespace QueryScribe.Mapper

open Markup Text

/-! ## 1. Tests -/

/-- What may follow the comparison of a value with null, and the category of the values that it
fits. -/
def presenceForms (subject : List Char) : List (List Char × Category) :=
  [([], .scalar), (" and ".toList ++ subject ++ " != ''".toList, .text),
   (" and !".toList ++ subject ++ ".isEmpty()".toList, .collection)]

/-- The check that a test makes, if it asks whether a value is there. -/
def readPresence (test : List Char) : Option Check := do
  let subject := test.takeWhile (· ≠ ' ')
  let further ← afterStart (subject ++ " != null".toList) test
  let category ← (presenceForms subject).lookup further
  return ⟨String.ofList subject, category, .present⟩

namespace ClauseLemmas

/-- The forms differ, since no name begins with an exclamation mark. -/
theorem text_presentTest {field : Field} (noMark : '!' ∉ field.name.toList) :
    ∃ further, (presentTest field).text.toList
        = field.name.toList ++ ' ' :: ("!= null".toList ++ further)
      ∧ (presenceForms field.name.toList).lookup further = some field.category := by
  rw [presentTest, fieldCheck]
  cases field.category with
  | scalar => exact ⟨[], by simp [Test.ofCheck, Test.text], rfl⟩
  | text =>
    refine ⟨" and ".toList ++ field.name.toList ++ " != ''".toList,
      by simp [Test.ofCheck, Test.text], List.lookup_eq_some_iff.mpr ⟨[_], [_], rfl, by simp⟩⟩
  | collection =>
    have differ : '!' :: (field.name.toList ++ ".isEmpty()".toList)
        ≠ field.name.toList ++ " != ''".toList := by
      cases chars : field.name.toList with
      | nil => decide
      | cons c cs =>
        rintro same
        rw [chars, ← (List.cons.inj same).1] at noMark
        exact noMark (by simp)
    refine ⟨" and !".toList ++ field.name.toList ++ ".isEmpty()".toList,
      by simp [Test.ofCheck, Test.text], List.lookup_eq_some_iff.mpr ⟨[_, _], [], rfl, ?_⟩⟩
    simpa using differ

end ClauseLemmas

open ClauseLemmas OutlineLemmas

/-- A test that a value is there is read as the check that it makes. -/
theorem readPresence_presentTest {field : Field} (named : isIdentifier field.name = true) :
    readPresence (presentTest field).text.toList = some (fieldCheck .present field) := by
  have noChar {c : Char} (other : isWordChar c = false) : c ∉ field.name.toList := by
    intro mem
    rw [isWordChar_of_mem named c mem] at other
    exact absurd other (by decide)
  obtain ⟨further, text, category⟩ := text_presentTest (noChar (by decide))
  obtain ⟨subject, _⟩ := takeWhile_ne (noChar (c := ' ') (by decide)) ("!= null".toList ++ further)
  have start : afterStart (field.name.toList ++ " != null".toList)
      (field.name.toList ++ ' ' :: ("!= null".toList ++ further)) = some further := by
    have whole := afterStart_append (field.name.toList ++ " != null".toList) further
    rwa [List.append_assoc] at whole
  rw [readPresence, text, subject]
  simp only [start, category, Option.bind_eq_bind, Option.bind_some, String.ofList_toList]
  rfl

/-! ## 2. Clauses -/

/-- A comparison in criteria, and the connector in front of it. -/
structure Criterion where
  connector : Connector
  comparison : Comparison
  deriving Repr, DecidableEq

/-- The connectors with their keywords. -/
def keywords : List (String × Connector) :=
  [("AND", .and), ("OR", .or)]

/-- The operators that compare with a value as it is. -/
def symbols : List (String × Operator) :=
  [("=", .eq), ("!=", .ne), ("<", .lt), ("<=", .le), (">", .gt), (">=", .ge)]

/-- The operator of a comparison and the name of its value, from the words behind the column and the
elements. A pattern has its value between wildcards; values to look among are listed in an
element. -/
def readValue : List String → List Outline → Option (Operator × String)
  | [symbol, value], [] => do
    let operator ← symbols.lookup symbol
    let name ← between "#\x7b" "\x7d" value.toList
    return (operator, String.ofList name)
  | [operator, opening, value, closing], [] => do
    if operator = "LIKE" ∧ opening = "CONCAT('%'," ∧ closing = "'%')" then
      let name ← between "#\x7b" "\x7d," value.toList
      return (.like, String.ofList name)
    else none
  | [operator], [.element tag attributes item []] =>
    if operator = "IN" ∧ tag = "foreach" ∧ item = ["#\x7bitem\x7d"] then
      (attribute? attributes "collection").map (.isIn, ·)
    else none
  | _, _ => none

/-- The comparison of an element that is there when its value is. -/
def readCriterion : Outline → Option Criterion
  | .element tag attributes (keyword :: column :: comparison) inside => do
    let test ← if tag = "if" then attribute? attributes "test" else none
    let guard ← readPresence test.toList
    let connector ← keywords.lookup keyword
    let (operator, value) ← readValue comparison inside
    return ⟨connector, guard, operator, column, value⟩
  | _ => none

/-- The criterion of a selected field. -/
def Criterion.ofSelection (selection : Selection) : Criterion :=
  ⟨selection.connector, fieldCheck .present selection.field, selection.operator,
    snakeCase selection.column, selection.name⟩

namespace ClauseLemmas

theorem noSpace_of_isWordChar {s : String} (word : HasWordChars s) :
    ∀ c ∈ s.toList, c.isWhitespace = false := by
  intro c mem
  refine Bool.eq_false_iff.mpr fun space => ?_
  have noSpace : isWordChar c = false := by
    simp only [Char.isWhitespace, Bool.or_eq_true, decide_eq_true_eq] at space
    rcases space with ((rfl | rfl) | rfl) | rfl <;> decide
  exact absurd ((word c mem).symm.trans noSpace) (by decide)

theorem isWord_snakeCase {name : String} (notEmpty : name.toList ≠ []) (word : HasWordChars name) :
    IsWord (snakeCase name) := by
  refine ⟨?_, noSpace_of_isWordChar fun c mem => ?_⟩ <;> rw [snakeCase, String.toList_ofList] at *
  · cases chars : name.toList with
    | nil => exact absurd chars notEmpty
    | cons c cs => simp [snakeChars, lowerChar_ne_nil]
  · rcases eq_or_isWordChar_of_mem_snakeChars false mem with mem | isWord
    · exact word c mem
    · exact isWord

theorem isWord_keyword (connector : Connector) : IsWord connector.keyword := by
  cases connector <;> exact ⟨by decide, by decide⟩

theorem isWord_placeholder {name : String} (named : isIdentifier name = true) :
    IsWord (placeholder name) := by
  refine ⟨by simp [placeholder], ?_⟩
  exact forall_append (forall_append (by decide) (noSpace_of_isWordChar (isWordChar_of_mem named)))
    (by decide)

theorem between_placeholder (name : String) :
    between "#\x7b" "\x7d" (placeholder name).toList = some name.toList := by
  rw [placeholder, String.toList_append, String.toList_append, between_append]

theorem readValue_symbol {name : String} (named : isIdentifier name = true) {operator : Operator}
    (word : IsWord operator.symbol) (found : symbols.lookup operator.symbol = some operator) :
    readValue (wordsOf (operator.symbol ++ " " ++ placeholder name).toList) []
      = some (operator, name) := by
  rw [wordsOf_append_space, wordsOf_of_isWord word, wordsOf_of_isWord (isWord_placeholder named),
    List.singleton_append, readValue, found, between_placeholder]
  simp

theorem readValue_pattern {name : String} (named : isIdentifier name = true) :
    readValue (wordsOf ("LIKE CONCAT('%', " ++ placeholder name ++ ", '%')").toList) []
      = some (.like, name) := by
  have words : wordsOf ("LIKE CONCAT('%', " ++ placeholder name ++ ", '%')").toList
      = ["LIKE", "CONCAT('%',", placeholder name ++ ",", "'%')"] := by
    have word := isWord_placeholder named
    have value : IsWord (placeholder name ++ ",") :=
      ⟨by simp, forall_append word.noSpace (by decide)⟩
    have start : "LIKE CONCAT('%', " ++ placeholder name ++ ", '%')"
        = "LIKE" ++ " " ++ ("CONCAT('%'," ++ " "
          ++ ((placeholder name ++ ",") ++ " " ++ "'%')")) := by
      apply String.toList_injective
      simp
    rw [start, wordsOf_append_space, wordsOf_append_space, wordsOf_append_space,
      wordsOf_of_isWord value, show wordsOf "LIKE".toList = ["LIKE"] by decide,
      show wordsOf "CONCAT('%',".toList = ["CONCAT('%',"] by decide,
      show wordsOf "'%')".toList = ["'%')"] by decide]
    rfl
  have value : between "#\x7b" "\x7d," (placeholder name ++ ",").toList = some name.toList := by
    have whole := between_append "#\x7b" "\x7d," name.toList
    simpa [placeholder] using whole
  rw [words, readValue, value]
  simp

theorem readValue_list (name : String) :
    readValue (wordsOf "IN".toList) [listOutline name] = some (.isIn, name) := by
  rw [show wordsOf "IN".toList = ["IN"] by decide]
  rfl

/-- What a clause says of its value decides what it is read as. -/
theorem readCriterion_ifOutline {selection : Selection}
    (named : isIdentifier selection.name = true)
    (column : isIdentifier selection.column = true) {text rest : String}
    (written : text
      = selection.connector.keyword ++ " " ++ snakeCase selection.column ++ " " ++ rest)
    {inside : List Outline} {operator : Operator} {value : String}
    (reads : readValue (wordsOf rest.toList) inside = some (operator, value)) :
    readCriterion (ifOutline (presentTest selection.field) text inside)
      = some ⟨selection.connector, fieldCheck .present selection.field, operator,
          snakeCase selection.column, value⟩ := by
  have words : wordsOf text.toList
      = selection.connector.keyword :: snakeCase selection.column :: wordsOf rest.toList := by
    rw [written, wordsOf_append_space, wordsOf_append_space, wordsOf_of_isWord (isWord_keyword _),
      wordsOf_of_isWord (isWord_snakeCase (isIdentifier_ne_nil column) (isWordChar_of_mem column))]
    rfl
  have connector : keywords.lookup selection.connector.keyword = some selection.connector := by
    cases selection.connector <;> rfl
  have test : attribute? [⟨"test", (presentTest selection.field).text⟩] "test"
      = some (presentTest selection.field).text := rfl
  have guard : readPresence (presentTest selection.field).text.toList
      = some (fieldCheck .present selection.field) := readPresence_presentTest named
  rw [ifOutline, words, readCriterion]
  simp only [if_true, test, guard, connector, reads, Option.bind_eq_bind, Option.bind_some]
  rfl

end ClauseLemmas

/-- A clause is read as its connector and its comparison. -/
theorem readCriterion_criterionOutline {selection : Selection}
    (named : isIdentifier selection.name = true)
    (column : isIdentifier selection.column = true) :
    readCriterion (criterionOutline selection) = some (.ofSelection selection) := by
  rw [criterionOutline, Criterion.ofSelection]
  cases operator : selection.operator
  case like =>
    refine readCriterion_ifOutline named column ?_ (readValue_pattern named)
    simp only [String.append_assoc]
  case isIn => exact readCriterion_ifOutline named column rfl (readValue_list selection.name)
  all_goals
    refine readCriterion_ifOutline named column ?_
      (readValue_symbol named ⟨by decide, by decide⟩ rfl)
    simp only [String.append_assoc]

/-! ## 3. Criteria -/

/-- Whether an element is the clause that is never true. -/
def isNeverTrue : Outline → Bool
  | .element _ _ words _ => words = ["1=0"]

mutual

/-- What is in the `where` elements of an element. -/
def criteria : Outline → List (List Outline)
  | .element tag _ _ inside => if tag = "where" then [inside] else criteriaIn inside

/-- What is in the `where` elements of several elements. -/
def criteriaIn : List Outline → List (List Outline)
  | [] => []
  | outline :: outlines => criteria outline ++ criteriaIn outlines

end

/-- The comparisons in the one `where` among elements, without the clause that is never true. -/
def readCriteria (outlines : List Outline) : Option (List Criterion) :=
  match criteriaIn outlines with
  | [inside] => (inside.filter fun outline => !isNeverTrue outline).mapM readCriterion
  | _ => none

/-- The comparisons in the content of a statement. -/
def readClauses (content : String) : Option (List Criterion) := do
  readCriteria (Node.outlines (← readContent content))

/-- The text of a query's statement, with what its element contains. -/
def statementMarkup (query : Query) (content : String) : String :=
  openingTag query.operation.statementTag (statementAttributes query) ++ content
    ++ closingTag query.operation.statementTag

namespace ClauseLemmas

theorem criteriaIn_map {α : Type} {write : α → Outline} (none : ∀ item, criteria (write item) = [])
    (items : List α) : criteriaIn (items.map write) = [] := by
  induction items with
  | nil => rfl
  | cons item items ih => rw [List.map_cons, criteriaIn, none, ih, List.append_nil]

/-- A statement with criteria has one `where`. -/
theorem criteriaIn_statementElements {query : Query}
    (filtered : query.operation ∈ [.select, .selectPage, .update, .delete]) :
    criteriaIn (statementElements query)
      = [guardOutlines query ++ query.selections.map criterionOutline] := by
  have criteria : criteria (criteriaOutline query)
      = [guardOutlines query ++ query.selections.map criterionOutline] := by
    rw [criteriaOutline, Mapper.criteria, if_pos rfl]
  -- No part that sets a column has criteria of its own.
  have assignments : Mapper.criteria (assignmentsOutline query) = [] := by
    rw [assignmentsOutline, Mapper.criteria, if_neg (by decide)]
    exact criteriaIn_map (fun _ => rfl) _
  rw [statementElements]
  simp only [List.mem_cons, List.not_mem_nil, or_false] at filtered
  rcases filtered with operation | operation | operation | operation <;>
    simp [operation, ifOutline, criteriaIn, Mapper.criteria, criteria, assignments]

theorem isNeverTrue_of_mem_guardOutlines {query : Query} {outline : Outline}
    (mem : outline ∈ guardOutlines query) : isNeverTrue outline = true := by
  rw [guardOutlines] at mem
  split at mem
  · exact absurd mem List.not_mem_nil
  · rw [List.mem_singleton.mp mem, ifOutline, show wordsOf "1=0".toList = ["1=0"] by decide]
    rfl

/-- What is read as a comparison has more than one word. -/
theorem isNeverTrue_of_readCriterion {outline : Outline} {criterion : Criterion}
    (reads : readCriterion outline = some criterion) : isNeverTrue outline = false := by
  cases outline with
  | element tag attributes words inside =>
    refine decide_eq_false ?_
    rintro rfl
    exact absurd reads (by simp [readCriterion])

end ClauseLemmas

/-- The criteria of a query are read as one comparison for each selected field. -/
theorem readCriteria_statementElements {query : Query} (named : query.HasIdentifiers)
    (filtered : query.operation ∈ [.select, .selectPage, .update, .delete]) :
    readCriteria (statementElements query)
      = some (query.selections.map Criterion.ofSelection) := by
  have reads (selection : Selection) (mem : selection ∈ query.selections) :=
    readCriterion_criterionOutline (named.selected selection mem) (named.columns selection mem)
  have guards : (guardOutlines query).filter (fun outline => !isNeverTrue outline) = [] :=
    List.filter_eq_nil_iff.mpr fun outline mem => by simp [isNeverTrue_of_mem_guardOutlines mem]
  have clauses : (query.selections.map criterionOutline).filter
      (fun outline => !isNeverTrue outline) = query.selections.map criterionOutline := by
    refine List.filter_eq_self.mpr fun outline mem => ?_
    obtain ⟨selection, selected, rfl⟩ := List.mem_map.mp mem
    simp [isNeverTrue_of_readCriterion (reads selection selected)]
  rw [readCriteria, criteriaIn_statementElements filtered]
  simp only [List.filter_append, guards, clauses, List.nil_append]
  exact mapM_map_of_reads reads

theorem hasPlainContent_of_hasIdentifiers {query : Query} (named : query.HasIdentifiers) :
    query.HasPlainContent := by
  have plain {name : String} (isName : isIdentifier name = true) : IsPlain name :=
    isPlain_of_hasWordChars (isWordChar_of_mem isName)
  exact {
    target := plain named.target
    declared := fun field mem => plain (named.declared field mem)
    targetDeclared := fun field mem => plain (named.targetDeclared field mem)
    selected := fun selection mem => plain (named.selected selection mem)
    columns := fun selection mem => plain (named.columns selection mem) }

/-- Between the tags of a query's statement stands what its blocks show. -/
theorem exists_content {query : Query} {words : List String} {inside : List Outline}
    (shows : Shows (Block.renderAll 1 (Statement.ofQuery query).document.children) words inside) :
    ∃ content nodes, query.text .markup = statementMarkup query content
      ∧ readContent content = some nodes ∧ Node.outlines nodes = inside := by
  have lineBreak : Shows "\n" [] [] := Shows.space (by decide)
  obtain ⟨nodes, reads, -, outlines⟩ := (lineBreak.append shows).reads
  have text := render_document (Statement.ofQuery query).document
  rw [tag_document, attributes_document] at text
  exact ⟨_, nodes, text, readContent_of_reads reads, outlines⟩

/-- Between the tags of a query's statement, one clause compares each selected field. -/
theorem readClauses_ofQuery {query : Query} (named : query.HasIdentifiers)
    (filtered : query.operation ∈ [.select, .selectPage, .update, .delete]) :
    ∃ content, query.text .markup = statementMarkup query content
      ∧ readClauses content = some (query.selections.map Criterion.ofSelection) := by
  obtain ⟨content, nodes, text, reads, outlines⟩ :=
    exists_content (shows_blocks 1 (hasPlainContent_of_hasIdentifiers named))
  refine ⟨content, text, ?_⟩
  rw [readClauses, reads, Option.bind_eq_bind, Option.bind_some, outlines]
  exact readCriteria_statementElements named filtered

/-! ## 4. Guards -/

/-- The test of the guard at the top of criteria: the one for a clause that is never true. -/
def guardTest? : List Outline → Option String
  | .element tag attributes words _ :: _ =>
    if tag = "if" ∧ words = ["1=0"] then attribute? attributes "test" else none
  | [] => none

/-- The tests of the guards in a statement. -/
def guards (statement : Outline) : List String :=
  (criteria statement).filterMap guardTest?

namespace ClauseLemmas

theorem wordsOf_connector (connector : Connector) (rest : String) :
    wordsOf (connector.keyword ++ (" " ++ rest)).toList
      = connector.keyword :: wordsOf rest.toList := by
  rw [← String.append_assoc, wordsOf_append_space, wordsOf_of_isWord (isWord_keyword connector)]
  rfl

/-- A clause stands under the test that its value is there, and begins with its connector. -/
theorem criterionOutline_eq (selection : Selection) :
    ∃ words inside, criterionOutline selection
      = .element "if" [⟨"test", (presentTest selection.field).text⟩]
        (selection.connector.keyword :: words) inside := by
  rw [criterionOutline]
  cases selection.operator
  all_goals
    simp only [ifOutline, String.append_assoc, wordsOf_connector, -String.reduceAppend]
    exact ⟨_, _, rfl⟩

theorem guardTest_criterionOutline (selection : Selection) (others : List Outline) :
    guardTest? (criterionOutline selection :: others) = none := by
  obtain ⟨words, inside, outline⟩ := criterionOutline_eq selection
  rw [outline, guardTest?, if_neg]
  cases selection.connector <;> simp [Connector.keyword]

end ClauseLemmas

/-- The one guard of a statement with criteria is theirs. -/
theorem guards_statementOutline {query : Query}
    (filtered : query.operation ∈ [.select, .selectPage, .update, .delete]) :
    guards (statementOutline query) = (Criteria.ofQuery query).unusable.toList.map Test.text := by
  have inside : criteria (statementOutline query)
      = [guardOutlines query ++ query.selections.map criterionOutline] := by
    have notWhere : query.operation.statementTag ≠ "where" := by cases query.operation <;> decide
    rw [statementOutline, criteria, if_neg notWhere, criteriaIn_statementElements filtered]
  have never : wordsOf "1=0".toList = ["1=0"] := by decide
  rw [guards, inside, ← firstSelection_cons_tail query, List.map_cons, Criteria.ofQuery,
    guardOutlines]
  cases operation : query.operation with
  | selectPage => simp [Operation.isGuarded, guardTest_criterionOutline]
  | insert => exact absurd (operation ▸ filtered) (by decide)
  | select | update | delete =>
    simp only [ifOutline, never]
    rfl

end QueryScribe.Mapper
