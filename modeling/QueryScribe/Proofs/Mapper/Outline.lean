import QueryScribe.Generation
import QueryScribe.Proofs.Mapper.Column
import QueryScribe.Proofs.Markup.Outline
import QueryScribe.Proofs.Text.Chars

/-!
# Outlines of statements

Names go into markup as they are. As long as they have none of the five characters that mean
something there, a statement is read back, and its elements are those that its query calls for.

Results:
1. `isPlain_snakeCase`: snake case brings in no character with a meaning in markup.
2. `isValue_text`: a test can stand in an attribute.
3. `shows_criteria`: the outline of a statement's criteria.
4. `outline_markup`: the outline of a whole statement.
-/

namespace QueryScribe

open Markup

/-! ## Plain names -/

/-- Whether a text has none of the characters that mean something in markup. -/
def Markup.IsPlain (s : String) : Prop :=
  ∀ c ∈ s.toList, entity? c = none

instance : DecidablePred IsPlain := fun s => inferInstanceAs (Decidable (∀ c ∈ s.toList, _))

/-- Whether the names that a query brings into the content of its statement are plain. -/
structure Query.HasPlainContent (query : Query) : Prop where
  target : IsPlain query.target.name
  declared : ∀ field ∈ query.source.fields, IsPlain field.name
  targetDeclared : ∀ field ∈ query.target.fields, IsPlain field.name
  selected : ∀ selection ∈ query.selections, IsPlain selection.name
  columns : ∀ selection ∈ query.selections, IsPlain selection.column

/-- Whether the names that a query brings into its statement are plain. -/
structure Query.HasPlainNames (query : Query) : Prop extends query.HasPlainContent where
  source : IsPlain query.source.name
  qualified : IsPlain query.target.qualifiedName

/-! ## What a query calls for -/

namespace Mapper

/-- A part that is left out when its test fails, with the words of its text. -/
def ifOutline (test : Test) (text : String) (inside : List Outline) : Outline :=
  .element "if" [⟨"test", test.text⟩] (wordsOf text.toList) inside

/-- The list of a collection's values. -/
def listOutline (collection : String) : Outline :=
  .element "foreach" [⟨"item", "item"⟩, ⟨"index", "index"⟩, ⟨"collection", collection⟩,
    ⟨"open", "("⟩, ⟨"separator", ","⟩, ⟨"close", ")"⟩] ["#\x7bitem\x7d"] []

/-- The criterion of a selected field. Its text has the operator's own symbol; the values to look
among are listed in an element. -/
def criterionOutline (selection : Selection) : Outline :=
  let start := selection.connector.keyword ++ " " ++ snakeCase selection.column ++ " "
  let test := presentTest selection.field
  let value := placeholder selection.name
  match selection.operator with
  | .like => ifOutline test (start ++ "LIKE CONCAT('%', " ++ value ++ ", '%')") []
  | .isIn => ifOutline test (start ++ "IN") [listOutline selection.name]
  | operator => ifOutline test (start ++ operator.symbol ++ " " ++ value) []

/-- The guard of a query's criteria. Only a page has none. -/
def guardOutlines (query : Query) : List Outline :=
  if query.operation = .selectPage then [] else
    [ifOutline (unusableTest query.operation (firstSelection query) query.selections.tail) "1=0" []]

/-- The criteria of a query: its guard, and one criterion for each selected field. -/
def criteriaOutline (query : Query) : Outline :=
  .element "where" [] [] (guardOutlines query ++ query.selections.map criterionOutline)

/-- A list in parentheses with one item for each selected field. -/
def trimOutline (opening : String) (item : Selection → String) (query : Query) : Outline :=
  .element "trim" [⟨"prefix", opening⟩, ⟨"suffix", ")"⟩, ⟨"suffixOverrides", ","⟩] []
    (query.selections.map fun selection =>
      ifOutline (presentTest selection.field) (item selection ++ ",") [])

/-- The assignments of a query, one for each field that source and target share. -/
def assignmentsOutline (query : Query) : Outline :=
  .element "set" [] [] (query.sharedFields.map fun field =>
    ifOutline (presentTest field) (snakeCase field.name ++ " = " ++ placeholder field.name ++ ",")
      [])

/-- The text of a query's statement, as far as it stands in its own element. -/
def statementText (query : Query) : String :=
  let table := snakeCase query.target.name
  let columns := columnList (query.target.fields.map (snakeCase ·.name))
  match query.operation with
  | .select | .selectPage => "SELECT " ++ columns ++ " " ++ ("FROM " ++ table)
  | .update => "UPDATE " ++ table
  | .delete => ""
  | .insert => "INSERT INTO " ++ table

/-- The elements in a query's statement. -/
def statementElements (query : Query) : List Outline :=
  match query.operation with
  | .select | .selectPage => [criteriaOutline query]
  | .update => [assignmentsOutline query, criteriaOutline query]
  | .delete =>
    [ifOutline (suppliedTest (firstSelection query) query.selections.tail)
      ("DELETE FROM " ++ snakeCase query.target.name) [criteriaOutline query]]
  | .insert =>
    [trimOutline "(" (snakeCase ·.column) query,
     trimOutline "VALUES (" (placeholder ·.name) query]

/-- The attributes of a query's statement. It is identified by the operation and the source; a
statement that reads rows says what they become. -/
def statementAttributes (query : Query) : List Attribute :=
  ⟨"id", query.operation.name ++ query.source.name⟩
    :: if query.operation.isSelect then [⟨"resultType", query.target.qualifiedName⟩] else []

/-- The outline of a query's statement. -/
def statementOutline (query : Query) : Outline :=
  .element query.operation.statementTag (statementAttributes query)
    (wordsOf (statementText query).toList) (statementElements query)

/-! ## 1. Texts and values -/

/-- Whether a text can stand in markup as it is. -/
def IsText (s : String) : Prop :=
  ∀ c ∈ s.toList, isTextChar c = true

instance : DecidablePred IsText := fun s => inferInstanceAs (Decidable (∀ c ∈ s.toList, _))

/-- Whether a text can stand in an attribute as it is. -/
def IsValue (s : String) : Prop :=
  ∀ c ∈ s.toList, isValueChar c = true

instance : DecidablePred IsValue := fun s => inferInstanceAs (Decidable (∀ c ∈ s.toList, _))

theorem IsText.append {s t : String} (first : IsText s) (second : IsText t) : IsText (s ++ t) :=
  Text.forall_append first second

theorem IsValue.append {s t : String} (first : IsValue s) (second : IsValue t) :
    IsValue (s ++ t) :=
  Text.forall_append first second

namespace OutlineLemmas

theorem isText_of_plain {s : String} (plain : IsPlain s) : IsText s :=
  fun c mem => isTextChar_of_no_entity (plain c mem)

theorem isValue_of_plain {s : String} (plain : IsPlain s) : IsValue s := by
  intro c mem
  have noEntity := plain c mem
  have notQuote : c ≠ '"' := by rintro rfl; exact absurd noEntity (by decide)
  have notAnd : c ≠ '&' := by rintro rfl; exact absurd noEntity (by decide)
  have notLess : c ≠ '<' := by rintro rfl; exact absurd noEntity (by decide)
  simp [isValueChar, notQuote, notAnd, notLess]

theorem entity?_of_isWordChar {c : Char} (isWord : Text.isWordChar c = true) :
    entity? c = none := by
  rw [entity?.eq_def]
  split <;> first | rfl | exact absurd isWord (by decide)

theorem isPlain_of_hasWordChars {s : String} (word : Text.HasWordChars s) : IsPlain s :=
  fun c mem => entity?_of_isWordChar (word c mem)

theorem eq_or_isWordChar_of_mem_snakeChars (afterSmall : Bool) {cs : List Char} {d : Char}
    (mem : d ∈ snakeChars afterSmall cs) : d ∈ cs ∨ Text.isWordChar d = true := by
  rcases mem_snakeChars mem with rfl | ⟨c, listed, lowered⟩
  · exact .inr (by decide)
  · rcases Text.eq_or_isWordChar_of_mem_lowerChar lowered with rfl | isWord
    · exact .inl listed
    · exact .inr isWord

end OutlineLemmas

open OutlineLemmas

/-- Snake case brings in no character with a meaning in markup. -/
theorem isPlain_snakeCase {name : String} (plain : IsPlain name) : IsPlain (snakeCase name) := by
  intro c mem
  rw [snakeCase, String.toList_ofList] at mem
  rcases eq_or_isWordChar_of_mem_snakeChars false mem with mem | isWord
  · exact plain c mem
  · exact entity?_of_isWordChar isWord

namespace OutlineLemmas

theorem isText_placeholder {name : String} (plain : IsPlain name) : IsText (placeholder name) :=
  ((show IsText "#\x7b" by decide).append (isText_of_plain plain)).append (by decide)

theorem isText_columnList {columns : List String} (plain : ∀ column ∈ columns, IsPlain column) :
    IsText (columnList columns) := by
  rw [columnList.eq_def]
  split
  · decide
  · exact Text.forall_intercalate (by decide) fun column mem => isText_of_plain (plain column mem)

/-- The line that sets the column of a field. -/
theorem isText_setting {name : String} (plain : IsPlain name) :
    IsText (snakeCase name ++ " = " ++ placeholder name ++ ",") :=
  (((isText_of_plain (isPlain_snakeCase plain)).append (by decide)).append
    (isText_placeholder plain)).append (by decide)

end OutlineLemmas

/-! ## 2. Tests in attributes -/

namespace Test

/-- The names that a test asks for. -/
def subjects : Test → List String
  | isNull subject | isNotNull subject | isBlank subject | isNotBlank subject
  | isEmpty subject | isNotEmpty subject => [subject]
  | both first second | either first second => first.subjects ++ second.subjects
  | group test => test.subjects

end Test

/-- A test that asks for plain names can stand in an attribute. -/
theorem isValue_text {test : Test} (plain : ∀ subject ∈ test.subjects, IsPlain subject) :
    IsValue test.text := by
  induction test with
  | isNull subject | isNotNull subject | isBlank subject | isNotBlank subject | isEmpty subject =>
    exact (isValue_of_plain (plain subject (by simp [Test.subjects]))).append (by decide)
  | isNotEmpty subject =>
    have named := isValue_of_plain (plain subject (by simp [Test.subjects]))
    exact ((show IsValue "!" by decide).append named).append (by decide)
  | both first second ihFirst ihSecond | either first second ihFirst ihSecond =>
    have left := ihFirst fun subject mem => plain subject (List.mem_append_left _ mem)
    have right := ihSecond fun subject mem => plain subject (List.mem_append_right _ mem)
    exact (left.append (by decide)).append right
  | group test ih =>
    exact ((show IsValue "(" by decide).append (ih plain)).append (by decide)

namespace OutlineLemmas

theorem subjects_ofCheck (check : Check) :
    ∀ subject ∈ (Test.ofCheck check).subjects, subject = check.subject := by
  obtain ⟨subject, category, presence⟩ := check
  cases category <;> cases presence <;> simp [Test.ofCheck, Test.subjects]

theorem subjects_join {op : Test → Test → Test}
    (opSubjects : ∀ s t, (op s t).subjects = s.subjects ++ t.subjects) (write : α → Test)
    {first : α} {others : List α} {subject : String}
    (mem : subject ∈ (Test.join op (write first) (others.map write)).subjects) :
    ∃ x ∈ first :: others, subject ∈ (write x).subjects := by
  induction others generalizing first with
  | nil => exact ⟨first, by simp, mem⟩
  | cons second others ih =>
    rw [List.map_cons, Test.join, opSubjects] at mem
    rcases List.mem_append.mp mem with here | later
    · exact ⟨first, by simp, here⟩
    · obtain ⟨x, among, asked⟩ := ih later
      exact ⟨x, List.mem_cons_of_mem _ among, asked⟩

variable {query : Query}

theorem isValue_presentTest {field : Field} (plain : IsPlain field.name) :
    IsValue (presentTest field).text := by
  refine isValue_text fun subject mem => ?_
  rw [subjects_ofCheck _ subject mem]
  exact plain

theorem isValue_unusableTest (plain : ∀ selection ∈ query.selections, IsPlain selection.name) :
    IsValue (unusableTest query.operation (firstSelection query) query.selections.tail).text := by
  rw [← firstSelection_cons_tail query] at plain
  generalize firstSelection query = first at plain ⊢
  generalize query.selections.tail = others at plain ⊢
  refine isValue_text fun subject mem => ?_
  have asks {selection : Selection} (asked : subject ∈ (missingTest selection.field).subjects) :
      subject = selection.name :=
    subjects_ofCheck (fieldCheck .missing selection.field) subject asked
  cases others with
  | nil =>
    rw [asks mem]
    exact plain first (by simp)
  | cons second others =>
    have opSubjects (s t : Test) :
        (missingJoin query.operation s t).subjects = s.subjects ++ t.subjects := by
      cases query.operation <;> rfl
    obtain ⟨selection, among, asked⟩ :=
      subjects_join opSubjects (fun selection : Selection => .group (missingTest selection.field))
        mem
    rw [asks asked]
    exact plain selection among

theorem isValue_suppliedTest (plain : ∀ selection ∈ query.selections, IsPlain selection.name) :
    IsValue (suppliedTest (firstSelection query) query.selections.tail).text := by
  rw [← firstSelection_cons_tail query] at plain
  refine isValue_text fun subject mem => ?_
  obtain ⟨selection, among, asked⟩ :=
    subjects_join (fun s t => rfl) (fun selection : Selection => .isNotNull selection.name) mem
  rw [List.mem_singleton.mp asked]
  exact plain selection among

end OutlineLemmas

/-! ## 3. Criteria -/

namespace OutlineLemmas

theorem shows_textLine (depth : Nat) {written : String} (isText : IsText written) :
    Shows (Block.render depth (textLine written)) (wordsOf written.toList) [] := by
  have reads : Markup.Reads (Inline.text written).render (written.toList.map .char) :=
    Markup.Reads.text isText
  have line := Shows.line depth (reads_piece reads)
  rwa [ownText_chars, outlines_chars] at line

theorem shows_single {depth : Nat} {block : Block} {words : List String} {inside : List Outline}
    (shows : Shows (Block.render depth block) words inside) :
    Shows (Block.renderAll depth [block]) words inside := by
  rw [Block.renderAll, Block.renderAll, String.append_empty]
  exact shows

theorem wellWritten_test {test : Test} (isValue : IsValue test.text) :
    WellWritten [⟨"test", test.text⟩] := by
  refine .of_names ["test"] rfl (by decide) (by decide) fun one mem => ?_
  rw [List.mem_singleton.mp mem]
  exact isValue

/-- The attributes of a list of values. -/
theorem wellWritten_list {collection : String} (plain : IsPlain collection) :
    WellWritten [⟨"item", "item"⟩, ⟨"index", "index"⟩, ⟨"collection", collection⟩, ⟨"open", "("⟩,
      ⟨"separator", ","⟩, ⟨"close", ")"⟩] := by
  refine .of_names ["item", "index", "collection", "open", "separator", "close"] rfl (by decide)
    (by decide) fun one mem => ?_
  simp only [List.mem_cons, List.not_mem_nil, or_false] at mem
  rcases mem with rfl | rfl | rfl | rfl | rfl | rfl
  case inr.inr.inl => exact isValue_of_plain plain
  all_goals decide

theorem shows_ifElement (depth : Nat) {test : Test} (isValue : IsValue test.text)
    {body : List Block} {words : List String} {inside : List Outline}
    (shows : Shows (Block.renderAll (depth + 1) body) words inside) :
    Shows (Block.render depth (ifElement test body)) []
      [.element "if" [⟨"test", test.text⟩] words inside] :=
  Shows.element depth (by decide) (wellWritten_test isValue) shows

theorem isText_start {selection : Selection} (plain : IsPlain selection.column) :
    IsText (selection.connector.keyword ++ " " ++ snakeCase selection.column ++ " ") := by
  have keyword : IsText (selection.connector.keyword ++ " ") := by
    cases selection.connector <;> decide
  exact (keyword.append (isText_of_plain (isPlain_snakeCase plain))).append (by decide)

/-- A comparison by a symbol is written with the symbol escaped, and read as the symbol. -/
theorem reads_comparison {start value : String} (isStart : IsText start) (symbol : String)
    (isValue : IsText value) :
    Markup.Reads (Inline.text (start ++ escape symbol ++ " " ++ value)).render
      ((start ++ symbol ++ " " ++ value).toList.map .char) := by
  simp only [String.toList_append, List.map_append]
  exact (((Markup.Reads.text isStart).append (Markup.Reads.escaped symbol)).append
    (Markup.Reads.text (show IsText " " by decide))).append (Markup.Reads.text isValue)

theorem shows_comparison (depth : Nat) {start value symbol : String} (isStart : IsText start)
    (isValue : IsText value) :
    Shows (Block.render depth (textLine (start ++ escape symbol ++ " " ++ value)))
      (wordsOf (start ++ symbol ++ " " ++ value).toList) [] := by
  have line := Shows.line depth (reads_piece (reads_comparison isStart symbol isValue))
  rwa [ownText_chars, outlines_chars] at line

/-- The values to look among are listed in an element of their own. -/
theorem reads_list {collection : String} (plain : IsPlain collection) :
    Markup.Reads (Inline.render (.element "foreach"
        [⟨"item", "item"⟩, ⟨"index", "index"⟩, ⟨"collection", collection⟩, ⟨"open", "("⟩,
          ⟨"separator", ","⟩, ⟨"close", ")"⟩] (placeholder "item")))
      [.element "foreach" [⟨"item", "item"⟩, ⟨"index", "index"⟩, ⟨"collection", collection⟩,
        ⟨"open", "("⟩, ⟨"separator", ","⟩, ⟨"close", ")"⟩]
        ((placeholder "item").toList.map .char)] :=
  Markup.Reads.element (by decide) (wellWritten_list plain) (Markup.Reads.text (by decide))

theorem shows_list (depth : Nat) {collection : String} (plain : IsPlain collection) :
    Shows (Block.render depth (.line [.element "foreach"
        [⟨"item", "item"⟩, ⟨"index", "index"⟩, ⟨"collection", collection⟩, ⟨"open", "("⟩,
          ⟨"separator", ","⟩, ⟨"close", ")"⟩] (placeholder "item")]))
      [] [listOutline collection] := by
  have line := Shows.line depth (reads_piece (reads_list plain))
  have words : wordsOf (placeholder "item").toList = ["#\x7bitem\x7d"] := by decide
  rwa [outlines_element, ownText_chars, outlines_chars, words,
    show ownText [Node.element _ _ _] = [] from rfl, wordsOf_nil] at line

/-- A criterion shows its comparison under the test that its value is there. -/
theorem shows_criterion (depth : Nat) {selection : Selection} (plain : IsPlain selection.name)
    (column : IsPlain selection.column) :
    Shows (Block.render depth
        (ifElement (presentTest selection.field) (Clause.ofSelection selection).lines))
      [] [criterionOutline selection] := by
  have start := isText_start column
  have value := isText_placeholder plain
  have test := isValue_presentTest plain
  rw [criterionOutline, Clause.ofSelection, Clause.lines]
  cases selection.operator with
  | like =>
    refine shows_ifElement depth test (shows_single (shows_textLine (depth + 1) ?_))
    exact ((start.append (by decide)).append value).append (by decide)
  | isIn =>
    refine shows_ifElement depth test ?_
    have shows := (shows_textLine (depth + 1) (start.append (show IsText "IN" by decide))).append
      (shows_single (shows_list (depth + 1) plain))
    rwa [List.append_nil, List.nil_append] at shows
  | _ => exact shows_ifElement depth test (shows_single (shows_comparison (depth + 1) start value))

theorem shows_neverTrue (depth : Nat) : Shows (Block.render depth neverTrue) ["1=0"] [] := by
  have text : Markup.Reads (Inline.text "1=0 ").render _ := Markup.Reads.text (by decide)
  have comment : Markup.Reads (Inline.comment " no usable criteria ").render _ :=
    Markup.Reads.comment (by decide)
  have line := Shows.line depth (reads_pieces_cons text (reads_piece comment))
  rwa [show wordsOf (ownText _) = ["1=0"] by decide, outlines_append, outlines_chars] at line

theorem shows_guard (depth : Nat)
    (plain : ∀ selection ∈ query.selections, IsPlain selection.name) :
    Shows (Block.renderAll depth
        ((Criteria.ofQuery query).unusable.toList.map fun test => ifElement test [neverTrue]))
      [] (guardOutlines query) := by
  have never := shows_single (shows_neverTrue (depth + 1))
  have guard := shows_ifElement depth (isValue_unusableTest plain) never
  cases operation : query.operation <;>
    simp only [Criteria.ofQuery, guardOutlines, operation, Operation.isGuarded] at guard ⊢
  case selectPage => exact Shows.nil
  all_goals exact shows_single guard

end OutlineLemmas

/-- The criteria of a query show its guard first and then one criterion for each selected field. -/
theorem shows_criteria (depth : Nat) {query : Query}
    (plain : ∀ selection ∈ query.selections, IsPlain selection.name)
    (columns : ∀ selection ∈ query.selections, IsPlain selection.column) :
    Shows (Block.render depth (Criteria.ofQuery query).block) [] [criteriaOutline query] := by
  have clauses := shows_renderAll_map (depth + 1) fun selection mem =>
    shows_criterion (depth + 1) (plain selection mem) (columns selection mem)
  have both := (shows_guard (depth + 1) plain).append clauses
  rw [← renderAll_append] at both
  rw [Criteria.block, Criteria.ofQuery, List.map_map]
  exact Shows.element depth (by decide) (.of_names [] rfl (by simp) .nil (by simp)) both

/-! ## 4. Statements -/

namespace OutlineLemmas

variable {query : Query}

/-- A list in parentheses shows one part for each selected field. -/
theorem shows_trim (depth : Nat) {opening : String} (isValue : IsValue opening)
    {item : Selection → String} (plain : ∀ selection ∈ query.selections, IsPlain selection.name)
    (isText : ∀ selection ∈ query.selections, IsText (item selection)) :
    Shows (Block.render depth (trimElement opening
        (query.selections.map fun selection => ifPresent selection.field (item selection))))
      [] [trimOutline opening item query] := by
  have part (selection : Selection) (mem : selection ∈ query.selections) :
      Shows (Block.render (depth + 1)
          (ifElement (presentTest selection.field) [textLine (item selection ++ ",")]))
        [] [ifOutline (presentTest selection.field) (item selection ++ ",") []] :=
    shows_ifElement (depth + 1) (isValue_presentTest (plain selection mem))
      (shows_single (shows_textLine (depth + 2) ((isText selection mem).append (by decide))))
  have written : WellWritten [⟨"prefix", opening⟩, ⟨"suffix", ")"⟩, ⟨"suffixOverrides", ","⟩] := by
    refine .of_names ["prefix", "suffix", "suffixOverrides"] rfl (by decide) (by decide)
      fun one mem => ?_
    simp only [List.mem_cons, List.not_mem_nil, or_false] at mem
    rcases mem with rfl | rfl | rfl
    case inl => exact isValue
    all_goals decide
  rw [trimElement, List.map_map]
  exact Shows.element depth (by decide) written (shows_renderAll_map (depth + 1) part)

/-- The two lists of an insertion show one part each for each selected field. -/
theorem shows_lists (depth : Nat)
    (plain : ∀ selection ∈ query.selections, IsPlain selection.name)
    (columns : ∀ selection ∈ query.selections, IsPlain selection.column) :
    Shows (Block.renderAll depth
        [trimElement "(" (query.selections.map fun selection =>
            ifPresent selection.field (snakeCase selection.column)),
          trimElement "VALUES (" (query.selections.map fun selection =>
            ifPresent selection.field (placeholder selection.name))])
      [] [trimOutline "(" (snakeCase ·.column) query,
        trimOutline "VALUES (" (placeholder ·.name) query] := by
  have first := shows_trim depth (show IsValue "(" by decide) plain fun selection mem =>
    isText_of_plain (isPlain_snakeCase (columns selection mem))
  have second := shows_trim depth (show IsValue "VALUES (" by decide) plain fun selection mem =>
    isText_placeholder (plain selection mem)
  exact first.append (shows_single second)

/-- The lines that set columns show one part for each field. -/
theorem shows_settings (depth : Nat) {fields : List Field}
    (plain : ∀ field ∈ fields, IsPlain field.name) :
    Shows (Block.renderAll depth (fields.map fun field => ifElement (presentTest field)
          [textLine (snakeCase field.name ++ " = " ++ placeholder field.name ++ ",")]))
      [] (fields.map fun field => ifOutline (presentTest field)
        (snakeCase field.name ++ " = " ++ placeholder field.name ++ ",") []) := by
  refine shows_renderAll_map depth fun field mem => ?_
  exact shows_ifElement depth (isValue_presentTest (plain field mem))
    (shows_single (shows_textLine (depth + 1) (isText_setting (plain field mem))))

/-- The assignments of an update show one part for each field that source and target share. -/
theorem shows_assignments (depth : Nat) (plain : query.HasPlainContent) :
    Shows (Block.render depth (.element "set" [] (query.sharedFields.map fun field =>
        ifElement (presentTest field)
          [textLine (snakeCase field.name ++ " = " ++ placeholder field.name ++ ",")])))
      [] [assignmentsOutline query] :=
  Shows.element depth (by decide) (.of_names [] rfl (by simp) .nil (by simp))
    (shows_settings (depth + 1) fun field shared =>
      plain.declared field (List.mem_filter.mp shared).1)

theorem isText_table (plain : query.HasPlainContent) : IsText (snakeCase query.target.name) :=
  isText_of_plain (isPlain_snakeCase plain.target)

theorem isText_columns (plain : query.HasPlainContent) :
    IsText (columnList (query.target.fields.map (snakeCase ·.name))) := by
  refine isText_columnList fun column mem => ?_
  obtain ⟨field, declared, rfl⟩ := List.mem_map.mp mem
  exact isPlain_snakeCase (plain.targetDeclared field declared)

/-- The blocks of a statement show its words and its elements. -/
theorem shows_blocks (depth : Nat) (plain : query.HasPlainContent) :
    Shows (Block.renderAll depth ((Action.ofQuery query).blocks (snakeCase query.target.name)))
      (wordsOf (statementText query).toList) (statementElements query) := by
  have table := isText_table plain
  have line {start : String} (isText : IsText start) :=
    shows_textLine depth (isText.append table)
  have criteria (depth : Nat) :=
    shows_single (shows_criteria depth plain.selected plain.columns)
  rw [Action.ofQuery, statementText, statementElements]
  cases query.operation with
  | select | selectPage =>
    have start := shows_textLine depth
      ((show IsText "SELECT " by decide).append (isText_columns plain))
    have shows := start.append ((line (show IsText "FROM " by decide)).append (criteria depth))
    rw [List.append_nil, ← wordsOf_append_space] at shows
    exact shows
  | update =>
    have assignments := (shows_assignments depth plain).append (criteria depth)
    have shows := (line (show IsText "UPDATE " by decide)).append assignments
    rw [List.append_nil, List.append_nil] at shows
    rw [Action.blocks, List.map_map]
    exact shows
  | delete =>
    have body := (shows_textLine (depth + 1) ((show IsText "DELETE FROM " by decide).append
      table)).append (criteria (depth + 1))
    rw [List.append_nil] at body
    rw [show wordsOf "".toList = [] by decide]
    exact shows_single (shows_ifElement depth (isValue_suppliedTest plain.selected) body)
  | insert =>
    have lists := shows_lists depth plain.selected plain.columns
    have shows := (line (show IsText "INSERT INTO " by decide)).append lists
    rw [List.append_nil] at shows
    rw [Action.blocks, List.map_map]
    exact shows

theorem wellWritten_statementAttributes (plain : query.HasPlainNames) :
    WellWritten (statementAttributes query) := by
  have id : IsValue (query.operation.name ++ query.source.name) := by
    have operation : IsValue query.operation.name := by cases query.operation <;> decide
    exact operation.append (isValue_of_plain plain.source)
  have type := isValue_of_plain plain.qualified
  rw [statementAttributes]
  cases query.operation.isSelect with
  | true =>
    refine .of_names ["id", "resultType"] rfl (by decide) (by decide) fun one mem => ?_
    simp only [if_true, List.mem_cons, List.not_mem_nil, or_false] at mem
    rcases mem with rfl | rfl
    · exact id
    · exact type
  | false =>
    refine .of_names ["id"] rfl (by decide) (by decide) fun one mem => ?_
    rw [List.mem_singleton.mp mem]
    exact id

theorem attributes_document (query : Query) :
    (Statement.ofQuery query).document.attributes = statementAttributes query := by
  cases operation : query.operation <;>
    simp [Statement.document, Statement.ofQuery, Action.ofQuery, Action.attributes,
      statementAttributes, Operation.isSelect, operation]

theorem tag_document (query : Query) :
    (Statement.ofQuery query).document.tag = query.operation.statementTag := by
  rw [Statement.document, Statement.ofQuery, Action.ofQuery]
  cases query.operation <;> rfl

end OutlineLemmas

/-- The outline of a whole statement is the one that its query calls for. -/
theorem outline_markup (query : Query) (plain : query.HasPlainNames) :
    (readDocument (query.text .markup)).bind Node.outline? = some (statementOutline query) := by
  have named : isName (Statement.ofQuery query).document.tag = true := by
    rw [tag_document]
    cases query.operation <;> decide
  have written : WellWritten (Statement.ofQuery query).document.attributes := by
    rw [attributes_document]
    exact wellWritten_statementAttributes plain
  have outline := outline_readDocument named written (shows_blocks 1 plain.toHasPlainContent)
  rw [tag_document, attributes_document] at outline
  exact outline

/-- A search for members up to an age, or in one of several groups. -/
def memberSearch : Query where
  source := ⟨"Member", "app.Member", [⟨"age", "Integer"⟩, ⟨"groupIds", "List<Long>"⟩]⟩
  target := ⟨"Member", "app.Member", [⟨"age", "Integer"⟩, ⟨"groupId", "Long"⟩]⟩
  selections :=
    [⟨⟨"age", "Integer"⟩, .le, .and, ""⟩, ⟨⟨"groupIds", "List<Long>"⟩, .isIn, .or, "groupId"⟩]
  operation := .select
  selections_ne_nil := by decide
  fits := by decide

theorem memberSearch_outline :
    memberSearch.HasPlainNames
      ∧ (readDocument (memberSearch.text .markup)).bind Node.outline? =
        some (.element "select" [⟨"id", "selectMember"⟩, ⟨"resultType", "app.Member"⟩]
          ["SELECT", "age,", "group_id", "FROM", "member"]
          [.element "where" [] []
            [.element "if" [⟨"test", "(age == null) and (groupIds == null or groupIds.isEmpty())"⟩]
              ["1=0"] [],
            .element "if" [⟨"test", "age != null"⟩] ["AND", "age", "<=", "#\x7bage\x7d"] [],
            .element "if" [⟨"test", "groupIds != null and !groupIds.isEmpty()"⟩]
              ["OR", "group_id", "IN"]
              [.element "foreach" [⟨"item", "item"⟩, ⟨"index", "index"⟩,
                ⟨"collection", "groupIds"⟩, ⟨"open", "("⟩, ⟨"separator", ","⟩, ⟨"close", ")"⟩]
                ["#\x7bitem\x7d"] []]]]) := by
  have content : memberSearch.HasPlainContent := by constructor <;> decide
  have plain : memberSearch.HasPlainNames := ⟨content, by decide, by decide⟩
  refine ⟨plain, (outline_markup memberSearch plain).trans ?_⟩
  rfl

end Mapper

end QueryScribe
