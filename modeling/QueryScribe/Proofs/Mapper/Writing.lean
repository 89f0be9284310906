import QueryScribe.Proofs.Mapper.Clause
import QueryScribe.Proofs.Mapper.Effect

/-!
# Statements that write

An update sets its columns in one element; an insertion names its columns in one element and its
values in another. Each item of such an element is an element of its own, which contributes its text
when its test holds. The two lists of an insertion are decided one after the other, and nothing but
the tests keeps a column and its value together.

Results:
1. `collect_ifOutlines`: items that depend on their fields come to those of the present fields.
2. `collect_settings`: what the part of an update that sets columns comes to.
3. `readLists_ofQuery`: the two lists of an insertion are read back from its text.
4. `insertion_aligned`: columns and values are those of the same fields, in the same order.
-/

namespace QueryScribe

/-- The selections of a query whose values are there, in their order. -/
def Query.presentSelections (contents : String → Content) (query : Query) : List Selection :=
  query.selections.filter (·.isPresent contents)

namespace Mapper

open Markup Text ClauseLemmas OutlineLemmas

/-! ## 1. Elements that contribute -/

/-- Whether an element contributes its text: an `if` does when its test holds, any other always. -/
def contributes (contents : String → Content) : Outline → Except Fault Bool
  | .element tag attributes _ _ =>
    if tag = "if" then holds contents ((attribute? attributes "test").getD "") else .ok true

/-- The elements that contribute their text. All tests are evaluated. -/
def contributing (contents : String → Content) : List Outline → Except Fault (List Outline)
  | [] => .ok []
  | outline :: outlines => do
    let here ← contributes contents outline
    let others ← contributing contents outlines
    return if here then outline :: others else others

/-- What the elements that contribute are read as. -/
def collect {α : Type} (read : Outline → Option α) (contents : String → Content)
    (parts : List Outline) : Except Fault (Option (List α)) :=
  (contributing contents parts).map (·.mapM read)

namespace WritingLemmas

variable {α : Type} {contents : String → Content} {items : List α} {field : α → Field}

theorem contributes_ifOutline {field : Field} (named : IsTestName field.name) (text : String)
    (inside : List Outline) :
    contributes contents (ifOutline (presentTest field) text inside)
      = .ok (field.isPresent contents) := by
  rw [ifOutline, contributes, if_pos rfl]
  exact EffectLemmas.holds_presentTest named

/-- By induction on the items: each is decided by its own field. -/
theorem contributing_ifOutlines (named : ∀ item ∈ items, IsTestName (field item).name)
    (text : α → String) :
    contributing contents
        (items.map fun item => ifOutline (presentTest (field item)) (text item) [])
      = .ok ((items.filter fun item => (field item).isPresent contents).map fun item =>
          ifOutline (presentTest (field item)) (text item) []) := by
  induction items with
  | nil => rfl
  | cons item items ih =>
    rw [List.map_cons, contributing, contributes_ifOutline (named item (by simp)),
      ih fun other mem => named other (List.mem_cons_of_mem _ mem), List.filter_cons]
    cases (field item).isPresent contents <;> rfl

end WritingLemmas

open WritingLemmas

/-- Items that depend on their fields come to those of the fields that are present. -/
theorem collect_ifOutlines {α β : Type} (contents : String → Content) {items : List α}
    {field : α → Field}
    (named : ∀ item ∈ items, IsTestName (field item).name) {text : α → String}
    {read : Outline → Option β} {meaning : α → β}
    (reads : ∀ item ∈ items,
      read (ifOutline (presentTest (field item)) (text item) []) = some (meaning item)) :
    collect read contents
        (items.map fun item => ifOutline (presentTest (field item)) (text item) [])
      = .ok (some ((items.filter fun item => (field item).isPresent contents).map meaning)) := by
  rw [collect, contributing_ifOutlines named, Except.map,
    mapM_map_of_reads fun item mem => reads item (List.mem_filter.mp mem).1]

/-! ## 2. Updates -/

/-- The column that an element sets, and the value that it is set to. -/
def readAssignment : Outline → Option (String × String)
  | .element _ _ [column, equals, value] [] =>
    if equals = "=" then
      (between "" "," value.toList).map fun value => (column, String.ofList value)
    else none
  | _ => none

/-- The statement of an update, with what its `set` element contains. -/
def updateMarkup (query : Query) (content : String) : String :=
  openingTag "update" (statementAttributes query)
    ++ "\n    UPDATE " ++ snakeCase query.target.name
    ++ "\n    <set>" ++ content ++ "</set>\n"
    ++ (Criteria.ofQuery query).block.render 1
    ++ closingTag "update"

/-- The elements in the content of a `set` element. -/
def readSet (content : String) : Option (List Outline) :=
  (readContent content).map Node.outlines

/-- The lines that set fields. -/
def setContent (fields : List Field) : String :=
  "\n" ++ Block.renderAll 2 (fields.map fun field => ifElement (presentTest field)
      [textLine (snakeCase field.name ++ " = " ++ placeholder field.name ++ ",")])
    ++ "    "

/-- The elements that set fields. -/
def settingOutlines (fields : List Field) : List Outline :=
  fields.map fun field => ifOutline (presentTest field)
    (snakeCase field.name ++ " = " ++ placeholder field.name ++ ",") []

/-- An update sets the fields that source and target share. -/
theorem text_markup_of_update {query : Query} (updates : query.operation = .update) :
    query.text .markup = updateMarkup query (setContent query.sharedFields) := by
  have children : (Statement.ofQuery query).document.children
      = [textLine ("UPDATE " ++ snakeCase query.target.name),
         .element "set" [] (query.sharedFields.map fun field => ifElement (presentTest field)
           [textLine (snakeCase field.name ++ " = " ++ placeholder field.name ++ ",")]),
         (Criteria.ofQuery query).block] := by
    simp only [Statement.document, Statement.ofQuery, Action.ofQuery, updates]
    rw [Action.blocks, List.map_map]
    rfl
  have tag : query.operation.statementTag = "update" := by rw [updates]; rfl
  have text := render_document (Statement.ofQuery query).document
  rw [tag_document, attributes_document, children, tag] at text
  have indentation : indent 1 = "    " := rfl
  have opening : openingTag "set" [] = "<set>" := rfl
  have closing : closingTag "set" = "</set>" := rfl
  refine text.trans ?_
  simp only [Block.renderAll, textLine, Block.render, updateMarkup, setContent, indentation,
    opening, closing]
  generalize Block.renderAll (1 + 1) _ = lines
  apply String.toList_injective
  simp [Inline.render]

/-- The elements that set fields are read back from their lines. -/
theorem readSet_setContent {fields : List Field}
    (word : ∀ field ∈ fields, HasWordChars field.name) :
    readSet (setContent fields) = some (settingOutlines fields) := by
  have lineBreak : Shows "\n" [] [] := Shows.space (by decide)
  have lines := shows_settings 2 fun field mem => isPlain_of_hasWordChars (word field mem)
  have indentation : Shows "    " [] [] := Shows.space (by decide)
  obtain ⟨nodes, reads, -, outlines⟩ := ((lineBreak.append lines).append indentation).reads
  rw [readSet, setContent, readContent_of_reads reads, Option.map_some, outlines]
  simp [settingOutlines]

namespace WritingLemmas

theorem isWord_comma {word : String} (isWord : IsWord word) : IsWord (word ++ ",") :=
  ⟨by simp, forall_append isWord.noSpace (by decide)⟩

theorem between_comma (word : String) : between "" "," (word ++ ",").toList = some word.toList := by
  rw [String.toList_append]
  exact between_append "" "," word.toList

theorem readAssignment_ifOutline {name : String} (named : isIdentifier name = true) (test : Test) :
    readAssignment (ifOutline test (snakeCase name ++ " = " ++ placeholder name ++ ",") [])
      = some (snakeCase name, placeholder name) := by
  have column := isWord_snakeCase (isIdentifier_ne_nil named) (isWordChar_of_mem named)
  have value := isWord_placeholder named
  have text : snakeCase name ++ " = " ++ placeholder name ++ ","
      = snakeCase name ++ " " ++ ("=" ++ " " ++ (placeholder name ++ ",")) := by
    apply String.toList_injective
    simp
  have words : wordsOf (snakeCase name ++ " = " ++ placeholder name ++ ",").toList
      = [snakeCase name, "=", placeholder name ++ ","] := by
    rw [text, wordsOf_append_space, wordsOf_append_space, wordsOf_of_isWord column,
      wordsOf_of_isWord (isWord_comma value), show wordsOf "=".toList = ["="] by decide]
    rfl
  rw [ifOutline, words, readAssignment, if_pos rfl, between_comma, Option.map_some,
    String.ofList_toList]

end WritingLemmas

/-- What the part of an update that sets columns comes to: the present fields are set, each in the
column of its own name. -/
theorem collect_settings (contents : String → Content) {fields : List Field}
    (named : ∀ field ∈ fields, IsTestName field.name) :
    collect readAssignment contents (settingOutlines fields)
      = .ok (some ((fields.filter (·.isPresent contents)).map fun field =>
          (snakeCase field.name, placeholder field.name))) :=
  collect_ifOutlines contents named fun field mem =>
    readAssignment_ifOutline (named field mem).1 (presentTest field)

/-! ## 3. Lists -/

/-- The item that an element adds to a list: a word with a comma behind it. -/
def readItem : Outline → Option String
  | .element _ _ [word] [] => (between "" "," word.toList).map String.ofList
  | _ => none

/-- The elements of a list in parentheses, whose last comma is dropped. -/
def readList (opening : String) : Outline → Option (List Outline)
  | .element tag attributes [] inside =>
    if tag = "trim" ∧ attributes
        = [⟨"prefix", opening⟩, ⟨"suffix", ")"⟩, ⟨"suffixOverrides", ","⟩] then
      some inside
    else none
  | _ => none

/-- The elements of the columns and of the values in the content of an insertion. -/
def readLists (content : String) : Option (List Outline × List Outline) := do
  match Node.outlines (← readContent content) with
  | [columns, values] => return (← readList "(" columns, ← readList "VALUES (" values)
  | _ => none

/-- The elements of a list with one item for each selected field. -/
def itemOutlines (item : Selection → String) (query : Query) : List Outline :=
  query.selections.map fun selection =>
    ifOutline (presentTest selection.field) (item selection ++ ",") []

namespace WritingLemmas

theorem readItem_ifOutline {word : String} (isWord : IsWord word) (test : Test) :
    readItem (ifOutline test (word ++ ",") []) = some word := by
  rw [ifOutline, wordsOf_of_isWord (isWord_comma isWord), readItem, between_comma,
    Option.map_some, String.ofList_toList]

theorem readList_trimOutline (opening : String) (item : Selection → String) (query : Query) :
    readList opening (trimOutline opening item query) = some (itemOutlines item query) := by
  rw [trimOutline, readList, if_pos ⟨rfl, rfl⟩, itemOutlines]

end WritingLemmas

/-- Between the tags of an insertion, its columns and its values are two lists with an item for each
selected field. -/
theorem readLists_ofQuery {query : Query} (inserts : query.operation = .insert)
    (table : HasWordChars query.target.name)
    (named : ∀ selection ∈ query.selections, HasWordChars selection.name)
    (columns : ∀ selection ∈ query.selections, HasWordChars selection.column) :
    ∃ content, query.text .markup = statementMarkup query content
      ∧ readLists content
        = some (itemOutlines (snakeCase ·.column) query,
          itemOutlines (placeholder ·.name) query) := by
  have line := shows_textLine 1 ((show IsText "INSERT INTO " by decide).append
    (isText_of_plain (isPlain_snakeCase (isPlain_of_hasWordChars table))))
  have lists := shows_lists 1
    (fun selection mem => isPlain_of_hasWordChars (named selection mem))
    (fun selection mem => isPlain_of_hasWordChars (columns selection mem))
  have blocks : Shows (Block.renderAll 1 (Statement.ofQuery query).document.children)
      (wordsOf ("INSERT INTO " ++ snakeCase query.target.name).toList ++ [])
      [trimOutline "(" (snakeCase ·.column) query,
        trimOutline "VALUES (" (placeholder ·.name) query] := by
    simp only [Statement.document, Statement.ofQuery, Action.ofQuery, inserts]
    rw [Action.blocks, List.map_map]
    exact line.append lists
  obtain ⟨content, nodes, text, reads, outlines⟩ := exists_content blocks
  refine ⟨content, text, ?_⟩
  rw [readLists, reads, Option.bind_eq_bind, Option.bind_some, outlines]
  simp only [readList_trimOutline, Option.bind_eq_bind, Option.bind_some]
  rfl

/-! ## 4. Insertions -/

/-- What the lists of an insertion contribute is aligned: there is one column and one value for
every selected field that is present, in the order of the selections. Each column is that of its
field in snake case, each value stands for what is passed under its field's name. -/
theorem insertion_aligned (query : Query) (inserts : query.operation = .insert)
    (table : HasWordChars query.target.name)
    (named : ∀ selection ∈ query.selections, IsTestName selection.name)
    (word : ∀ selection ∈ query.selections, HasWordChars selection.column) :
    ∃ content columnParts valueParts, query.text .markup = statementMarkup query content
      ∧ readLists content = some (columnParts, valueParts)
      ∧ ∀ contents, ∃ columns values,
        collect readItem contents columnParts = .ok (some columns)
        ∧ collect readItem contents valueParts = .ok (some values)
        ∧ columns.length = values.length
        ∧ columns.length = (query.presentSelections contents).length
        ∧ ∀ (k : Nat) (selection : Selection),
          (query.presentSelections contents)[k]? = some selection →
          columns[k]? = some (snakeCase selection.column)
          ∧ values[k]? = some (placeholder selection.name) := by
  have isName (selection : Selection) (mem : selection ∈ query.selections) :
      isIdentifier selection.name = true := (named selection mem).1
  -- An empty column stands for the field's name, which is not empty.
  have notEmpty (selection : Selection) (mem : selection ∈ query.selections) :
      selection.column.toList ≠ [] := by
    rw [Selection.column]
    split
    · exact isIdentifier_ne_nil (isName selection mem)
    · next given => simpa using given
  obtain ⟨content, text, lists⟩ := readLists_ofQuery inserts table
    (fun selection mem => isWordChar_of_mem (isName selection mem)) word
  refine ⟨content, _, _, text, lists, fun contents => ?_⟩
  refine ⟨(query.presentSelections contents).map (snakeCase ·.column),
    (query.presentSelections contents).map (placeholder ·.name), ?_, ?_, by simp, by simp,
    fun k selection found => ?_⟩
  · exact collect_ifOutlines contents named fun selection mem =>
      readItem_ifOutline (isWord_snakeCase (notEmpty selection mem) (word selection mem))
        (presentTest selection.field)
  · exact collect_ifOutlines contents named fun selection mem =>
      readItem_ifOutline (isWord_placeholder (isName selection mem)) (presentTest selection.field)
  · rw [List.getElem?_map, List.getElem?_map, found]
    exact ⟨rfl, rfl⟩

/-- An insertion of an order whose code is given as text and as a number. -/
def orderInsertion : Query where
  source := ⟨"Order", "app.Order", [⟨"code", "String"⟩, ⟨"tags", "List<String>"⟩]⟩
  target := ⟨"StoredOrder", "app.StoredOrder", []⟩
  selections :=
    [⟨⟨"code", "String"⟩, .eq, .and, ""⟩, ⟨⟨"code", "Integer"⟩, .eq, .and, "codeNumber"⟩,
     ⟨⟨"tags", "List<String>"⟩, .eq, .and, ""⟩]
  operation := .insert
  selections_ne_nil := by decide
  fits := by decide

/-- Nothing but the code is empty, which is enough for a number and not for a text. -/
def emptyCode (name : String) : Content :=
  if name = "code" then .empty else .filled

theorem orderInsertion_aligned :
    orderInsertion.operation = .insert ∧ HasWordChars orderInsertion.target.name
      ∧ (∀ selection ∈ orderInsertion.selections, IsTestName selection.name)
      ∧ (∀ selection ∈ orderInsertion.selections, HasWordChars selection.column)
      ∧ ∃ content columnParts valueParts columns values,
        orderInsertion.text .markup = statementMarkup orderInsertion content
        ∧ readLists content = some (columnParts, valueParts)
        ∧ collect readItem emptyCode columnParts = .ok (some columns)
        ∧ collect readItem emptyCode valueParts = .ok (some values)
        ∧ columns.length = 2 ∧ values.length = 2
        ∧ columns[0]? = some "code_number" ∧ values[0]? = some "#\x7bcode\x7d"
        ∧ columns[1]? = some "tags" ∧ values[1]? = some "#\x7btags\x7d" := by
  have named : ∀ selection ∈ orderInsertion.selections, IsTestName selection.name := by decide
  have word : ∀ selection ∈ orderInsertion.selections, HasWordChars selection.column := by decide
  obtain ⟨content, columnParts, valueParts, text, lists, each⟩ :=
    insertion_aligned orderInsertion rfl (by decide) named word
  obtain ⟨columns, values, ofColumns, ofValues, alike, length, place⟩ := each emptyCode
  have two : columns.length = 2 := length.trans (by decide)
  obtain ⟨first, firstValue⟩ := place 0 _ rfl
  obtain ⟨second, secondValue⟩ := place 1 _ rfl
  exact ⟨rfl, by decide, named, word, content, columnParts, valueParts, columns, values, text,
    lists, ofColumns, ofValues, two, alike.symm.trans two, first.trans (by decide),
    firstValue.trans (by decide), second.trans (by decide), secondValue.trans (by decide)⟩

end Mapper

end QueryScribe
