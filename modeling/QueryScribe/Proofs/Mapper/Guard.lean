import QueryScribe.Proofs.Mapper.Assembly
import QueryScribe.Proofs.Mapper.Clause
import QueryScribe.Proofs.Mapper.Effect

/-!
# Guarded statements

A guarded statement is assembled from its text. Names go into the text as they are: one that holds
markup of its own can take a statement apart, so that nothing is left of its criteria. With plain
names, a statement never comes without a condition, and when what is needed is missing, the first
condition is the one that is never true.

Results:
1. `assembles_clause`, `assembles_criteria`: what the criteria of a query are assembled to.
2. `assemble_markup`: what the text of a guarded query is assembled to.
3. `guarded_has_condition`: no guarded statement is assembled without a condition.
4. `guard_decides_iff`: when the guard keeps a statement from having an effect.
-/

namespace QueryScribe.Mapper

open Markup AssemblyLemmas ClauseLemmas EffectLemmas OutlineLemmas

variable {contents : String → Content}

/-! ## SQL of conditions -/

/-- The comparison of a clause in SQL. The values to look among are written as a list of one. -/
def Clause.comparison (clause : Clause) : String :=
  match clause.operator with
  | .like => clause.column ++ " LIKE CONCAT('%', " ++ placeholder clause.field ++ ", '%')"
  | .isIn => clause.column ++ " IN (" ++ placeholder "item" ++ ")"
  | operator => clause.column ++ " " ++ operator.symbol ++ " " ++ placeholder clause.field

/-- The words of a clause: its connector and its comparison. -/
def Clause.words (clause : Clause) : List String :=
  clause.connector.keyword :: wordsOf clause.comparison.toList

namespace Condition

/-- A condition in SQL, without its connector. -/
def comparison : Condition → String
  | never => "1=0"
  | clause _ body => body.comparison

/-- The words of a condition as it stands in criteria. The one that is never true has no
connector. -/
def words : Condition → List String
  | never => ["1=0"]
  | clause _ body => body.words

end Condition

/-- The words of criteria: the first condition joins nothing. -/
def criteriaWords : List Condition → List String
  | [] => []
  | first :: others => "WHERE" :: (wordsOf first.comparison.toList ++ others.flatMap (·.words))

/-! ## 1. Criteria -/

namespace GuardLemmas

/-- A comparison has words, since its value has a place. -/
theorem wordsOf_comparison_ne_nil (condition : Condition) :
    wordsOf condition.comparison.toList ≠ [] := by
  rw [ne_eq, wordsOf_eq_nil_iff, Bool.not_eq_true, isSpaceOnly, List.all_eq_false]
  cases condition with
  | never => exact ⟨'1', by decide⟩
  | clause position body =>
    refine ⟨'#', ?_, by decide⟩
    rw [Condition.comparison, Clause.comparison]
    cases body.operator <;> simp [placeholder]

theorem wordsOf_comparison_never : wordsOf Condition.never.comparison.toList = ["1=0"] := by
  decide

/-- The words of conditions inside a `where` element. -/
theorem whereWords_flatMap (conditions : List Condition) :
    whereWords (conditions.flatMap (·.words)) = criteriaWords conditions := by
  match conditions with
  | [] => rfl
  | .never :: others =>
    have notConnector : ¬ ("1=0" ∈ connectors ∧ others.flatMap (·.words) ≠ []) :=
      fun both => absurd both.1 (by decide)
    rw [List.flatMap_cons, Condition.words, List.singleton_append, whereWords, if_neg notConnector,
      criteriaWords, wordsOf_comparison_never]
    rfl
  | .clause position body :: others =>
    have isConnector : body.connector.keyword ∈ connectors := by
      cases body.connector <;> decide
    have written : wordsOf body.comparison.toList ++ others.flatMap (·.words) ≠ [] :=
      List.append_ne_nil_of_left_ne_nil (wordsOf_comparison_ne_nil (.clause position body)) _
    rw [List.flatMap_cons, Condition.words, Clause.words, List.cons_append, whereWords,
      if_pos ⟨isConnector, written⟩]
    rfl

/-- A list of values is assembled to a list of one. -/
theorem assembles_list (depth : Nat) {collection : String} (plain : IsPlain collection) :
    Assembles contents (Block.render depth (.line [.element "foreach"
        [⟨"item", "item"⟩, ⟨"index", "index"⟩, ⟨"collection", collection⟩, ⟨"open", "("⟩,
          ⟨"separator", ","⟩, ⟨"close", ")"⟩] (placeholder "item")]))
      ["(#\x7bitem\x7d)"] := by
  have block := Assembles.line depth (reads_piece (reads_list plain))
    (assembleAll_single (assemble_element (by decide) _ (assembleAll_chars contents _)))
  have frame : Frame.ofElement? "foreach" [⟨"item", "item"⟩, ⟨"index", "index"⟩,
      ⟨"collection", collection⟩, ⟨"open", "("⟩, ⟨"separator", ","⟩, ⟨"close", ")"⟩]
      = some ⟨"(", ")", false, false⟩ := by
    simp [Frame.ofElement?, attribute?]
  have words : wordsOf (Frame.around ⟨"(", ")", false, false⟩ (placeholder "item").toList)
      = ["(#\x7bitem\x7d)"] := by decide
  rwa [elementSql, frame, words] at block

/-- A comparison by a symbol is assembled to the symbol itself. -/
theorem assembles_comparison (depth : Nat) {start value : String} (isStart : IsText start)
    (isValue : IsText value) (symbol : String) :
    Assembles contents (Block.render depth (textLine (start ++ escape symbol ++ " " ++ value)))
      (wordsOf (start ++ symbol ++ " " ++ value).toList) :=
  Assembles.line depth (reads_piece (reads_comparison isStart symbol isValue))
    (assembleAll_chars contents _)

end GuardLemmas

open GuardLemmas

/-- The lines of a clause are assembled to its connector and its comparison. -/
theorem assembles_clause (depth : Nat) {selection : Selection} (plain : IsPlain selection.name)
    (column : IsPlain selection.column) :
    Assembles contents (Block.renderAll depth (Clause.ofSelection selection).lines)
      (Clause.ofSelection selection).words := by
  have start := isText_start column
  have value := isText_placeholder plain
  rw [Clause.words, ← wordsOf_connector, Clause.comparison, Clause.ofSelection, Clause.lines]
  cases selection.operator with
  | like =>
    have isText := (start.append (show IsText "LIKE CONCAT('%', " by decide)).append
      (value.append (show IsText ", '%')" by decide))
    have line : Assembles contents _ _ := Assembles.textLine depth isText
    simp only [String.append_assoc, String.reduceAppend] at line ⊢
    exact line.single
  | isIn =>
    have line : Assembles contents _ _ :=
      Assembles.textLine depth (start.append (show IsText "IN" by decide))
    have lines := line.append (assembles_list depth plain).single
    have text : selection.connector.keyword
          ++ (" " ++ (snakeCase selection.column ++ " IN (" ++ placeholder "item" ++ ")"))
        = selection.connector.keyword ++ " " ++ snakeCase selection.column ++ " " ++ "IN" ++ " "
          ++ "(#\x7bitem\x7d)" := by
      rw [show placeholder "item" = "#\x7bitem\x7d" by decide]
      simp only [String.append_assoc, String.reduceAppend]
    rw [text, wordsOf_append_space,
      show wordsOf "(#\x7bitem\x7d)".toList = ["(#\x7bitem\x7d)"] by decide]
    exact lines
  | _ =>
    have line (symbol : String) : Assembles contents _ _ :=
      assembles_comparison depth start value symbol
    simp only [String.append_assoc] at line ⊢
    exact (line _).single

namespace GuardLemmas

variable {query : Query}

theorem assembles_neverTrue (depth : Nat) :
    Assembles contents (Block.render depth neverTrue) ["1=0"] := by
  have text : Markup.Reads (Inline.text "1=0 ").render _ := Markup.Reads.text (by decide)
  have comment : Markup.Reads (Inline.comment " no usable criteria ").render _ :=
    Markup.Reads.comment (by decide)
  have sql : assembleAll contents ("1=0 ".toList.map .char ++ [.comment " no usable criteria "])
      = .ok "1=0 ".toList := by
    have front := assembleAll_chars contents "1=0 ".toList
    exact assembleAll_append front (assembleAll_single rfl)
  have line := Assembles.line depth (reads_pieces_cons text (reads_piece comment)) sql
  rwa [show wordsOf "1=0 ".toList = ["1=0"] by decide] at line

/-- The guard is there when the criteria are unusable. -/
theorem assembles_guard (depth : Nat)
    (named : ∀ selection ∈ query.selections, IsTestName selection.name)
    (plain : ∀ selection ∈ query.selections, IsPlain selection.name) :
    Assembles contents (Block.renderAll depth
        ((Criteria.ofQuery query).unusable.toList.map fun test => ifElement test [neverTrue]))
      ((guardClauses contents query).flatMap (·.words)) := by
  have never : Assembles contents _ _ := (assembles_neverTrue (depth + 1)).single
  have guard := never.ifElement depth (isValue_unusableTest plain)
    (holds_unusableTest contents named)
  rw [Criteria.ofQuery, guardClauses]
  cases query.operation.isGuarded with
  | false => exact Assembles.nil
  | true =>
    cases lacks : query.lacksCriteria contents <;> rw [lacks] at guard <;> exact guard.single

/-- The words of the present fields' conditions, field by field. -/
theorem words_presentClauses (contents : String → Content) (query : Query) :
    (presentClauses contents query).flatMap (·.words)
      = query.selections.flatMap fun selection =>
          if selection.isPresent contents then (Clause.ofSelection selection).words else [] := by
  have numbered (items : List (Selection × Nat)) :
      ((items.filter fun item => item.1.isPresent contents).map fun item =>
          Condition.clause item.2 (Clause.ofSelection item.1)).flatMap (·.words)
        = (items.map (·.1)).flatMap fun selection =>
            if selection.isPresent contents then (Clause.ofSelection selection).words else [] := by
    induction items with
    | nil => rfl
    | cons item items ih =>
      rw [List.filter_cons, List.map_cons, List.flatMap_cons, ← ih]
      cases item.1.isPresent contents <;> rfl
  have whole := numbered query.selections.zipIdx
  rwa [List.zipIdx_map_fst] at whole

end GuardLemmas

/-- The criteria of a query are assembled to the conditions that they put into effect. -/
theorem assembles_criteria (depth : Nat) {query : Query}
    (named : ∀ selection ∈ query.selections, IsTestName selection.name)
    (plain : ∀ selection ∈ query.selections, IsPlain selection.name)
    (columns : ∀ selection ∈ query.selections, IsPlain selection.column) :
    Assembles contents (Block.render depth (Criteria.ofQuery query).block)
      (criteriaWords (guardClauses contents query ++ presentClauses contents query)) := by
  have clause (selection : Selection) (mem : selection ∈ query.selections) :
      Assembles contents (Block.render (depth + 1)
          (ifElement (presentTest selection.field) (Clause.ofSelection selection).lines))
        (if selection.isPresent contents then (Clause.ofSelection selection).words else []) := by
    refine .ifElement (depth + 1) (isValue_presentTest (plain selection mem))
      (holds_presentTest (named selection mem)) ?_
    exact assembles_clause (depth + 2) (plain selection mem) (columns selection mem)
  have both := (assembles_guard (depth + 1) named plain).append
    (assembles_renderAll_map (depth + 1) clause)
  rw [← renderAll_append, ← words_presentClauses, ← List.flatMap_append] at both
  rw [← whereWords_flatMap, Criteria.block, Criteria.ofQuery, List.map_map]
  exact both.whereElement depth

/-! ## 2. Statements -/

namespace GuardLemmas

variable {query : Query}

/-- The part of an update that sets columns is assembled, whatever it comes to. -/
theorem assembles_assignments (depth : Nat) (plain : query.HasPlainContent)
    (named : ∀ field ∈ query.source.fields, IsTestName field.name) (contents : String → Content) :
    ∃ words, Assembles contents (Block.render depth (.element "set" []
        (query.sharedFields.map fun field => ifElement (presentTest field)
          [textLine (snakeCase field.name ++ " = " ++ placeholder field.name ++ ",")]))) words := by
  have setting (field : Field) (shared : field ∈ query.sharedFields) :
      Assembles contents
        (Block.render (depth + 1) (ifElement (presentTest field)
          [textLine (snakeCase field.name ++ " = " ++ placeholder field.name ++ ",")]))
        (if field.isPresent contents then
          wordsOf (snakeCase field.name ++ " = " ++ placeholder field.name ++ ",").toList
        else []) := by
    have declared := (List.mem_filter.mp shared).1
    have isPlain := plain.declared field declared
    exact (Assembles.textLine (depth + 2) (isText_setting isPlain)).single.ifElement (depth + 1)
      (isValue_presentTest isPlain) (holds_presentTest (named field declared))
  have written : WellWritten [] := .of_names [] rfl (by simp) .nil (by simp)
  obtain ⟨sql, -, block⟩ := Assembles.element depth (show isName "set" = true by decide)
    (by decide) written (assembles_renderAll_map (depth + 1) setting)
  exact ⟨_, block⟩

/-- A guarded statement is what it opens with and its criteria, unless it is skipped. -/
theorem assembles_blocks (depth : Nat) (plain : query.HasPlainContent) (named : query.HasTestNames)
    (guarded : query.operation ∈ [.select, .update, .delete]) (contents : String → Content) :
    ∃ opening, Assembles contents
      (Block.renderAll depth ((Action.ofQuery query).blocks (snakeCase query.target.name)))
      (if query.isSkipped contents then []
      else opening
        ++ criteriaWords (guardClauses contents query ++ presentClauses contents query)) := by
  have text (depth : Nat) {start : String} (isText : IsText start) :
      Assembles contents (Block.render depth (textLine (start ++ snakeCase query.target.name)))
        (wordsOf (start ++ snakeCase query.target.name).toList) :=
    Assembles.textLine depth (isText.append (isText_table plain))
  have criteria (depth : Nat) : Assembles contents _ _ :=
    (assembles_criteria depth named.selected plain.selected plain.columns).single
  simp only [List.mem_cons, List.not_mem_nil, or_false] at guarded
  rw [Action.ofQuery, Query.isSkipped]
  rcases guarded with operation | operation | operation <;> rw [operation]
  · have columns : Assembles contents _ _ := Assembles.textLine depth
      ((show IsText "SELECT " by decide).append (isText_columns plain))
    have whole := columns.append
      ((text depth (show IsText "FROM " by decide)).append (criteria depth))
    rw [← List.append_assoc] at whole
    exact ⟨_, whole⟩
  · obtain ⟨words, assignments⟩ := assembles_assignments depth plain named.declared contents
    have whole := (text depth (show IsText "UPDATE " by decide)).append
      (assignments.append (criteria depth))
    rw [← List.append_assoc] at whole
    rw [Action.blocks, List.map_map]
    exact ⟨_, whole⟩
  -- A deletion stands under a test as a whole: the opposite of what it is skipped for.
  · have body : Assembles contents (Block.renderAll (depth + 1)
        [textLine ("DELETE FROM " ++ snakeCase query.target.name), (Criteria.ofQuery query).block])
        _ :=
      (text (depth + 1) (show IsText "DELETE FROM " by decide)).append (criteria (depth + 1))
    have whole := body.ifElement depth (isValue_suppliedTest plain.selected)
      (holds_suppliedTest contents named.selected)
    have complement : (query.selections.all fun selection => contents selection.name = .null)
        = !query.selections.any fun selection => contents selection.name ≠ .null := by
      simp [List.not_any_eq_all_not]
    refine ⟨wordsOf ("DELETE FROM " ++ snakeCase query.target.name).toList, ?_⟩
    rw [complement, Action.blocks]
    cases supplied : query.selections.any fun selection => contents selection.name ≠ .null with
    | true =>
      rw [supplied, if_pos rfl] at whole
      rw [if_neg (by decide)]
      exact whole.single
    | false =>
      rw [supplied, if_neg (by decide)] at whole
      rw [if_pos (by decide)]
      exact whole.single

end GuardLemmas

/-- The text of a guarded query with plain names is read back, and what is read comes to what the
statement opens with and the conditions in effect, unless the statement is skipped. -/
theorem assemble_markup {query : Query} (plain : query.HasPlainNames) (named : query.HasTestNames)
    (guarded : query.operation ∈ [.select, .update, .delete]) (contents : String → Content) :
    ∃ statement sql opening, readDocument (query.text .markup) = some statement
      ∧ assemble contents statement = .ok sql
      ∧ wordsOf sql = if query.isSkipped contents then []
        else opening
          ++ criteriaWords (guardClauses contents query ++ presentClauses contents query) := by
  obtain ⟨opening, blocks⟩ :=
    assembles_blocks 1 plain.toHasPlainContent named guarded contents
  have isTag : isName (Statement.ofQuery query).document.tag = true := by
    rw [tag_document]
    cases query.operation <;> decide
  have written : WellWritten (Statement.ofQuery query).document.attributes := by
    rw [attributes_document]
    exact wellWritten_statementAttributes plain
  have notIf : (Statement.ofQuery query).document.tag ≠ "if" := by
    rw [tag_document]
    cases query.operation <;> decide
  have noFrame : Frame.ofElement? (Statement.ofQuery query).document.tag
      (Statement.ofQuery query).document.attributes = none := by
    rw [tag_document]
    cases query.operation <;> rfl
  obtain ⟨statement, sql, reads, assembled, words⟩ :=
    assemble_readDocument isTag written notIf noFrame blocks
  exact ⟨statement, sql, opening, reads, assembled, words⟩

/-! ## 3. No statement without a condition -/

/-- A guarded statement with plain names is read back and assembled without asking a null for its
emptiness. Only a deletion all of whose values are null comes to nothing; whatever else is assembled
ends in `WHERE` and at least one condition, of which there is something left without the connector
in front. -/
theorem guarded_has_condition (query : Query) (plain : query.HasPlainNames)
    (named : query.HasTestNames) (guarded : query.operation ∈ [.select, .update, .delete])
    (contents : String → Content) :
    ∃ statement sql, readDocument (query.text .markup) = some statement
      ∧ assemble contents statement = .ok sql
      ∧ (wordsOf sql = [] ↔ query.operation = .delete
          ∧ ∀ selection ∈ query.selections, contents selection.name = .null)
      ∧ (wordsOf sql ≠ [] → ∃ opening first others,
          (Criteria.ofQuery query).inEffect contents = .ok (first :: others)
          ∧ wordsOf sql = opening ++ "WHERE" :: (wordsOf first.comparison.toList
            ++ others.flatMap (·.words))
          ∧ wordsOf first.comparison.toList ≠ []) := by
  obtain ⟨statement, sql, opening, reads, assembled, words⟩ :=
    assemble_markup plain named guarded contents
  obtain ⟨first, others, conditions⟩ :=
    List.exists_cons_of_ne_nil (conditions_ne_nil contents (isGuarded_of_mem guarded))
  rw [conditions, criteriaWords] at words
  refine ⟨statement, sql, reads, assembled, ?_, fun emitted => ?_⟩
  · rw [words]
    cases skipped : query.isSkipped contents <;> simpa [Query.isSkipped] using skipped
  · have notSkipped : ¬ query.isSkipped contents = true :=
      fun skipped => emitted (words.trans (if_pos skipped))
    refine ⟨opening, first, others, ?_, words.trans (if_neg notSkipped),
      wordsOf_comparison_ne_nil first⟩
    rw [inEffect_ofQuery contents named.selected, conditions]

/-- A deletion of users by their name, or else by their age. -/
def userDeletion : Query where
  source := ⟨"User", "app.User", [⟨"name", "String"⟩, ⟨"age", "Integer"⟩]⟩
  target := ⟨"User", "app.User", [⟨"name", "String"⟩, ⟨"age", "Integer"⟩]⟩
  selections := [⟨⟨"name", "String"⟩, .eq, .and, ""⟩, ⟨⟨"age", "Integer"⟩, .ge, .or, ""⟩]
  operation := .delete
  selections_ne_nil := by decide
  fits := by decide

/-- Values for a user of whom only the age is known. -/
def onlyAge (name : String) : Content :=
  if name = "age" then .filled else .null

theorem userDeletion_hasTestNames : userDeletion.HasTestNames :=
  ⟨by decide, by decide⟩

theorem userDeletion_hasPlainNames : userDeletion.HasPlainNames :=
  ⟨by constructor <;> decide, by decide, by decide⟩

theorem userDeletion_has_condition :
    ∃ statement sql opening, ∃ first : Condition, ∃ others : List Condition,
      readDocument (userDeletion.text .markup) = some statement
      ∧ assemble onlyAge statement = .ok sql
      ∧ wordsOf sql = opening ++ "WHERE" :: (wordsOf first.comparison.toList
        ++ others.flatMap (·.words)) := by
  obtain ⟨statement, sql, reads, assembled, skipped, ends⟩ :=
    guarded_has_condition userDeletion userDeletion_hasPlainNames userDeletion_hasTestNames
      (by decide) onlyAge
  have emitted : wordsOf sql ≠ [] := fun empty => absurd (skipped.mp empty).2 (by decide)
  obtain ⟨opening, first, others, _, words, _⟩ := ends emitted
  exact ⟨statement, sql, opening, first, others, reads, assembled, words⟩

/-- A deletion from a table whose name closes the element around it. -/
def strayDeletion : Query where
  source := ⟨"User", "app.User", [⟨"name", "String"⟩]⟩
  target := ⟨"user</if><if test=\"name == ''\">", "app.User", [⟨"name", "String"⟩]⟩
  selections := [⟨⟨"name", "String"⟩, .eq, .and, ""⟩]
  operation := .delete
  selections_ne_nil := by decide
  fits := by decide

/-- The text of that deletion, taken apart as a reader does. -/
def strayDocument : Document where
  tag := "delete"
  attributes := [⟨"id", "deleteUser"⟩]
  children :=
    [.line
      [.element "if" [⟨"test", (Test.isNotNull "name").text⟩]
        ("\n" ++ indent 2 ++ "DELETE FROM " ++ "user"),
       .element "if" [⟨"test", (Test.isBlank "name").text⟩]
        ("\n" ++ Block.render 2 (Criteria.ofQuery strayDeletion).block ++ indent 1)]]

namespace GuardLemmas

theorem text_strayDeletion : strayDeletion.text .markup = strayDocument.render := by
  have table : snakeCase strayDeletion.target.name = "user" ++ closingTag "if"
      ++ openingTag "if" [⟨"test", (Test.isBlank "name").text⟩] := by
    decide +kernel
  have document : (Statement.ofQuery strayDeletion).document
      = ⟨"delete", [⟨"id", "deleteUser"⟩],
        [.element "if" [⟨"test", (Test.isNotNull "name").text⟩]
          [textLine ("DELETE FROM " ++ snakeCase strayDeletion.target.name),
            (Criteria.ofQuery strayDeletion).block]]⟩ := rfl
  have text : strayDeletion.text .markup = (Statement.ofQuery strayDeletion).document.render := rfl
  rw [text, document, table, strayDocument]
  simp only [render_document, Block.render, Block.renderAll, textLine, Inline.render, List.map_cons,
    List.map_nil, String.join_cons, String.join_nil, String.append_assoc, String.append_empty,
    -String.reduceAppend]

end GuardLemmas

/-- Without plain names, a deletion can lose its criteria: here they come to stand under a test of
their own, which a name that is given fails. -/
theorem strayDeletion_without_condition :
    strayDeletion.HasTestNames
      ∧ ∃ statement sql, readDocument (strayDeletion.text .markup) = some statement
        ∧ assemble (fun _ => .filled) statement = .ok sql
        ∧ wordsOf sql = ["DELETE", "FROM", "user"] := by
  have named : strayDeletion.HasTestNames := ⟨by decide, by decide⟩
  have isText : IsText ("\n" ++ indent 2 ++ "DELETE FROM " ++ "user") := by decide +kernel
  have present : holds (fun _ => .filled) (Test.isNotNull "name").text = .ok true := by
    decide +kernel
  have notBlank : holds (fun _ => .filled) (Test.isBlank "name").text = .ok false := by
    decide +kernel
  obtain ⟨content, sql, reads, assembled, -⟩ :=
    ((assembles_criteria 2 named.selected (by decide) (by decide)).within 1).assembled
  have first : Markup.Reads (Inline.element "if" [⟨"test", (Test.isNotNull "name").text⟩]
      ("\n" ++ indent 2 ++ "DELETE FROM " ++ "user")).render _ :=
    Markup.Reads.element (by decide) (wellWritten_test (by decide)) (Markup.Reads.text isText)
  have second : Markup.Reads (Inline.element "if" [⟨"test", (Test.isBlank "name").text⟩]
      ("\n" ++ Block.render 2 (Criteria.ofQuery strayDeletion).block ++ indent 1)).render _ :=
    Markup.Reads.element (by decide) (wellWritten_test (by decide)) reads
  have line := Assembles.line 1 (reads_pieces_cons first (reads_piece second))
    (assembleAll_append (assembleAll_single (assemble_if present (assembleAll_chars _ _)))
      (assembleAll_single (assemble_if notBlank assembled)))
  have words : wordsOf ("\n" ++ indent 2 ++ "DELETE FROM " ++ "user").toList
      = ["DELETE", "FROM", "user"] := by decide +kernel
  rw [if_pos rfl, if_neg (by decide), List.append_nil, words] at line
  have isAttribute : WellWritten strayDocument.attributes :=
    .of_names ["id"] rfl (by decide) (by decide) (by decide)
  rw [text_strayDeletion]
  exact ⟨named, assemble_readDocument (by decide) isAttribute (by decide) rfl line.single⟩

/-! ## 4. What the guard's condition achieves -/

/-- Which comparisons hold for a row: of a column, by an operator, with the value of a field. -/
abbrev Truth := String → Operator → String → Bool

namespace Condition

/-- Whether a condition holds for a row. -/
def holdsIn (truth : Truth) : Condition → Bool
  | never => false
  | clause _ body => truth body.column body.operator body.field

/-- Whether the conditions hold, when the conjunction that is open in front of them does or does
not. `AND` goes on with the conjunction, `OR` begins another one. -/
def holdFrom (truth : Truth) (soFar : Bool) : List Condition → Bool
  | [] => soFar
  | condition :: others =>
    match condition.connector with
    | .and => holdFrom truth (soFar && condition.holdsIn truth) others
    | .or => soFar || holdFrom truth (condition.holdsIn truth) others

/-- Whether the conditions behind `WHERE` hold for a row. The first one joins nothing. -/
def hold (truth : Truth) : List Condition → Bool
  | [] => true
  | first :: others => holdFrom truth (first.holdsIn truth) others

end Condition

open Condition

namespace GuardLemmas

theorem holdFrom_false_of_and {truth : Truth} {conditions : List Condition}
    (joined : ∀ condition ∈ conditions, condition.connector = .and) :
    holdFrom truth false conditions = false := by
  induction conditions with
  | nil => rfl
  | cons condition others ih =>
    rw [holdFrom, joined condition (by simp)]
    exact ih fun other mem => joined other (List.mem_cons_of_mem _ mem)

/-- When every comparison holds, a conjunction that has not failed yet does not fail any more. -/
theorem holdFrom_true {conditions : List Condition} (noNever : .never ∉ conditions) :
    holdFrom (fun _ _ _ => true) true conditions = true := by
  induction conditions with
  | nil => rfl
  | cons condition others ih =>
    cases condition with
    | never => exact absurd (by simp) noNever
    | clause position body =>
      have rest := ih fun mem => noNever (List.mem_cons_of_mem _ mem)
      rw [holdFrom]
      cases (Condition.clause position body).connector <;> simp [holdsIn, rest]

theorem holdFrom_of_or {conditions : List Condition} (noNever : .never ∉ conditions)
    {condition : Condition} (mem : condition ∈ conditions) (joined : condition.connector = .or) :
    holdFrom (fun _ _ _ => true) false conditions = true := by
  induction conditions with
  | nil => exact absurd mem List.not_mem_nil
  | cons first others ih =>
    have rest : Condition.never ∉ others := fun mem => noNever (List.mem_cons_of_mem _ mem)
    cases first with
    | never => exact absurd (by simp) noNever
    | clause position body =>
      cases join : (Condition.clause position body).connector with
      | or => simp [holdFrom, join, holdsIn, holdFrom_true rest]
      -- Nothing in front of the `or` brings the failed conjunction back.
      | and =>
        rcases List.mem_cons.mp mem with rfl | mem
        · exact absurd (joined.symm.trans join) (by decide)
        · simpa [holdFrom, join] using ih rest mem

theorem mem_presentClauses {query : Query} {condition : Condition} :
    condition ∈ presentClauses contents query
      ↔ ∃ selection position, (selection, position) ∈ query.selections.zipIdx
        ∧ selection.isPresent contents = true
        ∧ condition = .clause position (Clause.ofSelection selection) := by
  simp only [presentClauses, List.mem_map, List.mem_filter, Prod.exists]
  constructor
  · rintro ⟨selection, position, ⟨mem, isPresent⟩, rfl⟩
    exact ⟨selection, position, mem, isPresent, rfl⟩
  · rintro ⟨selection, position, mem, isPresent, rfl⟩
    exact ⟨selection, position, ⟨mem, isPresent⟩, rfl⟩

end GuardLemmas

/-- When the test of its guard holds, the conditions of a statement begin with the one that is never
true. They fail for every row exactly when no present field is joined by `OR`. With plain names, the
guard is read back from the text, and unless the statement comes to nothing, these are the
conditions that it is assembled to. -/
theorem guard_decides_iff (query : Query) (named : query.HasTestNames)
    (guarded : query.operation ∈ [.select, .update, .delete]) (contents : String → Content)
    {test : Test} (isGuard : (Criteria.ofQuery query).unusable = some test)
    (unusable : holds contents test.text = .ok true) :
    ∃ clauses, (Criteria.ofQuery query).inEffect contents = .ok (.never :: clauses)
      ∧ ((∀ truth, hold truth (.never :: clauses) = false)
        ↔ ∀ selection ∈ query.selections, selection.isPresent contents = true →
            selection.connector = .and)
      ∧ (query.HasPlainNames → ∃ statement sql,
        readDocument (query.text .markup) = some statement
        ∧ statement.outline?.map guards = some [test.text]
        ∧ assemble contents statement = .ok sql
        ∧ (wordsOf sql ≠ [] → ∃ opening,
          wordsOf sql = opening ++ "WHERE" :: "1=0" :: clauses.flatMap (·.words))) := by
  have isGuarded := isGuarded_of_mem guarded
  have lacks : query.lacksCriteria contents = true := by
    have asks := isGuard
    rw [Criteria.ofQuery, isGuarded, if_pos rfl, Option.some.injEq] at asks
    rw [← asks, holds_unusableTest contents named.selected] at unusable
    exact Except.ok.inj unusable
  have guardHolds : guardClauses contents query = [.never] := by
    rw [guardClauses, isGuarded, lacks]
    rfl
  have inEffect := inEffect_ofQuery contents named.selected
  rw [guardHolds, List.singleton_append] at inEffect
  refine ⟨presentClauses contents query, inEffect, ⟨?_, ?_⟩, fun plain => ?_⟩
  -- A present field joined by `or` would begin a conjunction that holds for some row.
  · intro fails selection mem isPresent
    cases join : selection.connector with
    | and => rfl
    | or =>
      obtain ⟨position, inRange, rfl⟩ := List.getElem_of_mem mem
      have clause : Condition.clause position (Clause.ofSelection query.selections[position])
          ∈ presentClauses contents query :=
        mem_presentClauses.mpr ⟨_, position,
          List.mem_zipIdx_iff_getElem?.mpr (List.getElem?_eq_getElem inRange), isPresent, rfl⟩
      have noNever : Condition.never ∉ presentClauses contents query := by
        intro never
        obtain ⟨_, _, _, _, same⟩ := mem_presentClauses.mp never
        exact Condition.noConfusion same
      have succeeds := holdFrom_of_or noNever clause join
      exact absurd (succeeds.symm.trans (fails _)) (by decide)
  -- Without `or` there is one conjunction only, and the guard's condition is part of it.
  · intro joined truth
    refine holdFrom_false_of_and fun condition mem => ?_
    obtain ⟨selection, position, item, isPresent, rfl⟩ := mem_presentClauses.mp mem
    exact joined selection (List.fst_mem_of_mem_zipIdx item) isPresent
  · have filtered : query.operation ∈ [.select, .selectPage, .update, .delete] := by
      simp only [List.mem_cons, List.not_mem_nil, or_false] at guarded ⊢
      exact guarded.imp_right .inr
    obtain ⟨statement, sql, opening, reads, assembled, words⟩ :=
      assemble_markup plain named guarded contents
    have outline := outline_markup query plain
    rw [reads, Option.bind_some] at outline
    refine ⟨statement, sql, reads, ?_, assembled, fun emitted => ⟨opening, ?_⟩⟩
    · rw [outline, Option.map_some, guards_statementOutline filtered, isGuard]
      rfl
    · rw [words, if_neg fun skipped => emitted (words.trans (if_pos skipped)), guardHolds,
        List.singleton_append, criteriaWords, wordsOf_comparison_never]
      rfl

theorem userDeletion_guard_fails :
    ∃ clauses, (Criteria.ofQuery userDeletion).inEffect onlyAge = .ok (.never :: clauses)
      ∧ (¬ ∀ truth, hold truth (.never :: clauses) = false)
      ∧ ∃ statement sql, readDocument (userDeletion.text .markup) = some statement
        ∧ assemble onlyAge statement = .ok sql
        ∧ (wordsOf sql ≠ [] → ∃ opening,
          wordsOf sql = opening ++ "WHERE" :: "1=0" :: clauses.flatMap (·.words)) := by
  have test := holds_unusableTest onlyAge userDeletion_hasTestNames.selected
  obtain ⟨clauses, inEffect, decides, text⟩ :=
    guard_decides_iff userDeletion userDeletion_hasTestNames (by decide) onlyAge rfl test
  obtain ⟨statement, sql, reads, _, assembled, ends⟩ := text userDeletion_hasPlainNames
  exact ⟨clauses, inEffect, fun fails => absurd (decides.mp fails) (by decide), statement, sql,
    reads, assembled, ends⟩

/-- A user's age is enough to be deleted, although the name that is asked for as well is missing. -/
theorem userDeletion_hits_rows :
    userDeletion.lacksCriteria onlyAge = true
      ∧ (Criteria.ofQuery userDeletion).inEffect onlyAge
        = .ok [.never, .clause 1 ⟨.or, "age", .ge, "age"⟩]
      ∧ hold (fun _ _ _ => true) [.never, .clause 1 ⟨.or, "age", .ge, "age"⟩] = true
      ∧ ∃ statement sql opening, readDocument (userDeletion.text .markup) = some statement
        ∧ assemble onlyAge statement = .ok sql
        ∧ wordsOf sql = opening
          ++ ["WHERE", "1=0", "OR", "age", ">=", "#\x7bage\x7d"] := by
  have inEffect : guardClauses onlyAge userDeletion ++ presentClauses onlyAge userDeletion
      = [.never, .clause 1 ⟨.or, "age", .ge, "age"⟩] := by decide
  obtain ⟨statement, sql, opening, reads, assembled, words⟩ :=
    assemble_markup userDeletion_hasPlainNames userDeletion_hasTestNames (by decide) onlyAge
  have criteria : criteriaWords [.never, .clause 1 ⟨.or, "age", .ge, "age"⟩]
      = ["WHERE", "1=0", "OR", "age", ">=", "#\x7bage\x7d"] := by decide
  rw [if_neg (by decide), inEffect, criteria] at words
  refine ⟨by decide, ?_, by decide, statement, sql, opening, reads, assembled, words⟩
  rw [inEffect_ofQuery onlyAge userDeletion_hasTestNames.selected, inEffect]

end QueryScribe.Mapper
