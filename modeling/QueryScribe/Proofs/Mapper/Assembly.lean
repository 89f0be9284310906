import Mathlib.Data.List.DropRight
import QueryScribe.Proofs.Mapper.Expression
import QueryScribe.Proofs.Mapper.Outline

/-!
# Assembling statements

A mapper reads the markup of a statement and turns it into SQL whenever the statement is called.
Text is SQL, comments are not. An `if` element contributes its content exactly when its test is
true, and only then are the tests inside it evaluated. A `where` element contributes `WHERE` and its
content, less a connector in front, exactly when there is anything in it besides space. As in an
outline, the words of SQL are what counts, not the space between them.

Results:
1. `wordsOf_eq_nil_iff`, `wordsOf_front`, `wordsOf_elementSql_where`: the words of SQL, and what
   `WHERE` does to them.
2. `Assembles.textLine`, `Assembles.ifElement`, `Assembles.element`, `Assembles.whereElement`: what
   the text of a block is assembled to.
3. `assembles_renderAll_map`: blocks are assembled one after the other.
4. `assemble_readDocument`: what a whole document is assembled to.
-/

namespace QueryScribe.Mapper

open Markup OutlineLemmas

/-! ## SQL -/

/-- The value of an attribute, if it is there. -/
def attribute? (attributes : List Attribute) (name : String) : Option String :=
  (attributes.find? (·.name = name)).map (·.value)

/-- Whether a text is nothing but space. -/
def isSpaceOnly (cs : List Char) : Bool :=
  cs.all Char.isWhitespace

/-- A text without the space at either end. -/
def trimSpace (cs : List Char) : List Char :=
  (cs.dropWhile Char.isWhitespace).rdropWhile Char.isWhitespace

/-- The characters of a text up to the first space. -/
def firstWord (cs : List Char) : List Char :=
  cs.takeWhile (!·.isWhitespace)

/-- The characters of a text from the first space on. -/
def afterWord (cs : List Char) : List Char :=
  cs.dropWhile (!·.isWhitespace)

/-- The words that join conditions. -/
def connectors : List String :=
  ["AND", "OR"]

/-- A text without a connector in front of something else. -/
def dropConnector (cs : List Char) : List Char :=
  if String.ofList (firstWord cs) ∈ connectors ∧ isSpaceOnly (afterWord cs) = false then
    afterWord cs
  else cs

/-- A text without a comma at its end. -/
def dropComma (cs : List Char) : List Char :=
  if cs.getLast? = some ',' then cs.dropLast else cs

/-- How an element puts its content between two texts, and what it drops at the content's ends. -/
structure Frame where
  opening : String
  closing : String
  dropsConnector : Bool
  dropsComma : Bool
  deriving Repr, DecidableEq

namespace Frame

/-- The frame of an element, if it has one. A list of values is written as a list of one. -/
def ofElement? (tag : String) (attributes : List Attribute) : Option Frame :=
  let value (name : String) := (attribute? attributes name).getD ""
  if tag = "where" then some ⟨"WHERE ", "", true, false⟩
  else if tag = "set" then some ⟨"SET ", "", false, true⟩
  else if tag = "trim" then
    some ⟨value "prefix" ++ " ", " " ++ value "suffix", false, value "suffixOverrides" = ","⟩
  else if tag = "foreach" then some ⟨value "open", value "close", false, false⟩
  else none

/-- The content without what the frame drops. -/
def content (frame : Frame) (sql : List Char) : List Char :=
  let cs := trimSpace sql
  let cs := if frame.dropsConnector then dropConnector cs else cs
  if frame.dropsComma then dropComma cs else cs

/-- The content inside the frame. There is no frame around mere space. -/
def around (frame : Frame) (sql : List Char) : List Char :=
  if isSpaceOnly sql then []
  else frame.opening.toList ++ frame.content sql ++ frame.closing.toList

end Frame

/-- The SQL of an element with the given content. -/
def elementSql (tag : String) (attributes : List Attribute) (sql : List Char) : List Char :=
  match Frame.ofElement? tag attributes with
  | some frame => frame.around sql
  | none => sql

mutual

/-- The SQL that a node contributes when the fields hold the given contents. -/
def assemble (contents : String → Content) : Node → Except Fault (List Char)
  | .char c => .ok [c]
  | .comment _ => .ok []
  | .element tag attributes content =>
    if tag = "if" then do
      if ← holds contents ((attribute? attributes "test").getD "") then
        assembleAll contents content
      else return []
    else return elementSql tag attributes (← assembleAll contents content)

/-- The SQL that nodes contribute one after the other. -/
def assembleAll (contents : String → Content) : List Node → Except Fault (List Char)
  | [] => .ok []
  | node :: nodes => do
    let first ← assemble contents node
    let others ← assembleAll contents nodes
    return first ++ others

end

/-! ## 1. Words of SQL -/

namespace AssemblyLemmas

theorem afterWord_cons {cs more : List Char} {c : Char} (rest : afterWord cs = c :: more) :
    c.isWhitespace = true := by
  have stops := List.head?_dropWhile_not (fun c : Char => !c.isWhitespace) cs
  rw [afterWord] at rest
  rw [rest] at stops
  simpa using stops

end AssemblyLemmas

open AssemblyLemmas

/-- A text that does not begin with space begins with its first word. -/
theorem wordsOf_front {c : Char} (notSpace : c.isWhitespace = false) (cs : List Char) :
    wordsOf (c :: cs) = String.ofList (firstWord (c :: cs)) :: wordsOf (afterWord (c :: cs)) := by
  have whole : firstWord (c :: cs) ++ afterWord (c :: cs) = c :: cs :=
    List.takeWhile_append_dropWhile
  have word : IsWord (String.ofList (firstWord (c :: cs))) := by
    refine ⟨by simp [firstWord, notSpace], fun d mem => ?_⟩
    rw [String.toList_ofList] at mem
    simpa using List.mem_takeWhile_imp mem
  have first := wordsOf_of_isWord word
  rw [String.toList_ofList] at first
  conv => lhs; rw [← whole]
  cases rest : afterWord (c :: cs) with
  | nil => rw [List.append_nil, first, wordsOf_nil]
  | cons d more =>
    have space := afterWord_cons rest
    have behind := wordsOf_append_cons [] more space
    rw [wordsOf_nil, List.nil_append, List.nil_append] at behind
    rw [wordsOf_append_cons _ _ space, first, behind]
    rfl

/-- There are no words in mere space, and in nothing else. -/
theorem wordsOf_eq_nil_iff (cs : List Char) : wordsOf cs = [] ↔ isSpaceOnly cs = true := by
  induction cs with
  | nil => simp [wordsOf_nil, isSpaceOnly]
  | cons c cs ih =>
    cases space : c.isWhitespace with
    | true =>
      have rest := wordsOf_append_cons [] cs space
      rw [wordsOf_nil, List.nil_append, List.nil_append] at rest
      rw [rest, ih]
      simp [isSpaceOnly, space]
    | false => simp [wordsOf_front space, isSpaceOnly, space]

namespace AssemblyLemmas

theorem wordsOf_append_space_right (cs : List Char) {space : List Char}
    (blank : isSpaceOnly space = true) : wordsOf (cs ++ space) = wordsOf cs := by
  cases space with
  | nil => rw [List.append_nil]
  | cons c more =>
    rw [isSpaceOnly, List.all_cons, Bool.and_eq_true] at blank
    rw [wordsOf_append_cons _ _ blank.1, (wordsOf_eq_nil_iff more).mpr blank.2, List.append_nil]

theorem wordsOf_trimSpace (cs : List Char) : wordsOf (trimSpace cs) = wordsOf cs := by
  have front : wordsOf (cs.dropWhile Char.isWhitespace) = wordsOf cs := by
    have blank : (cs.takeWhile Char.isWhitespace).all Char.isWhitespace = true :=
      List.all_eq_true.mpr fun c mem => List.mem_takeWhile_imp mem
    conv => rhs; rw [← List.takeWhile_append_dropWhile (p := Char.isWhitespace) (l := cs)]
    exact (wordsOf_append_of_blank blank _).symm
  have blank : isSpaceOnly ((cs.dropWhile Char.isWhitespace).rtakeWhile Char.isWhitespace) = true :=
    List.all_eq_true.mpr fun c mem => List.mem_rtakeWhile_imp mem
  have back := wordsOf_append_space_right (trimSpace cs) blank
  rw [trimSpace, List.rdropWhile_append_rtakeWhile] at back
  rw [trimSpace, ← back, front]

theorem trimSpace_cons {sql cs : List Char} {c : Char} (trimmed : trimSpace sql = c :: cs) :
    c.isWhitespace = false := by
  obtain ⟨dropped, whole⟩ := List.rdropWhile_prefix Char.isWhitespace
    (sql.dropWhile Char.isWhitespace)
  have stops := List.head?_dropWhile_not Char.isWhitespace sql
  rw [trimSpace] at trimmed
  rw [← whole, trimmed] at stops
  simpa using stops

end AssemblyLemmas

/-- The words of a `where` element with the given words in it. -/
def whereWords : List String → List String
  | [] => []
  | first :: others =>
    "WHERE" :: if first ∈ connectors ∧ others ≠ [] then others else first :: others

/-- A `where` element puts one word in front of the words in it, when there are any, and drops
the first of them when it is a connector in front of others. -/
theorem wordsOf_elementSql_where (sql : List Char) :
    wordsOf (elementSql "where" [] sql) = whereWords (wordsOf sql) := by
  have element : elementSql "where" [] sql
      = if isSpaceOnly sql then [] else "WHERE".toList ++ ' ' :: dropConnector (trimSpace sql) := by
    simp [elementSql, Frame.ofElement?, Frame.around, Frame.content]
  rw [element, ← wordsOf_trimSpace sql]
  cases trimmed : trimSpace sql with
  | nil =>
    have blank := (wordsOf_eq_nil_iff sql).mp (by rw [← wordsOf_trimSpace, trimmed, wordsOf_nil])
    rw [if_pos blank, wordsOf_nil, whereWords]
  | cons c cs =>
    have notSpace := trimSpace_cons trimmed
    have front := wordsOf_front notSpace cs
    have written : ¬ isSpaceOnly sql = true := by
      rw [← wordsOf_eq_nil_iff, ← wordsOf_trimSpace, trimmed, front]
      exact List.cons_ne_nil _ _
    have others : isSpaceOnly (afterWord (c :: cs)) = false
        ↔ wordsOf (afterWord (c :: cs)) ≠ [] := by
      rw [ne_eq, wordsOf_eq_nil_iff, Bool.not_eq_true]
    rw [if_neg written, wordsOf_append_cons _ _ (by decide), front, whereWords, dropConnector,
      show wordsOf "WHERE".toList = ["WHERE"] by decide]
    simp only [others]
    split
    · rfl
    · rw [front]
      rfl

/-! ## 2. Blocks -/

namespace AssemblyLemmas

variable {contents : String → Content}

theorem assembleAll_append {nodes more : List Node} {sql others : List Char}
    (here : assembleAll contents nodes = .ok sql) (there : assembleAll contents more = .ok others) :
    assembleAll contents (nodes ++ more) = .ok (sql ++ others) := by
  induction nodes generalizing sql with
  | nil =>
    cases here
    exact there
  | cons node nodes ih =>
    rw [assembleAll] at here
    rw [List.cons_append, assembleAll]
    cases first : assemble contents node with
    | error fault => rw [first] at here; cases here
    | ok front =>
      cases rest : assembleAll contents nodes with
      | error fault => rw [first, rest] at here; cases here
      | ok back =>
        rw [first, rest] at here
        cases here
        rw [ih rest]
        exact congrArg Except.ok (List.append_assoc front back others).symm

theorem assembleAll_single {node : Node} {sql : List Char}
    (assembled : assemble contents node = .ok sql) : assembleAll contents [node] = .ok sql := by
  rw [assembleAll, assembled]
  exact congrArg Except.ok (List.append_nil sql)

theorem assembleAll_chars (contents : String → Content) (cs : List Char) :
    assembleAll contents (cs.map .char) = .ok cs := by
  induction cs with
  | nil => rfl
  | cons c cs ih =>
    rw [List.map_cons, assembleAll, ih]
    rfl

theorem assemble_element {tag : String} (notIf : tag ≠ "if") (attributes : List Attribute)
    {content : List Node} {sql : List Char} (inside : assembleAll contents content = .ok sql) :
    assemble contents (.element tag attributes content) = .ok (elementSql tag attributes sql) := by
  rw [assemble, if_neg notIf, inside]
  rfl

/-- The test of an `if` element decides. -/
theorem assemble_if {test : String} {here : Bool} (value : holds contents test = .ok here)
    {content : List Node} {sql : List Char} (inside : assembleAll contents content = .ok sql) :
    assemble contents (.element "if" [⟨"test", test⟩] content)
      = .ok (if here then sql else []) := by
  have asked : (attribute? [⟨"test", test⟩] "test").getD "" = test := rfl
  rw [assemble, if_pos rfl, asked, value]
  cases here with
  | true => exact inside
  | false => rfl

end AssemblyLemmas

/-- That a text is read as content that is assembled to SQL of the words given. Whatever follows
begins a new word. -/
def Assembles (contents : String → Content) (text : String) (words : List String) : Prop :=
  ∃ nodes sql, Markup.Reads text nodes ∧ assembleAll contents nodes = .ok sql
    ∧ ∀ rest, wordsOf (sql ++ rest) = words ++ wordsOf rest

namespace Assembles

variable {contents : String → Content}

theorem nil : Assembles contents "" [] :=
  ⟨[], [], .nil, rfl, fun _ => rfl⟩

theorem append {first second : String} {words more : List String}
    (here : Assembles contents first words) (there : Assembles contents second more) :
    Assembles contents (first ++ second) (words ++ more) := by
  obtain ⟨nodes, sql, reads, assembled, apart⟩ := here
  obtain ⟨nodes', sql', reads', assembled', apart'⟩ := there
  refine ⟨nodes ++ nodes', sql ++ sql', reads.append reads',
    assembleAll_append assembled assembled', fun rest => ?_⟩
  rw [List.append_assoc, apart, apart', List.append_assoc]

/-- Space has no words. -/
theorem space {space : String} (blank : space.toList.all Char.isWhitespace = true) :
    Assembles contents space [] :=
  ⟨_, _, reads_space blank, assembleAll_chars contents _, fun rest =>
    wordsOf_append_of_blank blank rest⟩

/-- The words of a text that stands on its own. -/
theorem assembled {text : String} {words : List String}
    (assembles : Assembles contents text words) :
    ∃ nodes sql, Markup.Reads text nodes ∧ assembleAll contents nodes = .ok sql
      ∧ wordsOf sql = words := by
  obtain ⟨nodes, sql, reads, assembled, apart⟩ := assembles
  have own := apart []
  rw [List.append_nil, wordsOf_nil, List.append_nil] at own
  exact ⟨nodes, sql, reads, assembled, own⟩

/-- What stands on lines of its own at a depth begins and ends with space. -/
theorem lines (depth : Nat) {text : String} {nodes : List Node} {sql : List Char}
    (reads : Markup.Reads text nodes) (assembled : assembleAll contents nodes = .ok sql) :
    Assembles contents (indent depth ++ text ++ "\n") (wordsOf sql) := by
  have indentation : Assembles contents (indent depth) [] :=
    space (indent_blank depth)
  have line : Assembles contents (text ++ "\n") (wordsOf sql) := by
    refine ⟨_, _, reads.append (reads_space (by decide)),
      assembleAll_append assembled (assembleAll_chars contents _), fun rest => ?_⟩
    rw [List.append_assoc]
    exact wordsOf_append_cons sql rest (by decide)
  rw [String.append_assoc]
  exact indentation.append line

/-- A line is assembled to what its pieces are. -/
theorem line (depth : Nat) {pieces : List Inline} {nodes : List Node} {sql : List Char}
    (reads : Markup.Reads (String.join (pieces.map Inline.render)) nodes)
    (assembled : assembleAll contents nodes = .ok sql) :
    Assembles contents (Block.render depth (.line pieces)) (wordsOf sql) :=
  lines depth reads assembled

/-- The space around the lines in an element has no words. -/
theorem within (depth : Nat) {text : String} {words : List String}
    (assembles : Assembles contents text words) :
    Assembles contents ("\n" ++ text ++ indent depth) words := by
  have lineBreak : Assembles contents "\n" [] := space (by decide)
  have around := (lineBreak.append assembles).append
    (space (indent_blank depth))
  rwa [List.nil_append, List.append_nil] at around

theorem textLine (depth : Nat) {written : String} (isText : IsText written) :
    Assembles contents (Block.render depth (textLine written)) (wordsOf written.toList) :=
  line depth (reads_piece (Markup.Reads.text isText : Markup.Reads (Inline.text written).render _))
    (assembleAll_chars contents _)

theorem single {depth : Nat} {block : Block} {words : List String}
    (assembles : Assembles contents (Block.render depth block) words) :
    Assembles contents (Block.renderAll depth [block]) words := by
  rw [Block.renderAll, Block.renderAll, String.append_empty]
  exact assembles

/-- What stands in an element is assembled first, and then the element around it. -/
theorem element (depth : Nat) {tag : String} (named : isName tag = true) (notIf : tag ≠ "if")
    {attributes : List Attribute} (written : WellWritten attributes) {children : List Block}
    {words : List String}
    (inside : Assembles contents (Block.renderAll (depth + 1) children) words) :
    ∃ sql, wordsOf sql = words
      ∧ Assembles contents (Block.render depth (.element tag attributes children))
        (wordsOf (elementSql tag attributes sql)) := by
  obtain ⟨content, sql, reads, assembled, own⟩ := (inside.within depth).assembled
  refine ⟨sql, own, ?_⟩
  rw [render_element]
  exact lines depth (.element named written reads)
    (assembleAll_single (assemble_element notIf attributes assembled))

/-- A part that is left out when its test fails is read either way. -/
theorem ifElement (depth : Nat) {test : Test} (isValue : IsValue test.text) {here : Bool}
    (value : holds contents test.text = .ok here) {body : List Block} {words : List String}
    (inside : Assembles contents (Block.renderAll (depth + 1) body) words) :
    Assembles contents (Block.render depth (ifElement test body)) (if here then words else []) := by
  obtain ⟨content, sql, reads, assembled, own⟩ := (inside.within depth).assembled
  have block := lines depth (.element (by decide) (wellWritten_test isValue) reads)
    (assembleAll_single (assemble_if value assembled))
  rw [Mapper.ifElement, render_element]
  cases here with
  | true => rwa [if_pos rfl, own] at block
  | false => exact block

/-- A `where` element puts its own word in front of those in it. -/
theorem whereElement (depth : Nat) {children : List Block} {words : List String}
    (inside : Assembles contents (Block.renderAll (depth + 1) children) words) :
    Assembles contents (Block.render depth (.element "where" [] children)) (whereWords words) := by
  have written : WellWritten [] := .of_names [] rfl (by simp) .nil (by simp)
  obtain ⟨sql, own, block⟩ :=
    element depth (show isName "where" = true by decide) (by decide) written inside
  rwa [wordsOf_elementSql_where, own] at block

end Assembles

/-! ## 3. Several blocks -/

/-- Blocks are assembled one after the other. -/
theorem assembles_renderAll_map {α : Type} {contents : String → Content} (depth : Nat)
    {write : α → Block} {words : α → List String} {items : List α}
    (each : ∀ item ∈ items, Assembles contents (Block.render depth (write item)) (words item)) :
    Assembles contents (Block.renderAll depth (items.map write)) (items.flatMap words) := by
  induction items with
  | nil => exact Assembles.nil
  | cons item items ih =>
    rw [List.map_cons, List.flatMap_cons, Block.renderAll]
    exact (each item (by simp)).append (ih fun other mem => each other (List.mem_cons_of_mem _ mem))

/-! ## 4. Documents -/

/-- A document that is read back is assembled to what its blocks are. -/
theorem assemble_readDocument {contents : String → Content} {document : Document}
    (named : isName document.tag = true) (written : WellWritten document.attributes)
    (notIf : document.tag ≠ "if")
    (noFrame : Frame.ofElement? document.tag document.attributes = none) {words : List String}
    (assembles : Assembles contents (Block.renderAll 1 document.children) words) :
    ∃ node sql, readDocument document.render = some node ∧ assemble contents node = .ok sql
      ∧ wordsOf sql = words := by
  have lineBreak : Assembles contents "\n" [] := Assembles.space (by decide)
  obtain ⟨content, sql, reads, assembled, own⟩ := (lineBreak.append assembles).assembled
  refine ⟨.element document.tag document.attributes content, sql, ?_, ?_, own⟩
  · rw [render_document]
    exact readDocument_of_reads (Markup.Reads.element named written reads)
  · rw [assemble_element notIf _ assembled, elementSql, noFrame]

end QueryScribe.Mapper
