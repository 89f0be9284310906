import QueryScribe.Proofs.Markup.Reader

/-!
# Outlines of markup

How a document is laid out is nobody's concern: what counts are its elements, their attributes and
the words of their text. An outline keeps these and forgets the space between words as well as the
comments.

Results:
1. `wordsOf_append_cons`: words are split at white space.
2. `Shows.line`, `Shows.element`: what a line and an element with blocks in it show.
3. `shows_renderAll_map`: blocks that show one element each show them one after the other.
4. `outline_readDocument`: the outline of a document that is read back.
-/

namespace QueryScribe.Markup

/-! ## 1. Words -/

/-- The words of a text: what stands between white space. -/
def wordsOf (cs : List Char) : List String :=
  ((cs.splitOnP Char.isWhitespace).filter (· ≠ [])).map String.ofList

/-- Words are split at white space. -/
theorem wordsOf_append_cons (before after : List Char) {c : Char} (blank : c.isWhitespace = true) :
    wordsOf (before ++ c :: after) = wordsOf before ++ wordsOf after := by
  rw [wordsOf, List.splitOnP_append_cons before after blank, List.filter_append, List.map_append]
  rfl

theorem wordsOf_nil : wordsOf [] = [] := by
  simp [wordsOf]

/-- Whether a text is a single word. -/
structure IsWord (s : String) : Prop where
  notEmpty : s.toList ≠ []
  noSpace : ∀ c ∈ s.toList, c.isWhitespace = false

theorem wordsOf_of_isWord {s : String} (word : IsWord s) : wordsOf s.toList = [s] := by
  rw [wordsOf, List.splitOnP_eq_singleton word.noSpace]
  simp [word.notEmpty]

theorem wordsOf_append_space (s t : String) :
    wordsOf (s ++ " " ++ t).toList = wordsOf s.toList ++ wordsOf t.toList := by
  rw [String.toList_append, String.toList_append, List.append_assoc]
  exact wordsOf_append_cons s.toList t.toList (by decide)

/-- Space in front of a text changes none of its words. -/
theorem wordsOf_append_of_blank {space : List Char} (blank : space.all Char.isWhitespace = true)
    (cs : List Char) : wordsOf (space ++ cs) = wordsOf cs := by
  induction space with
  | nil => rfl
  | cons c space ih =>
    rw [List.all_cons, Bool.and_eq_true] at blank
    have front := wordsOf_append_cons [] (space ++ cs) blank.1
    rw [wordsOf_nil, List.nil_append, List.nil_append] at front
    rw [List.cons_append, front, ih blank.2]

/-! ## Outlines -/

/-- An element with its attributes, the words of its own text, and the elements in it. -/
inductive Outline
  | element (tag : String) (attributes : List Attribute) (words : List String)
      (inside : List Outline)
  deriving Repr

/-- The characters that stand in content, but in none of its elements. -/
def ownText (nodes : List Node) : List Char :=
  nodes.filterMap fun
    | .char c => some c
    | _ => none

mutual

/-- The outline of a node that is an element. -/
def Node.outline? : Node → Option Outline
  | .char _ => none
  | .comment _ => none
  | .element tag attributes content =>
    some (.element tag attributes (wordsOf (ownText content)) (Node.outlines content))

/-- The outlines of the elements in content. -/
def Node.outlines : List Node → List Outline
  | [] => []
  | node :: nodes => node.outline?.toList ++ Node.outlines nodes

end

namespace OutlineLemmas

theorem ownText_append (nodes more : List Node) :
    ownText (nodes ++ more) = ownText nodes ++ ownText more :=
  List.filterMap_append

theorem ownText_chars (cs : List Char) : ownText (cs.map .char) = cs := by
  induction cs with
  | nil => rfl
  | cons c cs ih => exact congrArg (c :: ·) ih

theorem outlines_append (nodes more : List Node) :
    Node.outlines (nodes ++ more) = Node.outlines nodes ++ Node.outlines more := by
  induction nodes with
  | nil => rfl
  | cons node nodes ih => simp [Node.outlines, ih]

theorem outlines_chars (cs : List Char) : Node.outlines (cs.map .char) = [] := by
  induction cs with
  | nil => rfl
  | cons c cs ih => simpa [Node.outlines, Node.outline?] using ih

theorem outlines_element (tag : String) (attributes : List Attribute) (content : List Node) :
    Node.outlines [.element tag attributes content]
      = [.element tag attributes (wordsOf (ownText content)) (Node.outlines content)] := by
  simp [Node.outlines, Node.outline?]

end OutlineLemmas

open OutlineLemmas

/-! ## 2. Lines and elements -/

/-- That a text is read as content with the words and elements given. Whatever follows begins a new
word. -/
def Shows (text : String) (words : List String) (inside : List Outline) : Prop :=
  ∃ nodes, Reads text nodes ∧ Node.outlines nodes = inside
    ∧ ∀ rest, wordsOf (ownText nodes ++ rest) = words ++ wordsOf rest

namespace OutlineLemmas

theorem indent_blank (depth : Nat) : (indent depth).toList.all Char.isWhitespace = true := by
  rw [indent, String.toList_join, List.all_flatMap, List.all_eq_true]
  intro level mem
  rw [List.eq_of_mem_replicate mem]
  decide

theorem isTextChar_of_isWhitespace {c : Char} (blank : c.isWhitespace = true) :
    isTextChar c = true := by
  have notLess : c ≠ '<' := by rintro rfl; exact absurd blank (by decide)
  have notAnd : c ≠ '&' := by rintro rfl; exact absurd blank (by decide)
  have notGreater : c ≠ '>' := by rintro rfl; exact absurd blank (by decide)
  simp [isTextChar, notLess, notAnd, notGreater]

theorem reads_space {space : String} (blank : space.toList.all Char.isWhitespace = true) :
    Reads space (space.toList.map .char) :=
  Reads.text fun c mem => isTextChar_of_isWhitespace (List.all_eq_true.mp blank c mem)

end OutlineLemmas

/-- The pieces of a line are read one after the other. -/
theorem reads_pieces_cons {piece : Inline} {pieces : List Inline} {nodes more : List Node}
    (here : Reads piece.render nodes)
    (there : Reads (String.join (pieces.map Inline.render)) more) :
    Reads (String.join ((piece :: pieces).map Inline.render)) (nodes ++ more) := by
  rw [List.map_cons, String.join_cons]
  exact here.append there

theorem reads_piece {piece : Inline} {nodes : List Node} (reads : Reads piece.render nodes) :
    Reads (String.join ([piece].map Inline.render)) nodes := by
  have line := reads_pieces_cons reads
    (show Reads (String.join ([].map Inline.render)) [] from .nil)
  rwa [List.append_nil] at line

/-- An element stands on lines of its own, and so does what is in it. -/
theorem render_element (depth : Nat) (tag : String) (attributes : List Attribute)
    (children : List Block) :
    Block.render depth (.element tag attributes children)
      = indent depth ++ (openingTag tag attributes
          ++ ("\n" ++ Block.renderAll (depth + 1) children ++ indent depth) ++ closingTag tag)
        ++ "\n" := by
  simp only [Block.render, String.append_assoc]

namespace Shows

theorem nil : Shows "" [] [] :=
  ⟨[], Reads.nil, rfl, fun _ => rfl⟩

theorem append {first second : String} {words more : List String} {inside others : List Outline}
    (here : Shows first words inside) (there : Shows second more others) :
    Shows (first ++ second) (words ++ more) (inside ++ others) := by
  obtain ⟨nodes, reads, outlines, apart⟩ := here
  obtain ⟨nodes', reads', outlines', apart'⟩ := there
  refine ⟨nodes ++ nodes', reads.append reads', ?_, fun rest => ?_⟩
  · rw [outlines_append, outlines, outlines']
  · rw [ownText_append, List.append_assoc, apart, apart', List.append_assoc]

/-- Space shows nothing. -/
theorem space {space : String} (blank : space.toList.all Char.isWhitespace = true) :
    Shows space [] [] := by
  refine ⟨_, reads_space blank, outlines_chars _, fun rest => ?_⟩
  rw [ownText_chars, wordsOf_append_of_blank blank]
  rfl

/-- The words and elements of a text that stands on its own. -/
theorem reads {text : String} {words : List String} {inside : List Outline}
    (shows : Shows text words inside) :
    ∃ nodes, Reads text nodes ∧ wordsOf (ownText nodes) = words ∧ Node.outlines nodes = inside := by
  obtain ⟨nodes, reads, outlines, apart⟩ := shows
  have own := apart []
  rw [List.append_nil, wordsOf_nil, List.append_nil] at own
  exact ⟨nodes, reads, own, outlines⟩

/-- A line shows the words and elements that its pieces are read as. -/
theorem line (depth : Nat) {pieces : List Inline} {nodes : List Node}
    (reads : Reads (String.join (pieces.map Inline.render)) nodes) :
    Shows (Block.render depth (.line pieces)) (wordsOf (ownText nodes)) (Node.outlines nodes) := by
  refine ⟨_, ((reads_space (indent_blank depth)).append reads).append
    (reads_space (show "\n".toList.all Char.isWhitespace = true by decide)), ?_, fun rest => ?_⟩
  · simp [outlines_append, outlines_chars, Node.outlines, Node.outline?]
  · rw [ownText_append, ownText_append, ownText_chars, List.append_assoc, List.append_assoc,
      wordsOf_append_of_blank (indent_blank depth)]
    exact wordsOf_append_cons _ rest (by decide)

/-- An element shows itself, with the words and elements of the blocks in it. -/
theorem element (depth : Nat) {tag : String} (named : isName tag = true)
    {attributes : List Attribute} (written : WellWritten attributes) {children : List Block}
    {words : List String} {inside : List Outline}
    (shows : Shows (Block.renderAll (depth + 1) children) words inside) :
    Shows (Block.render depth (.element tag attributes children)) []
      [.element tag attributes words inside] := by
  have lineBreak : Shows "\n" [] [] := space (by decide)
  have indentation := space (indent_blank depth)
  obtain ⟨content, reads, own, outlines⟩ := ((lineBreak.append shows).append indentation).reads
  rw [List.nil_append, List.append_nil] at own outlines
  have around : Shows (openingTag tag attributes
        ++ ("\n" ++ Block.renderAll (depth + 1) children ++ indent depth) ++ closingTag tag)
      [] [.element tag attributes words inside] := by
    refine ⟨_, Reads.element named written reads, ?_, fun rest => rfl⟩
    rw [outlines_element, own, outlines]
  rw [render_element]
  exact (indentation.append around).append lineBreak

end Shows

/-! ## 3. Blocks -/

theorem renderAll_append (depth : Nat) (blocks more : List Block) :
    Block.renderAll depth (blocks ++ more)
      = Block.renderAll depth blocks ++ Block.renderAll depth more := by
  induction blocks with
  | nil => simp [Block.renderAll]
  | cons block blocks ih =>
    rw [List.cons_append, Block.renderAll, Block.renderAll, ih, String.append_assoc]

/-- Blocks that show one element each show them one after the other. -/
theorem shows_renderAll_map {α : Type} (depth : Nat) {write : α → Block} {inside : α → Outline}
    {items : List α}
    (shows : ∀ item ∈ items, Shows (Block.render depth (write item)) [] [inside item]) :
    Shows (Block.renderAll depth (items.map write)) [] (items.map inside) := by
  induction items with
  | nil => exact Shows.nil
  | cons item items ih =>
    rw [List.map_cons, List.map_cons, Block.renderAll]
    exact (shows item (by simp)).append
      (ih fun other mem => shows other (List.mem_cons_of_mem _ mem))

/-! ## 4. Documents -/

theorem render_document (document : Document) :
    document.render = openingTag document.tag document.attributes
      ++ ("\n" ++ Block.renderAll 1 document.children) ++ closingTag document.tag := by
  simp only [Document.render, String.append_assoc]

/-- A document is read back, and its outline has what its blocks show. -/
theorem outline_readDocument {document : Document} (named : isName document.tag = true)
    (written : WellWritten document.attributes) {words : List String} {inside : List Outline}
    (shows : Shows (Block.renderAll 1 document.children) words inside) :
    (readDocument document.render).bind Node.outline?
      = some (.element document.tag document.attributes words inside) := by
  obtain ⟨content, reads, own, outlines⟩ :=
    ((Shows.space (show "\n".toList.all Char.isWhitespace = true by decide)).append shows).reads
  rw [render_document, readDocument_of_reads (Reads.element named written reads),
    Option.bind_some, Node.outline?, own, outlines]
  rfl

end QueryScribe.Markup
