import QueryScribe.Markup.Element
import QueryScribe.Markup.Text

/-!
# Reading markup

A reader of markup goes through a text once, from left to right. It knows elements with attributes
in double quotes, comments, the five entities, and text; the elements that are still open stand on a
stack. Anything else is refused: a tag that closes another element, an attribute that is given
twice, a bare `&` or `>` in text, a bare `&` or `<` in an attribute's value, an unknown entity, two
hyphens inside a comment, an element without an end.

Results:
1. `readFrom_append`: a text is read piece by piece.
2. `Reads.text`, `Reads.escaped`, `Reads.comment`: what text, escaped text and comments are read as.
3. `Reads.element`: an element around what can be read is read as an element around it.
4. `readContent_of_reads`, `readDocument_of_reads`: a whole text.
-/

namespace QueryScribe.Markup

/-! ## Trees -/

/-- What a reader finds in a text: a character, a comment, or an element with what is in it. -/
inductive Node
  | char (c : Char)
  | comment (content : String)
  | element (tag : String) (attributes : List Attribute) (content : List Node)
  deriving Repr

/-- The character that an entity stands for. -/
def entityChar? (name : List Char) : Option Char :=
  [("amp", '&'), ("lt", '<'), ("gt", '>'), ("quot", '"'), ("apos", '\'')].lookup
    (String.ofList name)

/-- Whether a character may go on with the name of an element or an attribute. -/
def isNameChar (c : Char) : Bool :=
  c.isAlphanum || c = '-' || c = '_'

/-- Whether a text names an element or an attribute: it starts with a letter. -/
def isName (s : String) : Bool :=
  match s.toList with
  | [] => false
  | c :: cs => c.isAlpha && cs.all isNameChar

/-! ## The reader -/

/-- An element without its end: its tag and attributes, and its content so far. -/
structure Pending where
  tag : String
  attributes : List Attribute
  content : List Node

/-- A tag that opens an element, as far as it is complete. -/
structure Opening where
  tag : List Char
  attributes : List Attribute

/-- Where in the text the reader is. -/
inductive Mode
  | content
  | entity (name : List Char)
  | bracket
  | bang
  | bangHyphen
  | comment (content : List Char)
  | commentHyphen (content : List Char)
  | commentEnd (content : List Char)
  | tag (name : List Char)
  | gap (opening : Opening)
  | attributeName (opening : Opening) (name : List Char)
  | equals (opening : Opening) (name : List Char)
  | value (opening : Opening) (name value : List Char)
  | valueEntity (opening : Opening) (name value entity : List Char)
  | quoted (opening : Opening)
  | closing (name : List Char)

/-- The reader: where it is, the element it is in, and the elements around that one. -/
structure State where
  mode : Mode
  inner : Pending
  outer : List Pending

namespace State

/-- The reader in another place of the text. -/
def goto (state : State) (mode : Mode) : State :=
  { state with mode := mode }

/-- The reader behind further content of the element it is in. -/
def put (state : State) (nodes : List Node) : State :=
  { state with
    mode := .content
    inner := { state.inner with content := state.inner.content ++ nodes } }

/-- The reader inside an element that begins. -/
def enter (state : State) (opening : Opening) : State where
  mode := .content
  inner := ⟨String.ofList opening.tag, opening.attributes, []⟩
  outer := state.inner :: state.outer

/-- The reader behind the element it is in, if that is the one to close. -/
def leave (state : State) (name : List Char) : Option State :=
  match state.outer with
  | [] => none
  | around :: outer =>
    if String.ofList name = state.inner.tag then
      some (State.put ⟨.content, around, outer⟩
        [.element state.inner.tag state.inner.attributes state.inner.content])
    else none

/-- The reader behind a character that comes after a complete part of an opening tag. -/
def afterPart (state : State) (opening : Opening) (c : Char) : Option State :=
  if c.isWhitespace then some (state.goto (.gap opening))
  else if c = '>' then some (state.enter opening)
  else none

/-- The reader behind the next character. -/
def step (state : State) (c : Char) : Option State :=
  match state.mode with
  | .content =>
    if c = '<' then some (state.goto .bracket)
    else if c = '&' then some (state.goto (.entity []))
    else if c = '>' then none
    else some (state.put [.char c])
  | .entity name =>
    if c = ';' then (entityChar? name).map fun c => state.put [.char c]
    else some (state.goto (.entity (name ++ [c])))
  | .bracket =>
    if c = '/' then some (state.goto (.closing []))
    else if c = '!' then some (state.goto .bang)
    else if c.isAlpha then some (state.goto (.tag [c]))
    else none
  | .bang => if c = '-' then some (state.goto .bangHyphen) else none
  | .bangHyphen => if c = '-' then some (state.goto (.comment [])) else none
  | .comment content =>
    if c = '-' then some (state.goto (.commentHyphen content))
    else some (state.goto (.comment (content ++ [c])))
  | .commentHyphen content =>
    if c = '-' then some (state.goto (.commentEnd content))
    else some (state.goto (.comment (content ++ ['-', c])))
  | .commentEnd content =>
    if c = '>' then some (state.put [.comment (String.ofList content)]) else none
  | .tag name =>
    if isNameChar c then some (state.goto (.tag (name ++ [c]))) else state.afterPart ⟨name, []⟩ c
  | .gap opening =>
    if c.isAlpha then some (state.goto (.attributeName opening [c])) else state.afterPart opening c
  | .attributeName opening name =>
    if isNameChar c then some (state.goto (.attributeName opening (name ++ [c])))
    else if c = '=' ∧ String.ofList name ∉ opening.attributes.map (·.name) then
      some (state.goto (.equals opening name))
    else none
  | .equals opening name => if c = '"' then some (state.goto (.value opening name [])) else none
  | .value opening name value =>
    if c = '"' then
      some (state.goto (.quoted { opening with
        attributes := opening.attributes ++ [⟨String.ofList name, String.ofList value⟩] }))
    else if c = '&' then some (state.goto (.valueEntity opening name value []))
    else if c = '<' then none
    else some (state.goto (.value opening name (value ++ [c])))
  | .valueEntity opening name value entity =>
    if c = ';' then
      (entityChar? entity).map fun c => state.goto (.value opening name (value ++ [c]))
    else some (state.goto (.valueEntity opening name value (entity ++ [c])))
  | .quoted opening => state.afterPart opening c
  | .closing name =>
    if isNameChar c then some (state.goto (.closing (name ++ [c])))
    else if c = '>' then state.leave name
    else none

/-- The reader behind a text. -/
def readFrom (state : State) (cs : List Char) : Option State :=
  cs.foldlM step state

/-- The reader at the beginning of a text. -/
def start : State :=
  ⟨.content, ⟨"", [], []⟩, []⟩

end State

/-- What a whole text is read as. No element may be open at its end. -/
def readContent (text : String) : Option (List Node) :=
  match State.start.readFrom text.toList with
  | some ⟨.content, inner, []⟩ => some inner.content
  | _ => none

/-- The element that a whole document is read as. There is nothing beside it. -/
def readDocument (text : String) : Option Node :=
  match readContent text with
  | some [.element tag attributes content] => some (.element tag attributes content)
  | _ => none

/-! ## 1. Piece by piece -/

open State

theorem readFrom_append (state : State) (cs ds : List Char) :
    state.readFrom (cs ++ ds) = (state.readFrom cs).bind (·.readFrom ds) :=
  List.foldlM_append

theorem readFrom_cons {state next : State} {c : Char} (moves : state.step c = some next)
    (cs : List Char) : state.readFrom (c :: cs) = next.readFrom cs := by
  simp [readFrom, List.foldlM_cons, moves]

/-- That a text inside an element is read as content of the element. -/
def Reads (text : String) (nodes : List Node) : Prop :=
  ∀ inner outer,
    readFrom ⟨.content, inner, outer⟩ text.toList = some (put ⟨.content, inner, outer⟩ nodes)

namespace Reads

theorem nil : Reads "" [] := by
  intro inner outer
  simp [readFrom, put]

theorem append {first second : String} {nodes more : List Node} (here : Reads first nodes)
    (there : Reads second more) : Reads (first ++ second) (nodes ++ more) := by
  intro inner outer
  rw [String.toList_append, readFrom_append, here, Option.bind_some, put, there]
  simp [put]

end Reads

/-! ## 2. Text and comments -/

/-- Whether a character means itself in text. -/
def isTextChar (c : Char) : Bool :=
  c ≠ '<' && c ≠ '&' && c ≠ '>'

/-- Whether a character means itself in an attribute's value. -/
def isValueChar (c : Char) : Bool :=
  c ≠ '"' && c ≠ '&' && c ≠ '<'

theorem step_text {inner : Pending} {outer : List Pending} {c : Char}
    (plain : isTextChar c = true) :
    step ⟨.content, inner, outer⟩ c = some (put ⟨.content, inner, outer⟩ [.char c]) := by
  simp only [isTextChar, ne_eq, Bool.and_eq_true, decide_eq_true_eq] at plain
  obtain ⟨⟨notLess, notAnd⟩, notGreater⟩ := plain
  simp [step, notLess, notAnd, notGreater]

theorem Reads.text {s : String} (plain : ∀ c ∈ s.toList, isTextChar c = true) :
    Reads s (s.toList.map .char) := by
  intro inner outer
  generalize s.toList = cs at plain ⊢
  induction cs generalizing inner with
  | nil => simp [readFrom, put]
  | cons c cs ih =>
    rw [readFrom_cons (step_text (plain c (by simp))), put,
      ih _ fun d mem => plain d (List.mem_cons_of_mem c mem)]
    simp [put]

theorem isTextChar_of_no_entity {c : Char} (plain : entity? c = none) : isTextChar c = true := by
  have notLess : c ≠ '<' := by rintro rfl; exact absurd plain (by decide)
  have notAnd : c ≠ '&' := by rintro rfl; exact absurd plain (by decide)
  have notGreater : c ≠ '>' := by rintro rfl; exact absurd plain (by decide)
  simp [isTextChar, notLess, notAnd, notGreater]

theorem readFrom_escapeChar (inner : Pending) (outer : List Pending) (c : Char) :
    readFrom ⟨.content, inner, outer⟩ (escapeChar c)
      = some (put ⟨.content, inner, outer⟩ [.char c]) := by
  cases found : entity? c with
  | none =>
    rw [escapeChar, found, readFrom_cons (step_text (isTextChar_of_no_entity found))]
    rfl
  | some entity =>
    rw [escapeChar, found]
    rw [entity?.eq_def] at found
    split at found <;> first | (cases found; rfl) | simp at found

theorem Reads.escaped (s : String) : Reads (escape s) (s.toList.map .char) := by
  intro inner outer
  rw [escape, String.toList_ofList, escapeChars]
  generalize s.toList = cs
  induction cs generalizing inner with
  | nil => simp [readFrom, put]
  | cons c cs ih =>
    rw [List.flatMap_cons, readFrom_append, readFrom_escapeChar, Option.bind_some, put, ih]
    simp [put]

theorem readFrom_comment {inner : Pending} {outer : List Pending} (content : List Char)
    {cs : List Char} (noHyphen : '-' ∉ cs) :
    readFrom ⟨.comment content, inner, outer⟩ cs
      = some ⟨.comment (content ++ cs), inner, outer⟩ := by
  induction cs generalizing content with
  | nil => simp [readFrom]
  | cons c cs ih =>
    obtain ⟨here, later⟩ := List.ne_and_not_mem_of_not_mem_cons noHyphen
    have moves : step ⟨.comment content, inner, outer⟩ c
        = some ⟨.comment (content ++ [c]), inner, outer⟩ := if_neg here.symm
    rw [readFrom_cons moves, ih _ later]
    simp

theorem Reads.comment {s : String} (noHyphen : '-' ∉ s.toList) :
    Reads ("<!--" ++ s ++ "-->") [.comment s] := by
  intro inner outer
  have opened : readFrom ⟨.content, inner, outer⟩ "<!--".toList
      = some ⟨.comment [], inner, outer⟩ := rfl
  have closed : readFrom ⟨.comment s.toList, inner, outer⟩ "-->".toList
      = some (put ⟨.content, inner, outer⟩ [.comment (String.ofList s.toList)]) := rfl
  rw [String.toList_append, String.toList_append, readFrom_append, readFrom_append, opened,
    Option.bind_some, readFrom_comment [] noHyphen, List.nil_append, Option.bind_some, closed,
    String.ofList_toList]

/-! ## 3. Elements -/

/-- Whether attributes are well written: they have different names, and their values need no
entities. -/
structure WellWritten (attributes : List Attribute) : Prop where
  named : ∀ one ∈ attributes, isName one.name = true
  plain : ∀ one ∈ attributes, ∀ c ∈ one.value.toList, isValueChar c = true
  distinct : (attributes.map (·.name)).Nodup

/-- Attributes whose names are known. -/
theorem WellWritten.of_names {attributes : List Attribute} (names : List String)
    (whole : attributes.map (·.name) = names) (named : ∀ name ∈ names, isName name = true)
    (distinct : names.Nodup)
    (plain : ∀ one ∈ attributes, ∀ c ∈ one.value.toList, isValueChar c = true) :
    WellWritten attributes := by
  subst whole
  exact ⟨fun one mem => named one.name (List.mem_map_of_mem mem), plain, distinct⟩

namespace ReaderLemmas

variable (inner : Pending) (outer : List Pending)

theorem isName_cons {s : String} (named : isName s = true) :
    ∃ c cs, s.toList = c :: cs ∧ c.isAlpha = true ∧ cs.all isNameChar = true := by
  unfold isName at named
  split at named
  · exact absurd named (by simp)
  · next c cs chars =>
    rw [Bool.and_eq_true] at named
    exact ⟨c, cs, chars, named⟩

/-- A name is read on in every mode that gathers one. -/
theorem readFrom_name (mode : List Char → Mode)
    (moves : ∀ name c, isNameChar c = true →
      step ⟨mode name, inner, outer⟩ c = some ⟨mode (name ++ [c]), inner, outer⟩)
    (name : List Char) {cs : List Char} (all : cs.all isNameChar = true) :
    readFrom ⟨mode name, inner, outer⟩ cs = some ⟨mode (name ++ cs), inner, outer⟩ := by
  induction cs generalizing name with
  | nil => simp [readFrom]
  | cons c cs ih =>
    rw [List.all_cons, Bool.and_eq_true] at all
    rw [readFrom_cons (moves name c all.1), ih _ all.2]
    simp

theorem readFrom_value (opening : Opening) (name value : List Char) {cs : List Char}
    (plain : ∀ c ∈ cs, isValueChar c = true) :
    readFrom ⟨.value opening name value, inner, outer⟩ cs
      = some ⟨.value opening name (value ++ cs), inner, outer⟩ := by
  induction cs generalizing value with
  | nil => simp [readFrom]
  | cons c cs ih =>
    have here := plain c (by simp)
    simp only [isValueChar, ne_eq, Bool.and_eq_true, decide_eq_true_eq] at here
    obtain ⟨⟨notQuote, notAnd⟩, notLess⟩ := here
    have moves : step ⟨.value opening name value, inner, outer⟩ c
        = some ⟨.value opening name (value ++ [c]), inner, outer⟩ := by
      simp [step, notQuote, notAnd, notLess, goto]
    rw [readFrom_cons moves, ih _ fun d mem => plain d (List.mem_cons_of_mem c mem)]
    simp

/-- The places inside an opening tag where a further attribute or the tag's end can follow. -/
inductive IsAfterPart : Mode → Opening → Prop
  | tag (name : List Char) : IsAfterPart (.tag name) ⟨name, []⟩
  | quoted (opening : Opening) : IsAfterPart (.quoted opening) opening

theorem step_afterPart {mode : Mode} {opening : Opening} (part : IsAfterPart mode opening)
    {c : Char} (notName : isNameChar c = false) :
    step ⟨mode, inner, outer⟩ c = afterPart ⟨mode, inner, outer⟩ opening c := by
  cases part with
  | tag name => simp [step, notName]
  | quoted opening => rfl

theorem readFrom_attribute {mode : Mode} {opening : Opening} (part : IsAfterPart mode opening)
    {added : Attribute} (named : isName added.name = true)
    (plain : ∀ c ∈ added.value.toList, isValueChar c = true)
    (fresh : added.name ∉ opening.attributes.map (·.name)) :
    readFrom ⟨mode, inner, outer⟩ added.text.toList
      = some ⟨.quoted { opening with attributes := opening.attributes ++ [added] }, inner,
          outer⟩ := by
  obtain ⟨name, value⟩ := added
  obtain ⟨c, cs, chars, isAlpha, all⟩ := isName_cons named
  have whole : (Attribute.text ⟨name, value⟩).toList
      = ' ' :: c :: (cs ++ '=' :: '"' :: (value.toList ++ ['"'])) := by
    simp [Attribute.text, chars]
  have space : step ⟨mode, inner, outer⟩ ' ' = some ⟨.gap opening, inner, outer⟩ :=
    step_afterPart inner outer part (by decide)
  have letter : step ⟨.gap opening, inner, outer⟩ c
      = some ⟨.attributeName opening [c], inner, outer⟩ := if_pos isAlpha
  have gathered : readFrom ⟨.attributeName opening [c], inner, outer⟩ cs
      = some ⟨.attributeName opening (c :: cs), inner, outer⟩ :=
    readFrom_name inner outer (.attributeName opening) (fun _ _ isNameChar => if_pos isNameChar) [c]
      all
  have equals : step ⟨.attributeName opening (c :: cs), inner, outer⟩ '='
      = some ⟨.equals opening (c :: cs), inner, outer⟩ := by
    have unused : String.ofList (c :: cs) ∉ opening.attributes.map (·.name) := by
      rw [← chars, String.ofList_toList]
      exact fresh
    exact if_pos ⟨rfl, unused⟩
  have quote : step ⟨.equals opening (c :: cs), inner, outer⟩ '"'
      = some ⟨.value opening (c :: cs) [], inner, outer⟩ := rfl
  have closed : step ⟨.value opening (c :: cs) value.toList, inner, outer⟩ '"'
      = some ⟨.quoted { opening with attributes := opening.attributes ++ [⟨name, value⟩] }, inner,
          outer⟩ := by
    rw [← chars]
    simp [step, goto]
  rw [whole, readFrom_cons space, readFrom_cons letter, readFrom_append, gathered, Option.bind_some,
    readFrom_cons equals, readFrom_cons quote, readFrom_append,
    readFrom_value inner outer _ _ _ plain, Option.bind_some, List.nil_append, readFrom_cons closed]
  rfl

/-- By induction on the attributes: each one is read behind those before it. -/
theorem readFrom_attributes {mode : Mode} {opening : Opening} (part : IsAfterPart mode opening)
    {attributes : List Attribute} (written : WellWritten (opening.attributes ++ attributes)) :
    ∃ last, IsAfterPart last { opening with attributes := opening.attributes ++ attributes }
      ∧ readFrom ⟨mode, inner, outer⟩ (String.join (attributes.map Attribute.text)).toList
        = some ⟨last, inner, outer⟩ := by
  induction attributes generalizing mode opening with
  | nil => exact ⟨mode, by simpa using part, by simp [readFrom]⟩
  | cons first others ih =>
    have regroup : opening.attributes ++ first :: others
        = (opening.attributes ++ [first]) ++ others := by simp
    have fresh : first.name ∉ opening.attributes.map (·.name) := by
      have distinct := written.distinct
      rw [List.map_append, List.nodup_append] at distinct
      intro mem
      exact distinct.2.2 _ mem _ (by simp) rfl
    have here := readFrom_attribute inner outer part
      (written.named first (by simp)) (written.plain first (by simp)) fresh
    obtain ⟨last, isLast, read⟩ := ih (.quoted { opening with
      attributes := opening.attributes ++ [first] }) (regroup ▸ written)
    refine ⟨last, regroup ▸ isLast, ?_⟩
    rw [List.map_cons, String.join_cons, String.toList_append, readFrom_append, here,
      Option.bind_some, read]

theorem readFrom_openingTag {tag : String} (named : isName tag = true)
    {attributes : List Attribute} (written : WellWritten attributes) :
    readFrom ⟨.content, inner, outer⟩ (openingTag tag attributes).toList
      = some ⟨.content, ⟨tag, attributes, []⟩, inner :: outer⟩ := by
  obtain ⟨c, cs, chars, isAlpha, all⟩ := isName_cons named
  have whole : (openingTag tag attributes).toList
      = '<' :: c :: (cs ++ ((String.join (attributes.map Attribute.text)).toList ++ ['>'])) := by
    simp [openingTag, chars]
  have bracket : step ⟨.content, inner, outer⟩ '<' = some ⟨.bracket, inner, outer⟩ := rfl
  have letter : step ⟨.bracket, inner, outer⟩ c = some ⟨.tag [c], inner, outer⟩ := by
    have notSlash : c ≠ '/' := by rintro rfl; exact absurd isAlpha (by decide)
    have notBang : c ≠ '!' := by rintro rfl; exact absurd isAlpha (by decide)
    simp [step, notSlash, notBang, isAlpha, goto]
  have gathered : readFrom ⟨.tag [c], inner, outer⟩ cs = some ⟨.tag (c :: cs), inner, outer⟩ :=
    readFrom_name inner outer .tag (fun _ _ isNameChar => if_pos isNameChar) [c] all
  obtain ⟨last, part, read⟩ := readFrom_attributes inner outer (.tag (c :: cs))
    (show WellWritten ([] ++ attributes) from written)
  have closed : step ⟨last, inner, outer⟩ '>'
      = some ⟨.content, ⟨tag, attributes, []⟩, inner :: outer⟩ := by
    rw [step_afterPart inner outer part (by decide), ← String.ofList_toList (s := tag), chars]
    rfl
  rw [whole, readFrom_cons bracket, readFrom_cons letter, readFrom_append, gathered,
    Option.bind_some, readFrom_append, read, Option.bind_some, readFrom_cons closed]
  rfl

theorem readFrom_closingTag {tag : String} (named : isName tag = true)
    (attributes : List Attribute) (content : List Node) :
    readFrom ⟨.content, ⟨tag, attributes, content⟩, inner :: outer⟩ (closingTag tag).toList
      = some (put ⟨.content, inner, outer⟩ [.element tag attributes content]) := by
  obtain ⟨c, cs, chars, isAlpha, all⟩ := isName_cons named
  have whole : (closingTag tag).toList = '<' :: '/' :: (c :: cs ++ ['>']) := by
    simp [closingTag, chars]
  have allName : (c :: cs).all isNameChar = true := by
    rw [List.all_cons, all, Bool.and_true]
    simp [isNameChar, Char.isAlphanum, isAlpha]
  have gathered := readFrom_name ⟨tag, attributes, content⟩ (inner :: outer) .closing
    (fun _ _ isNameChar => if_pos isNameChar) [] allName
  have closed : step ⟨.closing (c :: cs), ⟨tag, attributes, content⟩, inner :: outer⟩ '>'
      = some (put ⟨.content, inner, outer⟩ [.element tag attributes content]) := by
    have same : String.ofList (c :: cs) = tag := by rw [← chars, String.ofList_toList]
    exact if_pos same
  have slash : readFrom ⟨.content, ⟨tag, attributes, content⟩, inner :: outer⟩
        ('<' :: '/' :: (c :: cs ++ ['>']))
      = readFrom ⟨.closing [], ⟨tag, attributes, content⟩, inner :: outer⟩
          (c :: cs ++ ['>']) := rfl
  rw [whole, slash, readFrom_append, gathered, List.nil_append, Option.bind_some,
    readFrom_cons closed]
  rfl

end ReaderLemmas

open ReaderLemmas

/-- An element around what can be read is read as an element around it. -/
theorem Reads.element {tag : String} (named : isName tag = true) {attributes : List Attribute}
    (written : WellWritten attributes) {text : String} {content : List Node}
    (reads : Reads text content) :
    Reads (openingTag tag attributes ++ text ++ closingTag tag)
      [.element tag attributes content] := by
  intro inner outer
  have closes := readFrom_closingTag inner outer named attributes content
  rw [String.toList_append, String.toList_append, readFrom_append, readFrom_append,
    readFrom_openingTag inner outer named written, Option.bind_some, reads, Option.bind_some, put,
    List.nil_append, closes]

/-! ## 4. Whole texts -/

theorem readContent_of_reads {text : String} {nodes : List Node} (reads : Reads text nodes) :
    readContent text = some nodes := by
  rw [readContent, start, reads]
  rfl

theorem readDocument_of_reads {text tag : String} {attributes : List Attribute}
    {content : List Node} (reads : Reads text [.element tag attributes content]) :
    readDocument text = some (.element tag attributes content) := by
  rw [readDocument, readContent_of_reads reads]

/-- An operator that is not escaped cannot be read. -/
example : (readDocument "<if>age <= 3</if>").isNone = true := by decide

end QueryScribe.Markup
