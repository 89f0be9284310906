import QueryScribe.Proofs.Java.Predicate

/-!
# Reading calls

A chain has one call a line. A call that compares has its guard as an argument, in front of the
column and the value; it comes after an `or` if the line in front of it is one. Here these calls are
read back from the lines.

Results:
1. `readCall_compare`: a call that compares is read as its comparison.
2. `readLinks_or`, `readLinks_assign`, `readLinks_compare`: what one line adds to the links of the
   lines behind it; `readLinks_map_line`, `readChain_join`: the links of all lines.
3. `readChain_ofQuery`: the calls of a query are read as one comparison for each selected field.
-/

namespace QueryScribe.Java

open Text

/-! ## 1. Calls -/

/-- The methods of a chain that compare. -/
def comparisonMethods : List (String × Operator) :=
  [("eq", .eq), ("ne", .ne), ("lt", .lt), ("le", .le), ("gt", .gt), ("ge", .ge), ("like", .like),
   ("in", .isIn)]

/-- The comparison that a link of a chain makes: its arguments are the guard, the column and the
value. -/
def readCall (line : List Char) : Option Comparison := do
  let call ← between "        ." ")" line
  let operator ← comparisonMethods.lookup (String.ofList (call.takeWhile (· ≠ '(')))
  let arguments ← afterStart ['('] (call.dropWhile (· ≠ '('))
  match arguments.splitOn ',' with
  | [guard, column, value] => do
    let guard ← readGuard guard
    let column ← afterStart [' '] column
    let value ← afterStart [' '] value
    return ⟨guard, operator, String.ofList column, String.ofList value⟩
  | _ => none

/-- Whether a character may stand in a reference to a method. -/
def isReferenceChar (c : Char) : Bool :=
  isWordChar c || c = ':'

/-- Whether the arguments of a call can be told from each other. -/
structure IsArguments (flag : Check) (reference value : String) : Prop where
  flag : IsAccess flag.subject
  reference : ∀ c ∈ reference.toList, isReferenceChar c = true
  value : ∀ c ∈ value.toList, isAccessChar c = true

/-- A call of three arguments, as a line. -/
def callChars (method guard column value : List Char) : List Char :=
  "        .".toList
    ++ (method ++ '(' :: (guard ++ ',' :: (' ' :: column ++ ',' :: (' ' :: value))))
    ++ ")".toList

/-- The line of a call. -/
def Call.line : Call → List Char
  | or => "        .or()".toList
  | compare operator flag reference value =>
    callChars (comparisonMethod operator).toList (condition flag).toList reference.toList
      value.toList
  | assign flag reference value =>
    callChars "set".toList (condition flag).toList reference.toList value.toList

namespace CallLemmas

variable {flag : Check} {reference value : String}

/-- No argument has a comma in it. -/
theorem splitOn_arguments (arguments : IsArguments flag reference value) :
    ((condition flag).toList ++ ',' :: (' ' :: reference.toList
        ++ ',' :: (' ' :: value.toList))).splitOn ','
      = [(condition flag).toList, ' ' :: reference.toList, ' ' :: value.toList] := by
  have inGuard : ',' ∉ (condition flag).toList :=
    fun mem => absurd (isConditionChar_condition arguments.flag _ mem) (by decide)
  have inColumn : ',' ∉ ' ' :: reference.toList := by
    simpa using fun mem => absurd (arguments.reference _ mem) (by decide)
  have inValue : ',' ∉ ' ' :: value.toList := by
    simpa using fun mem => absurd (arguments.value _ mem) (by decide)
  rw [List.splitOn_append_cons_self_of_not_mem inGuard,
    List.splitOn_append_cons_self_of_not_mem inColumn, List.splitOn_eq_singleton inValue]

end CallLemmas

open CallLemmas

/-- A call that compares is read as its comparison. -/
theorem readCall_compare (operator : Operator) {flag : Check} {reference value : String}
    (arguments : IsArguments flag reference value) :
    readCall (Call.line (.compare operator flag reference value))
      = some ⟨flag, operator, reference, value⟩ := by
  have noParen : '(' ∉ (Call.comparisonMethod operator).toList := by cases operator <;> decide
  have found : comparisonMethods.lookup (Call.comparisonMethod operator) = some operator := by
    cases operator <;> rfl
  have call : between "        ." ")" (Call.line (.compare operator flag reference value))
      = some _ := between_append ..
  obtain ⟨takeMethod, dropMethod⟩ := takeWhile_ne noParen ((condition flag).toList
    ++ ',' :: (' ' :: reference.toList ++ ',' :: (' ' :: value.toList)))
  rw [readCall, call]
  simp only [takeMethod, dropMethod, found, afterStart, if_true, splitOn_arguments arguments,
    readGuard_condition arguments.flag, Option.bind_eq_bind, Option.bind_some, String.ofList_toList]
  rfl

/-! ## 2. Lines -/

/-- A comparison in a chain, and whether it comes directly after an `or`. -/
structure Link where
  afterOr : Bool
  comparison : Comparison
  deriving Repr, DecidableEq

/-- The comparisons of a chain's links. Those that assign are not among them. -/
def readLinks (afterOr : Bool) : List (List Char) → Option (List Link)
  | [] => some []
  | line :: lines =>
    if line = "        .or()".toList then readLinks true lines
    else if (afterStart "        .set(".toList line).isSome then readLinks false lines
    else do
      let comparison ← readCall line
      let others ← readLinks false lines
      return ⟨afterOr, comparison⟩ :: others

/-- The lines of a text, if the last one is complete too. -/
def linesOf (text : String) : Option (List (List Char)) :=
  let pieces := text.toList.splitOn '\n'
  if pieces.getLast? = some [] then some pieces.dropLast else none

/-- The comparisons in the calls of a chain. -/
def readChain (calls : String) : Option (List Link) := do
  readLinks false (← linesOf calls)

section Step

variable (afterOr : Bool) (lines : List (List Char))

theorem readLinks_or : readLinks afterOr (Call.line .or :: lines) = readLinks true lines := by
  rw [readLinks, if_pos (show Call.line .or = "        .or()".toList from rfl)]

theorem readLinks_assign (flag : Check) (reference value : String) :
    readLinks afterOr (Call.line (.assign flag reference value) :: lines)
      = readLinks false lines := by
  have assigns : (afterStart "        .set(".toList
      (Call.line (.assign flag reference value))).isSome = true := rfl
  have notOr : Call.line (.assign flag reference value) ≠ "        .or()".toList := by
    intro same
    rw [same] at assigns
    exact absurd assigns (by decide)
  rw [readLinks, if_neg notOr, if_pos assigns]

theorem readLinks_compare (operator : Operator) {flag : Check} {reference value : String}
    (arguments : IsArguments flag reference value) :
    readLinks afterOr (Call.line (.compare operator flag reference value) :: lines)
      = (readLinks false lines).map (⟨afterOr, flag, operator, reference, value⟩ :: ·) := by
  have compares := readCall_compare operator arguments
  have notAssign : (afterStart "        .set(".toList
      (Call.line (.compare operator flag reference value))).isSome = false := by
    cases operator <;> rfl
  have notOr : Call.line (.compare operator flag reference value) ≠ "        .or()".toList := by
    intro same
    rw [same, show readCall "        .or()".toList = none by decide] at compares
    exact absurd compares (Option.some_ne_none _).symm
  rw [readLinks, if_neg notOr, if_neg (Bool.eq_false_iff.mp notAssign), compares]
  cases readLinks false lines <;> rfl

end Step

/-- The comparisons that calls make. -/
def links (afterOr : Bool) : List Call → List Link
  | [] => []
  | .or :: calls => links true calls
  | .assign .. :: calls => links false calls
  | .compare operator guard column value :: calls =>
    ⟨afterOr, ⟨guard, operator, column, value⟩⟩ :: links false calls

/-- Whether a call can be read back from its line. -/
def Call.IsReadable : Call → Prop
  | or => True
  | compare _ flag reference value | assign flag reference value => IsArguments flag reference value

namespace CallLemmas

theorem text_call (call : Call) : call.text.toList = call.line ++ ['\n'] := by
  unfold Call.text Call.line callChars
  cases call <;> simp

theorem newline_notMem_callChars {flag : Check} {reference value : String}
    (arguments : IsArguments flag reference value) {method : List Char} (inMethod : '\n' ∉ method) :
    '\n' ∉ callChars method (condition flag).toList reference.toList value.toList := by
  have inGuard : '\n' ∉ (condition flag).toList :=
    fun mem => absurd (isConditionChar_condition arguments.flag _ mem) (by decide)
  have inColumn : '\n' ∉ reference.toList :=
    fun mem => absurd (arguments.reference _ mem) (by decide)
  have inValue : '\n' ∉ value.toList :=
    fun mem => absurd (arguments.value _ mem) (by decide)
  unfold callChars
  simp only [List.mem_append, List.mem_cons, not_or]
  exact ⟨⟨by decide, inMethod, by decide, inGuard, by decide, ⟨by decide, inColumn⟩, by decide,
    by decide, inValue⟩, by decide⟩

theorem newline_notMem_line {call : Call} (readable : call.IsReadable) : '\n' ∉ call.line := by
  cases call with
  | or => decide
  | compare operator flag reference value =>
    have inMethod : '\n' ∉ (Call.comparisonMethod operator).toList := by
      cases operator <;> decide
    exact newline_notMem_callChars readable inMethod
  | assign flag reference value =>
    exact newline_notMem_callChars readable (show '\n' ∉ "set".toList by decide)

theorem splitOn_text {call : Call} (readable : call.IsReadable) (rest : String) :
    (call.text ++ rest).toList.splitOn '\n' = call.line :: rest.toList.splitOn '\n' := by
  rw [String.toList_append, text_call, List.append_assoc, List.singleton_append,
    List.splitOn_append_cons_self_of_not_mem (newline_notMem_line readable)]

theorem linesOf_append {call : Call} (readable : call.IsReadable) (rest : String) :
    linesOf (call.text ++ rest) = (linesOf rest).map (call.line :: ·) := by
  have pieces := splitOn_text readable rest
  obtain ⟨first, others, follows⟩ :=
    List.exists_cons_of_ne_nil (List.splitOn_ne_nil '\n' rest.toList)
  rw [linesOf, linesOf, pieces, follows, List.getLast?_cons_cons, List.dropLast_cons_cons]
  split <;> rfl

/-- Every call is a line. -/
theorem linesOf_join {calls : List Call} (readable : ∀ call ∈ calls, call.IsReadable) :
    linesOf (String.join (calls.map Call.text)) = some (calls.map Call.line) := by
  induction calls with
  | nil => rfl
  | cons call calls ih =>
    rw [List.map_cons, String.join_cons, linesOf_append (readable call (by simp)),
      ih fun other mem => readable other (List.mem_cons_of_mem _ mem)]
    rfl

end CallLemmas

open CallLemmas

/-- Lines of calls are read one after the other. -/
theorem readLinks_map_line {calls : List Call} (readable : ∀ call ∈ calls, call.IsReadable)
    (afterOr : Bool) : readLinks afterOr (calls.map Call.line) = some (links afterOr calls) := by
  induction calls generalizing afterOr with
  | nil => rfl
  | cons call calls ih =>
    have here := readable call (by simp)
    have rest := ih fun other mem => readable other (List.mem_cons_of_mem _ mem)
    rw [List.map_cons]
    cases call with
    | or => rw [readLinks_or, rest, links]
    | assign flag reference value => rw [readLinks_assign, rest, links]
    | compare operator flag reference value =>
      rw [readLinks_compare afterOr _ operator here, rest, links, Option.map_some]

/-- The calls of a chain are read back from their text. -/
theorem readChain_join {calls : List Call} (readable : ∀ call ∈ calls, call.IsReadable) :
    readChain (String.join (calls.map Call.text)) = some (links false calls) := by
  rw [readChain, linesOf_join readable, Option.bind_eq_bind, Option.bind_some,
    readLinks_map_line readable]

/-! ## 3. The calls of a query -/

/-- The link that compares a selected field. -/
def Link.ofSelection (target : String) (afterOr : Bool) (selection : Selection) : Link :=
  ⟨afterOr, fieldCheck .present selection.field, selection.operator,
    methodReference target selection.column, accessor selection.name⟩

/-- The links that compare selected fields. The first one comes after nothing. -/
def Link.ofSelections (target : String) : List Selection → List Link
  | [] => []
  | first :: others =>
    ofSelection target false first
      :: others.map fun selection => ofSelection target (selection.connector = .or) selection

/-- A chain as text: the call that begins it, its calls one a line, and the call that ends it. -/
def chainText (kind calls ending : String) : String :=
  "    return this.lambda" ++ kind ++ "()\n" ++ calls ++ "        ." ++ ending ++ ";\n"

namespace CallLemmas

theorem links_assignments (target : String) (fields : List Field) (calls : List Call) :
    links false (fields.map (Call.ofField target) ++ calls) = links false calls := by
  induction fields with
  | nil => rfl
  | cons field fields ih => exact ih

theorem links_joined (target : String) (selections : List Selection) :
    links false (selections.flatMap (Call.joined target))
      = selections.map fun selection =>
        Link.ofSelection target (selection.connector = .or) selection := by
  induction selections with
  | nil => rfl
  | cons selection others ih =>
    rw [List.flatMap_cons, List.map_cons, ← ih, Call.joined]
    cases selection.connector <;> rfl

theorem links_ofSelections (target : String) (selections : List Selection) :
    links false (Call.ofSelections target selections) = Link.ofSelections target selections := by
  cases selections with
  | nil => rfl
  | cons first others => exact congrArg (_ :: ·) (links_joined target others)

theorem mem_ofSelections {target : String} {selections : List Selection} {call : Call}
    (mem : call ∈ Call.ofSelections target selections) :
    call = .or ∨ ∃ selection ∈ selections, call = .ofSelection target selection := by
  cases selections with
  | nil => exact absurd mem List.not_mem_nil
  | cons first others =>
    rcases List.mem_cons.mp mem with rfl | mem
    · exact .inr ⟨first, by simp, rfl⟩
    obtain ⟨selection, among, mem⟩ := List.mem_flatMap.mp mem
    have cases : call = .or ∨ call = .ofSelection target selection := by
      rw [Call.joined] at mem
      split at mem
      · exact .inr (List.mem_singleton.mp mem)
      · simpa using mem
    exact cases.imp_right fun same => ⟨selection, List.mem_cons_of_mem _ among, same⟩

/-- Arguments that are made of identifiers can be told from each other. -/
theorem isArguments_ofField {target column : String} {field : Field}
    (owner : HasWordChars target) (named : isIdentifier field.name = true)
    (ofColumn : HasWordChars column) :
    IsArguments (fieldCheck .present field) (methodReference target column)
      (accessor field.name) where
  flag := isAccess_accessor named
  reference := by
    have reference {s : String} (word : HasWordChars s) :
        ∀ c ∈ s.toList, isReferenceChar c = true := fun c mem => by
      simp [isReferenceChar, word c mem]
    exact forall_append (forall_append (reference owner) (by decide))
      (reference (isWordChar_capitalize ofColumn))
  value := (isAccess_accessor named).chars

theorem isReadable_ofSelections {query : Query} (named : query.HasIdentifiers) :
    ∀ call ∈ Call.ofSelections query.target.name query.selections, call.IsReadable := by
  intro call mem
  rcases mem_ofSelections mem with rfl | ⟨selection, selected, rfl⟩
  · exact trivial
  · exact isArguments_ofField (isWordChar_of_mem named.target) (named.selected selection selected)
      (isWordChar_of_mem (named.columns selection selected))

theorem isReadable_assignments {query : Query} (owner : HasWordChars query.target.name)
    (declared : ∀ field ∈ query.source.fields, isIdentifier field.name = true) :
    ∀ call ∈ query.sharedFields.map (Call.ofField query.target.name), call.IsReadable := by
  intro call mem
  obtain ⟨field, shared, rfl⟩ := List.mem_map.mp mem
  have named := declared field (List.mem_filter.mp shared).1
  exact isArguments_ofField owner named (isWordChar_of_mem named)

theorem text_list (target : String) (conditions : List Call) :
    (Chain.list conditions).text target
      = chainText "Query" (String.join (conditions.map Call.text)) "list()" := by
  unfold Chain.text chainText
  apply String.toList_injective
  simp

theorem text_update (target : String) (assignments conditions : List Call) :
    (Chain.update assignments conditions).text target
      = chainText "Update" (String.join ((assignments ++ conditions).map Call.text))
        ("update(new " ++ target ++ "())") := by
  unfold Chain.text chainText
  apply String.toList_injective
  simp

theorem text_remove (target : String) (conditions : List Call) :
    (Chain.remove conditions).text target
      = chainText "Update" (String.join (conditions.map Call.text)) "remove()" := by
  unfold Chain.text chainText
  apply String.toList_injective
  simp

end CallLemmas

/-- Between the call that begins a query's chain and the one that ends it, one link compares each
selected field. -/
theorem readChain_ofQuery {query : Query} (named : query.HasIdentifiers)
    (filtered : query.operation ∈ [.select, .selectPage, .update, .delete]) :
    ∃ kind calls ending,
      (Chain.ofQuery query).text query.target.name = chainText kind calls ending
      ∧ '\n' ∉ kind.toList ∧ '\n' ∉ ending.toList
      ∧ readChain calls = some (Link.ofSelections query.target.name query.selections) := by
  have conditions := readChain_join (isReadable_ofSelections named)
  have readable := List.forall_mem_append.mpr
    ⟨isReadable_assignments (isWordChar_of_mem named.target) named.declared,
      isReadable_ofSelections named⟩
  have calls := readChain_join readable
  rw [links_assignments] at calls
  rw [links_ofSelections] at conditions calls
  have target : '\n' ∉ query.target.name.toList := fun mem =>
    absurd (isWordChar_of_mem named.target _ mem) (by decide)
  rw [Chain.ofQuery]
  simp only [List.mem_cons, List.not_mem_nil, or_false] at filtered
  rcases filtered with operation | operation | operation | operation <;> rw [operation]
  case inl | inr.inl => exact ⟨_, _, _, text_list _ _, by decide, by decide, conditions⟩
  case inr.inr.inl => exact ⟨_, _, _, text_update _ _ _, by decide, by simp [target], calls⟩
  case inr.inr.inr => exact ⟨_, _, _, text_remove _ _, by decide, by decide, conditions⟩

end QueryScribe.Java
