import QueryScribe.Proofs.Java.Validation

/-!
# Reading predicates

A specification compares in expressions of the criteria builder, each of which is added under a
guard. Here guards and expressions are read back from the text.

Results:
1. `readGuard_condition`: a condition is read as the check that it makes.
2. `readPredicate_statement`: the statement of a predicate is read as a comparison.
3. `readPredicates_predicatesText`: the predicates of a query are read as one comparison for each
   selected field.
-/

namespace QueryScribe.Java

open Text

/-! ## 1. Guards -/

/-- A way to write a check: what stands on either side of its subject. -/
structure GuardForm where
  start : String
  stop : String
  category : Category
  presence : Presence

/-- The ways in which checks are written. -/
def guardForms : List GuardForm :=
  [⟨"StringUtils.isEmpty(", ")", .text, .missing⟩,
   ⟨"StringUtils.isNotEmpty(", ")", .text, .present⟩,
   ⟨"CollectionUtils.isEmpty(", ")", .collection, .missing⟩,
   ⟨"CollectionUtils.isNotEmpty(", ")", .collection, .present⟩,
   ⟨"", " == null", .scalar, .missing⟩,
   ⟨"", " != null", .scalar, .present⟩]

/-- The check that a text makes if it is written in the form. -/
def GuardForm.read (form : GuardForm) (cs : List Char) : Option Check :=
  (between form.start form.stop cs).map fun subject =>
    ⟨String.ofList subject, form.category, form.presence⟩

/-- The check that a condition makes. -/
def readGuard (cs : List Char) : Option Check :=
  guardForms.findSome? (·.read cs)

namespace PredicateLemmas

/-- The first form that a text can be read in decides. -/
theorem readGuard_of_skip {form : GuardForm} {skipped others : List GuardForm}
    (whole : guardForms = skipped ++ form :: others) (subject : String)
    (skip : skipped.findSome? (·.read (form.start.toList ++ subject.toList ++ form.stop.toList))
      = none) :
    readGuard (form.start.toList ++ subject.toList ++ form.stop.toList)
      = some ⟨subject, form.category, form.presence⟩ := by
  have read : form.read (form.start.toList ++ subject.toList ++ form.stop.toList)
      = some ⟨subject, form.category, form.presence⟩ := by
    rw [GuardForm.read, between_append, Option.map_some, String.ofList_toList]
  rw [readGuard, whole, List.findSome?_append, skip, Option.none_or, List.findSome?_cons, read]

/-- A comparison by `!=` is none by `==`. -/
theorem read_differ (subject : List Char) :
    GuardForm.read ⟨"", " == null", .scalar, .missing⟩ (subject ++ " != null".toList) = none := by
  have back : afterStart " == null".toList.reverse (subject ++ " != null".toList).reverse
      = none := by
    rw [List.reverse_append]
    rfl
  have front : afterStart "".toList (subject ++ " != null".toList)
      = some (subject ++ " != null".toList) := rfl
  rw [GuardForm.read, between, front, Option.bind_eq_bind, Option.bind_some, back]
  rfl

end PredicateLemmas

open PredicateLemmas

/-- A condition is read as the check that it makes. -/
theorem readGuard_condition {check : Check} (access : IsAccess check.subject) :
    readGuard (condition check).toList = some check := by
  obtain ⟨subject, category, presence⟩ := check
  obtain ⟨more, chars⟩ : ∃ more, subject.toList = 'e' :: more := access.entity
  have helper {start : String} {category : Category} {presence : Presence}
      {skipped others : List GuardForm}
      (whole : guardForms = skipped ++ ⟨start, ")", category, presence⟩ :: others)
      (skip : skipped.findSome? (·.read (start.toList ++ subject.toList ++ ")".toList)) = none) :
      readGuard (start ++ subject ++ ")").toList = some ⟨subject, category, presence⟩ := by
    rw [String.toList_append, String.toList_append]
    exact readGuard_of_skip whole subject skip
  -- The name of a helper differs from that of any other, and from the bean's.
  have noHelper (stop : List Char) :
      (guardForms.take 4).findSome? (·.read (subject.toList ++ stop)) = none := by
    rw [chars]
    rfl
  cases category <;> cases presence
  case text.missing => exact helper (show guardForms = [] ++ _ from rfl) rfl
  case text.present => exact helper (show guardForms = [_] ++ _ from rfl) rfl
  case collection.missing => exact helper (show guardForms = [_, _] ++ _ from rfl) rfl
  case collection.present => exact helper (show guardForms = [_, _, _] ++ _ from rfl) rfl
  case scalar.missing =>
    rw [show condition ⟨subject, .scalar, .missing⟩ = subject ++ " == null" from rfl,
      String.toList_append]
    exact readGuard_of_skip
      (show guardForms = guardForms.take 4 ++ ⟨"", " == null", _, _⟩ :: _ from rfl) subject
      (noHelper _)
  case scalar.present =>
    have skip : (guardForms.take 4 ++ [(⟨"", " == null", .scalar, .missing⟩ : GuardForm)]).findSome?
        (·.read (subject.toList ++ " != null".toList)) = none := by
      rw [List.findSome?_append, noHelper, Option.none_or, List.findSome?_singleton, read_differ]
    rw [show condition ⟨subject, .scalar, .present⟩ = subject ++ " != null" from rfl,
      String.toList_append]
    exact readGuard_of_skip
      (show guardForms = (guardForms.take 4 ++ [_]) ++ ⟨"", " != null", _, _⟩ :: _ from rfl) subject
      skip

/-! ## 2. Predicates -/

/-- The methods of the criteria builder that compare with a value as it is. -/
def builderMethods : List (String × Operator) :=
  [("equal", .eq), ("notEqual", .ne), ("lessThan", .lt), ("lessThanOrEqualTo", .le),
   ("greaterThan", .gt), ("greaterThanOrEqualTo", .ge)]

/-- The operator, column and value of an expression. A pattern has its value between wildcards;
membership is asked of the path to the column. -/
def readExpression (cs : List Char) : Option (Operator × String × String) :=
  match afterStart "cb.".toList cs with
  | some call => do
    let arguments ← between "(root.get(\"" ")" (call.dropWhile (· ≠ '('))
    let value ← afterStart "\"), ".toList (arguments.dropWhile (· ≠ '"'))
    let column := String.ofList (arguments.takeWhile (· ≠ '"'))
    let method := String.ofList (call.takeWhile (· ≠ '('))
    if method = "like" then
      let value ← between "\"%\" + " " + \"%\"" value
      return (.like, column, String.ofList value)
    else
      let operator ← builderMethods.lookup method
      return (operator, column, String.ofList value)
  | none => do
    let path ← afterStart "root.get(\"".toList cs
    let value ← between "\").in(" ")" (path.dropWhile (· ≠ '"'))
    return (.isIn, String.ofList (path.takeWhile (· ≠ '"')), String.ofList value)

/-- The comparison that a statement adds to the predicates. -/
def readPredicate (statement : Guarded) : Option Comparison := do
  let guard ← readGuard statement.condition.toList
  let expression ← between "predicates.add(" ");" statement.body.toList
  let (operator, column, value) ← readExpression expression
  return ⟨guard, operator, column, value⟩

/-- The statement of a predicate. -/
def Predicate.statement (predicate : Predicate) : Guarded :=
  ⟨condition predicate.guard, "predicates.add(" ++ predicate.expression ++ ");"⟩

/-- The comparison that a predicate makes. -/
def Predicate.comparison (predicate : Predicate) : Comparison :=
  ⟨predicate.guard, predicate.operator, predicate.column, predicate.value⟩

/-- A predicate is written as a guarded statement. -/
theorem text_predicate (predicate : Predicate) :
    predicate.text = predicate.statement.text "        " := by
  unfold Predicate.text Guarded.text Predicate.statement
  apply String.toList_injective
  simp

namespace PredicateLemmas

/-- The characters of a call of the criteria builder. -/
def builderChars (method column : String) (value : List Char) : List Char :=
  "cb.".toList ++ (method.toList ++ '(' :: ("root.get(\"".toList
    ++ (column.toList ++ '"' :: ("), ".toList ++ value)) ++ ")".toList))

theorem readExpression_builder {method column : String} (value : List Char)
    (noParen : '(' ∉ method.toList) (noQuote : '"' ∉ column.toList) :
    readExpression (builderChars method column value)
      = if method = "like" then (between "\"%\" + " " + \"%\"" value).map fun value =>
          (.like, column, String.ofList value)
        else (builderMethods.lookup method).map (·, column, String.ofList value) := by
  obtain ⟨takeMethod, dropMethod⟩ := takeWhile_ne noParen
    ("root.get(\"".toList ++ (column.toList ++ '"' :: ("), ".toList ++ value)) ++ ")".toList)
  obtain ⟨takeColumn, dropColumn⟩ := takeWhile_ne noQuote ("), ".toList ++ value)
  have start : afterStart "cb.".toList (builderChars method column value) = some _ :=
    afterStart_append ..
  have arguments : between "(root.get(\"" ")" ('(' :: ("root.get(\"".toList
        ++ (column.toList ++ '"' :: ("), ".toList ++ value)) ++ ")".toList))
      = some (column.toList ++ '"' :: ("), ".toList ++ value)) :=
    between_append ..
  have second : afterStart "\"), ".toList ('"' :: ("), ".toList ++ value)) = some value :=
    afterStart_append ..
  rw [readExpression, start]
  simp only [dropMethod, arguments, dropColumn, second, takeColumn, takeMethod,
    Option.bind_eq_bind, Option.bind_some, String.ofList_toList]
  cases between "\"%\" + " " + \"%\"" value <;> cases builderMethods.lookup method <;> rfl

theorem readExpression_path {column : String} (value : String) (noQuote : '"' ∉ column.toList) :
    readExpression ("root.get(\"".toList
        ++ (column.toList ++ '"' :: (").in(".toList ++ value.toList ++ ")".toList)))
      = some (.isIn, column, value) := by
  obtain ⟨takeColumn, dropColumn⟩ := takeWhile_ne noQuote
    (").in(".toList ++ value.toList ++ ")".toList)
  have notCall : afterStart "cb.".toList ("root.get(\"".toList
      ++ (column.toList ++ '"' :: (").in(".toList ++ value.toList ++ ")".toList))) = none := rfl
  have membership : between "\").in(" ")" ('"' :: (").in(".toList ++ value.toList ++ ")".toList))
      = some value.toList := between_append ..
  rw [readExpression, notCall]
  simp only [afterStart_append, dropColumn, takeColumn, membership, Option.bind_eq_bind,
    Option.bind_some, String.ofList_toList]
  rfl

end PredicateLemmas

/-- The expression of a predicate is read as what it compares. -/
theorem readExpression_expression {predicate : Predicate}
    (column : '"' ∉ predicate.column.toList) :
    readExpression predicate.expression.toList
      = some (predicate.operator, predicate.column, predicate.value) := by
  have builder {method : String} (noParen : '(' ∉ method.toList) (notLike : method ≠ "like") :
      readExpression (predicate.builderCall method).toList
        = (builderMethods.lookup method).map (·, predicate.column, predicate.value) := by
    have chars : (predicate.builderCall method).toList
        = builderChars method predicate.column predicate.value.toList := by
      simp [Predicate.builderCall, Predicate.path, builderChars]
    rw [chars, readExpression_builder _ noParen column, if_neg notLike, String.ofList_toList]
  rw [Predicate.expression]
  cases operator : predicate.operator
  case like =>
    have chars : ("cb.like(" ++ predicate.path ++ ", \"%\" + " ++ predicate.value
          ++ " + \"%\")").toList
        = builderChars "like" predicate.column
            ("\"%\" + ".toList ++ predicate.value.toList ++ " + \"%\"".toList) := by
      simp [Predicate.path, builderChars]
    rw [chars, readExpression_builder _ (by decide) column, if_pos rfl, between_append,
      Option.map_some, String.ofList_toList]
  case isIn =>
    have chars : (predicate.path ++ ".in(" ++ predicate.value ++ ")").toList
        = "root.get(\"".toList ++ (predicate.column.toList
            ++ '"' :: (").in(".toList ++ predicate.value.toList ++ ")".toList)) := by
      simp [Predicate.path]
    rw [chars, readExpression_path _ column]
  all_goals exact builder (by decide) (by decide)

/-- The statement of a predicate is read as the comparison that it makes. -/
theorem readPredicate_statement {predicate : Predicate} (access : IsAccess predicate.guard.subject)
    (column : '"' ∉ predicate.column.toList) :
    readPredicate predicate.statement = some predicate.comparison := by
  have body : between "predicates.add(" ");" predicate.statement.body.toList
      = some predicate.expression.toList := by
    rw [Predicate.statement, String.toList_append, String.toList_append, between_append]
  have guard : readGuard predicate.statement.condition.toList = some predicate.guard :=
    readGuard_condition access
  rw [readPredicate, guard, body, Option.bind_eq_bind, Option.bind_some, Option.bind_eq_bind,
    Option.bind_some, readExpression_expression column]
  rfl

/-! ## 3. The predicates of a query -/

/-- The comparisons that are added to the predicates in a text. -/
def readPredicates (text : String) : Option (List Comparison) := do
  (← readBlock text).mapM readPredicate

namespace PredicateLemmas

theorem hasNoBraces_expression {predicate : Predicate} (column : HasNoBraces predicate.column)
    (value : HasNoBraces predicate.value) : HasNoBraces predicate.expression := by
  have path : HasNoBraces predicate.path :=
    forall_append (forall_append (by decide) column) (by decide)
  have builder {method : String} (plain : HasNoBraces method) :
      HasNoBraces (predicate.builderCall method) :=
    forall_append (forall_append (forall_append (forall_append (forall_append (forall_append
      (by decide) plain) (by decide)) path) (by decide)) value) (by decide)
  rw [Predicate.expression]
  cases predicate.operator with
  | like =>
    exact forall_append (forall_append (forall_append (forall_append (by decide) path) (by decide))
      value) (by decide)
  | isIn => exact forall_append (forall_append (forall_append path (by decide)) value) (by decide)
  | _ => exact builder (by decide)

theorem isClosed_predicate {predicate : Predicate} (access : IsAccess predicate.guard.subject)
    (column : HasNoBraces predicate.column) (value : HasNoBraces predicate.value) :
    predicate.statement.IsClosed where
  condition := hasNoBraces_condition access
  body := forall_append (forall_append (by decide) (hasNoBraces_expression column value))
    (by decide)
  trimmed := by
    rw [Predicate.statement, String.toList_append, String.toList_append]
    exact isTrimmed_around _ (by decide) (by decide)

end PredicateLemmas

/-- The predicates of a query are read as one comparison for each selected field. -/
theorem readPredicates_predicatesText {query : Query} (named : query.HasIdentifiers) :
    readPredicates (predicatesText query) = some (query.selections.map fun selection =>
      (Predicate.ofSelection selection).comparison) := by
  have access (selection : Selection) (mem : selection ∈ query.selections) :
      IsAccess (accessor selection.name) :=
    isAccess_accessor (named.selected selection mem)
  have column (selection : Selection) (mem : selection ∈ query.selections) :=
    isWordChar_of_mem (named.columns selection mem)
  have closed : ∀ statement ∈ query.selections.map fun selection =>
      (Predicate.ofSelection selection).statement, statement.IsClosed := by
    intro statement mem
    obtain ⟨selection, selected, rfl⟩ := List.mem_map.mp mem
    exact isClosed_predicate (access selection selected)
      (.of_forall (column selection selected) (by decide) (by decide))
      (.of_forall (access selection selected).chars (by decide) (by decide))
  have whole : predicatesText query = String.join ((query.selections.map fun selection =>
      (Predicate.ofSelection selection).statement).map (Guarded.text "        ")) := by
    rw [predicatesText, List.map_map, List.map_map]
    exact congrArg String.join (List.map_congr_left fun selection _ => text_predicate _)
  rw [readPredicates, whole, readBlock_join (by decide) closed, Option.bind_eq_bind,
    Option.bind_some]
  refine mapM_map_of_reads fun selection mem =>
    readPredicate_statement (access selection mem) fun quote => ?_
  exact absurd (column selection mem _ quote) (by decide)

end QueryScribe.Java
