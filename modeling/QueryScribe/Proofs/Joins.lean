import QueryScribe.Proofs.Java.Call
import QueryScribe.Proofs.Java.Chain
import QueryScribe.Proofs.Mapper.Writing

/-!
# Joins across dialects

A chain of calls remembers a connector past fields that are missing; markup keeps the connector
inside the element of its own field, which is left out with it. For one query and one bean, both
dialects put the same fields into effect, but not always by the same connectors.

Results:
1. `rememberedJoins_eq_iff`: when remembering and writing connectors comes to the same.
2. `linkedJoins_ofSelections`, `readJoins_criteria`: the joins that are read from the texts of a
   query are those of its chain and of its criteria.
3. `joins_agree_iff`: when the chain and the markup of a query join their conditions alike;
   `joins_agree_of_writes`: they always do when rows are written.
-/

namespace QueryScribe

open Markup Mapper Java ClauseLemmas EffectLemmas OutlineLemmas

/-! ## Joins -/

/-- Joins without the first one, which has nothing before it. -/
def dropFirstJoin : List (Connector × α) → List (Option Connector × α)
  | [] => []
  | (_, first) :: others => (none, first) :: others.map fun (join, other) => (some join, other)

/-- The position of the selected field that a condition is about. -/
def Mapper.Condition.position : Condition → Option Nat
  | never => none
  | clause position _ => some position

/-- The conditions that the links of a chain append, each with the connector it joins by and its
position; `pending` is the connector that the next one joins by. -/
def linkedJoins (bean : Bean) (pending : Connector) (position : Nat) :
    List Link → List (Connector × Nat)
  | [] => []
  | link :: links =>
    let join := if link.afterOr then .or else pending
    let guard := link.comparison.guard
    if guard.presence.holds guard.category (bean guard.subject) then
      (join, position) :: linkedJoins bean .and (position + 1) links
    else linkedJoins bean join (position + 1) links

/-- The conditions that the elements of criteria put into effect, each with the connector in front
of it and the position of its field. The condition that is never true has neither a field nor a
connector. -/
def readJoins (contents : String → Content) (position : Nat) :
    List Outline → Option (List (Connector × Option Nat))
  | [] => some []
  | outline :: outlines => do
    let here ← (contributes contents outline).toOption
    if isNeverTrue outline then
      let others ← readJoins contents position outlines
      return if here then (.and, none) :: others else others
    else
      let criterion ← readCriterion outline
      let others ← readJoins contents (position + 1) outlines
      return if here then (criterion.connector, some position) :: others else others

/-- The joins of selected fields when every present one brings its own connector. -/
def writtenJoins (contents : String → Content) (position : Nat) (selections : List Selection) :
    List (Connector × Nat) :=
  ((selections.zipIdx position).filter fun (selection, _) => selection.isPresent contents).map
    fun (selection, position) => (selection.connector, position)

/-- Whether no missing field between two present ones asks for `or` when the second of them asks for
`and`. -/
def KeepsJoins (contents : String → Content) (selections : List Selection) : Prop :=
  ∀ early first skipped next late, selections = early ++ first :: (skipped ++ next :: late) →
    first.isPresent contents = true → next.isPresent contents = true →
    (∀ selection ∈ skipped, selection.isPresent contents = false) →
    next.connector = .and → ∀ selection ∈ skipped, selection.connector = .and

variable {contents : String → Content}

/-! ## 1. Remembered and written connectors -/

namespace JoinLemmas

theorem writtenJoins_cons (position : Nat) (selection : Selection) (others : List Selection) :
    writtenJoins contents position (selection :: others)
      = if selection.isPresent contents then
          (selection.connector, position) :: writtenJoins contents (position + 1) others
        else writtenJoins contents (position + 1) others := by
  cases present : selection.isPresent contents <;>
    simp [writtenJoins, List.zipIdx_cons, present]

/-- Whether the next present field asks for `or` when a connector is pending or a missing field in
front of it asks for `or`. -/
def Continues (contents : String → Content) (pending : Connector) (selections : List Selection) :
    Prop :=
  ∀ skipped next late, selections = skipped ++ next :: late →
    next.isPresent contents = true →
    (∀ selection ∈ skipped, selection.isPresent contents = false) →
    next.connector = .and → pending = .and ∧ ∀ selection ∈ skipped, selection.connector = .and

theorem continues_cons_present {pending : Connector} {selection : Selection}
    {others : List Selection} (present : selection.isPresent contents = true) :
    Continues contents pending (selection :: others)
      ↔ (selection.connector = .and → pending = .and) := by
  constructor
  · intro continues asksAnd
    exact (continues [] selection others rfl present (by simp) asksAnd).1
  · intro asks skipped next late whole nextPresent skippedMissing nextAnd
    cases skipped with
    | nil =>
      obtain ⟨rfl, rfl⟩ := List.cons.inj whole
      exact ⟨asks nextAnd, by simp⟩
    | cons first skipped =>
      obtain ⟨rfl, _⟩ := List.cons.inj whole
      exact absurd present (by simp [skippedMissing selection (by simp)])

theorem continues_cons_missing {pending : Connector} {selection : Selection}
    {others : List Selection} (missing : selection.isPresent contents = false) :
    Continues contents pending (selection :: others)
      ↔ Continues contents (remember pending selection.connector) others := by
  have asks : (remember pending selection.connector) = .and
      ↔ pending = .and ∧ selection.connector = .and := by
    cases selection.connector <;> simp [remember]
  constructor
  · intro continues skipped next late whole nextPresent skippedMissing nextAnd
    obtain ⟨pendingAnd, all⟩ := continues (selection :: skipped) next late (by rw [whole]; rfl)
      nextPresent (by simpa [missing] using skippedMissing) nextAnd
    exact ⟨asks.mpr ⟨pendingAnd, all selection (by simp)⟩,
      fun other mem => all other (List.mem_cons_of_mem _ mem)⟩
  · intro continues skipped next late whole nextPresent skippedMissing nextAnd
    cases skipped with
    | nil =>
      obtain ⟨rfl, rfl⟩ := List.cons.inj whole
      exact absurd nextPresent (by simp [missing])
    | cons first skipped =>
      obtain ⟨rfl, rfl⟩ := List.cons.inj whole
      obtain ⟨pendingAnd, all⟩ := continues skipped next late rfl nextPresent
        (fun other mem => skippedMissing other (List.mem_cons_of_mem _ mem)) nextAnd
      obtain ⟨pendingAnd, asksAnd⟩ := asks.mp pendingAnd
      exact ⟨pendingAnd, by simpa [asksAnd] using all⟩

theorem keepsJoins_cons {selection : Selection} {others : List Selection} :
    KeepsJoins contents (selection :: others)
      ↔ (selection.isPresent contents = true → Continues contents .and others)
        ∧ KeepsJoins contents others := by
  constructor
  · intro keeps
    refine ⟨fun present skipped next late whole nextPresent skippedMissing nextAnd => ?_, ?_⟩
    · exact ⟨rfl, keeps [] selection skipped next late (by rw [whole]; rfl) present nextPresent
        skippedMissing nextAnd⟩
    · intro early first skipped next late whole
      exact keeps (selection :: early) first skipped next late (by rw [whole]; rfl)
  · rintro ⟨here, later⟩ early first skipped next late whole firstPresent nextPresent
      skippedMissing nextAnd
    -- The first of the two present fields is in front, or else among the others.
    cases early with
    | nil =>
      obtain ⟨rfl, rfl⟩ := List.cons.inj whole
      exact (here firstPresent skipped next late rfl nextPresent skippedMissing nextAnd).2
    | cons other early =>
      obtain ⟨rfl, rfl⟩ := List.cons.inj whole
      exact later early first skipped next late rfl firstPresent nextPresent skippedMissing nextAnd

end JoinLemmas

open JoinLemmas

/-- By induction on the fields: a present field settles what is pending before it, a missing one
hands it on. -/
theorem rememberedJoins_eq_iff (pending : Connector) (position : Nat)
    (selections : List Selection) :
    rememberedJoins contents pending position selections = writtenJoins contents position selections
      ↔ Continues contents pending selections ∧ KeepsJoins contents selections := by
  induction selections generalizing pending position with
  | nil => simp [rememberedJoins, writtenJoins, Continues, KeepsJoins]
  | cons selection others ih =>
    rw [rememberedJoins, writtenJoins_cons, keepsJoins_cons]
    cases present : selection.isPresent contents with
    | true =>
      rw [continues_cons_present present, if_pos rfl, if_pos rfl, List.cons.injEq, ih]
      have asks : (remember pending selection.connector) = selection.connector
          ↔ (selection.connector = .and → pending = .and) := by
        cases selection.connector <;> simp [remember]
      simp [asks]
    | false =>
      rw [continues_cons_missing present, if_neg (by simp), if_neg (by simp), ih]
      simp

/-! ## 2. Joins in texts -/

namespace JoinLemmas

theorem linkedJoins_joined (bean : Bean) (target : String) (pending : Connector) (position : Nat)
    (selections : List Selection) :
    linkedJoins bean pending position (selections.map fun selection =>
        Link.ofSelection target (selection.connector = .or) selection)
      = rememberedJoins bean.contents pending position selections := by
  induction selections generalizing pending position with
  | nil => rfl
  | cons selection others ih =>
    rw [List.map_cons, linkedJoins, rememberedJoins, ih, ih, Link.ofSelection]
    cases selection.connector <;> rfl

end JoinLemmas

open JoinLemmas

/-- The links of selected fields append what their calls do. -/
theorem linkedJoins_ofSelections (bean : Bean) (target : String) {selections : List Selection}
    (named : ∀ selection ∈ selections, Text.isIdentifier selection.name = true) :
    appended bean .and 0 (Call.ofSelections target selections)
      = some (linkedJoins bean .and 0 (Link.ofSelections target selections)) := by
  cases selections with
  | nil => rfl
  | cons first others =>
    rw [appended_ofSelections bean target named, Link.ofSelections, linkedJoins, linkedJoins_joined,
      linkedJoins_joined]
    rfl

namespace JoinLemmas

theorem contributes_criterionOutline {selection : Selection} (named : IsTestName selection.name) :
    contributes contents (criterionOutline selection) = .ok (selection.isPresent contents) := by
  obtain ⟨words, inside, outline⟩ := criterionOutline_eq selection
  rw [outline, contributes, if_pos rfl]
  exact holds_presentTest named

/-- By induction on the selections: each is one element, which brings its connector if it is
there. -/
theorem readJoins_criterionOutlines {selections : List Selection}
    (named : ∀ selection ∈ selections, IsTestName selection.name)
    (columns : ∀ selection ∈ selections, Text.isIdentifier selection.column = true)
    (position : Nat) :
    readJoins contents position (selections.map criterionOutline)
      = some ((writtenJoins contents position selections).map
          fun (join, position) => (join, some position)) := by
  induction selections generalizing position with
  | nil => rfl
  | cons selection others ih =>
    have reads := readCriterion_criterionOutline (named selection (by simp)).1
      (columns selection (by simp))
    have rest := ih (fun other mem => named other (List.mem_cons_of_mem _ mem))
      (fun other mem => columns other (List.mem_cons_of_mem _ mem)) (position + 1)
    rw [List.map_cons, readJoins, contributes_criterionOutline (named selection (by simp)),
      isNeverTrue_of_readCriterion reads, reads, rest, writtenJoins_cons]
    cases selection.isPresent contents <;> rfl

theorem joins_presentClauses (contents : String → Content) (query : Query) :
    (presentClauses contents query).map (fun condition => (condition.connector, condition.position))
      = (writtenJoins contents 0 query.selections).map
          fun (join, position) => (join, some position) := by
  rw [presentClauses, writtenJoins, List.map_map, List.map_map]
  rfl

/-- The guard joins nothing. -/
theorem readJoins_guardOutlines {query : Query}
    (named : ∀ selection ∈ query.selections, IsTestName selection.name)
    (filtered : query.operation ∈ [.select, .selectPage, .update, .delete])
    {outlines : List Outline} {joins : List (Connector × Option Nat)}
    (reads : readJoins contents 0 outlines = some joins) :
    readJoins contents 0 (guardOutlines query ++ outlines)
      = some ((guardClauses contents query).map (fun condition =>
          (condition.connector, condition.position)) ++ joins) := by
  have never : wordsOf "1=0".toList = ["1=0"] := by decide
  have here : contributes contents (ifOutline
      (unusableTest query.operation (firstSelection query) query.selections.tail) "1=0" [])
      = .ok (query.lacksCriteria contents) := by
    rw [ifOutline, contributes, if_pos rfl]
    exact holds_unusableTest contents named
  rw [guardOutlines, guardClauses]
  cases operation : query.operation with
  | selectPage => exact reads
  | insert => exact absurd (operation ▸ filtered) (by decide)
  | select | update | delete =>
    rw [operation] at here
    rw [if_neg (by decide), List.singleton_append, readJoins, here, reads, ifOutline, never]
    cases query.lacksCriteria contents <;> rfl

end JoinLemmas

/-- The elements of a query's criteria put the conditions of its criteria into effect. -/
theorem readJoins_criteria {query : Query}
    (named : ∀ selection ∈ query.selections, IsTestName selection.name)
    (columns : ∀ selection ∈ query.selections, Text.isIdentifier selection.column = true)
    (filtered : query.operation ∈ [.select, .selectPage, .update, .delete]) :
    readJoins contents 0 (guardOutlines query ++ query.selections.map criterionOutline)
      = some ((guardClauses contents query ++ presentClauses contents query).map fun condition =>
          (condition.connector, condition.position)) := by
  have clauses : readJoins contents 0 _ = _ := readJoins_criterionOutlines named columns 0
  rw [← joins_presentClauses] at clauses
  rw [readJoins_guardOutlines named filtered clauses, List.map_append]

/-! ## 3. Joins that agree -/

namespace JoinLemmas

theorem dropFirstJoin_cons_eq_iff (join join' : Connector) (position : Nat)
    (others : List Selection) :
    dropFirstJoin ((join, position) :: rememberedJoins contents .and (position + 1) others)
        = dropFirstJoin ((join', position) :: writtenJoins contents (position + 1) others)
      ↔ Continues contents .and others ∧ KeepsJoins contents others := by
  have inject : Function.Injective
      fun (item : Connector × Nat) => ((some item.1, item.2) : Option Connector × Nat) := by
    rintro ⟨join, other⟩ ⟨join', other'⟩ same
    simpa using same
  rw [dropFirstJoin, dropFirstJoin, List.cons.injEq, List.map_inj_right inject,
    rememberedJoins_eq_iff]
  simp

/-- The first join aside, nothing has to continue from before the fields. -/
theorem dropFirstJoin_rememberedJoins_eq_iff (pending : Connector) (position : Nat)
    (selections : List Selection) :
    dropFirstJoin (rememberedJoins contents pending position selections)
        = dropFirstJoin (writtenJoins contents position selections)
      ↔ KeepsJoins contents selections := by
  induction selections generalizing pending position with
  | nil => simp [rememberedJoins, writtenJoins, dropFirstJoin, KeepsJoins]
  | cons selection others ih =>
    rw [rememberedJoins, writtenJoins_cons, keepsJoins_cons]
    cases present : selection.isPresent contents with
    | true =>
      rw [if_pos rfl, if_pos rfl, dropFirstJoin_cons_eq_iff]
      simp
    | false =>
      rw [if_neg (by simp), if_neg (by simp), ih]
      simp

theorem dropFirstJoin_map (f : α → β) (joins : List (Connector × α)) :
    dropFirstJoin (joins.map fun (join, x) => (join, f x))
      = (dropFirstJoin joins).map fun (join, x) => (join, f x) := by
  cases joins <;> simp [dropFirstJoin]

theorem conditions_ofQuery {query : Query}
    (chained : query.operation ∈ [.select, .selectPage, .update, .delete]) :
    (ServiceMethod.ofQuery query).chain.conditions
      = Call.ofSelections query.target.name query.selections := by
  simp only [ServiceMethod.ofQuery, Chain.ofQuery]
  cases operation : query.operation <;>
    first | rfl | exact absurd (operation ▸ chained) (by decide)

theorem passes_ofCriteria {query : Query} {bean : Bean}
    (accepts : (ServiceMethod.ofQuery query).Accepts bean) :
    ∀ rejection ∈ Rejection.ofCriteria query, rejection.throws bean = some false :=
  fun rejection mem => accepts rejection (List.mem_cons_of_mem _ mem)

/-- Unless rows are read, every missing field is refused. -/
theorem isPresent_of_accepts {query : Query}
    (named : ∀ selection ∈ query.selections, IsTestName selection.name)
    (writes : query.operation.isSelect = false) {bean : Bean}
    (accepts : (ServiceMethod.ofQuery query).Accepts bean) :
    ∀ selection ∈ query.selections, selection.isPresent bean.contents = true := by
  have guarded : query.operation.isGuarded = true := by
    cases operation : query.operation <;>
      first | rfl | exact absurd (operation ▸ writes) (by decide)
  have each : Rejection.ofCriteria query = query.selections.map .missingField := by
    simp [Rejection.ofCriteria, guarded, writes]
  intro selection mem
  refine isPresent_of_missingField (named selection mem).1 (passes_ofCriteria accepts _ ?_)
  rw [each]
  exact List.mem_map_of_mem mem

/-- What a method accepts needs no guard in markup. -/
theorem guardClauses_of_accepts {query : Query}
    (named : ∀ selection ∈ query.selections, IsTestName selection.name) {bean : Bean}
    (accepts : (ServiceMethod.ofQuery query).Accepts bean) :
    guardClauses bean.contents query = [] := by
  have identifiers : ∀ selection ∈ query.selections, Text.isIdentifier selection.name = true :=
    fun selection mem => (named selection mem).1
  cases operation : query.operation with
  | selectPage => simp [guardClauses, operation, Operation.isGuarded]
  | select =>
    have criterion : Rejection.noCriterion query.selections ∈ Rejection.ofCriteria query := by
      simp [Rejection.ofCriteria, operation, Operation.isGuarded, Operation.isSelect]
    obtain ⟨selection, mem, present⟩ := exists_present_of_noCriterion query.selections_ne_nil
      identifiers (passes_ofCriteria accepts _ criterion)
    have lacks : query.lacksCriteria bean.contents = false := by
      simp only [Query.lacksCriteria, operation]
      exact List.all_eq_false.mpr ⟨selection, mem, by simp [present]⟩
    simp [guardClauses, lacks]
  | update | delete =>
    have all := isPresent_of_accepts named (by rw [operation]; rfl) accepts
    have lacks : query.lacksCriteria bean.contents = false := by
      simp only [Query.lacksCriteria, operation]
      exact List.any_eq_false.mpr fun selection mem => by simp [all selection mem]
    simp [guardClauses, lacks]
  | insert =>
    have all := isPresent_of_accepts named (by rw [operation]; rfl) accepts
    have first := List.head_mem query.selections_ne_nil
    have lacks : query.lacksCriteria bean.contents = false := by
      simp only [Query.lacksCriteria, operation]
      exact List.all_eq_false.mpr ⟨_, first, by simp [all _ first]⟩
    simp [guardClauses, lacks]

theorem positions_rememberedJoins (pending : Connector) (position : Nat)
    (selections : List Selection) :
    (rememberedJoins contents pending position selections).map Prod.snd
      = (writtenJoins contents position selections).map Prod.snd := by
  induction selections generalizing pending position with
  | nil => rfl
  | cons selection others ih =>
    rw [rememberedJoins, writtenJoins_cons]
    cases selection.isPresent contents with
    | true => exact congrArg (position :: ·) (ih .and (position + 1))
    | false => exact ih _ (position + 1)

/-- What the chain of a query appends, next to what its fields would bring by themselves. -/
theorem appended_ofQuery {query : Query}
    (named : ∀ selection ∈ query.selections, IsTestName selection.name)
    (chained : query.operation ∈ [.select, .selectPage, .update, .delete]) (bean : Bean) :
    ∃ joins, appended bean .and 0 (ServiceMethod.ofQuery query).chain.conditions = some joins
      ∧ joins.map Prod.snd = (writtenJoins bean.contents 0 query.selections).map Prod.snd
      ∧ (dropFirstJoin joins = dropFirstJoin (writtenJoins bean.contents 0 query.selections)
        ↔ KeepsJoins bean.contents query.selections) := by
  have identifiers : ∀ selection ∈ query.selections, Text.isIdentifier selection.name = true :=
    fun selection mem => (named selection mem).1
  rw [conditions_ofQuery chained]
  obtain ⟨first, others, whole⟩ := List.exists_cons_of_ne_nil query.selections_ne_nil
  rw [whole] at identifiers ⊢
  refine ⟨_, appended_ofSelections bean _ identifiers, ?_, ?_⟩
  · rw [writtenJoins_cons]
    cases first.isPresent bean.contents with
    | true => exact congrArg (0 :: ·) (positions_rememberedJoins .and 1 others)
    | false => exact positions_rememberedJoins .and 1 others
  -- The first field's connector is no call, which is right: its join is dropped.
  · rw [writtenJoins_cons, keepsJoins_cons]
    cases present : first.isPresent bean.contents with
    | true =>
      rw [if_pos rfl, if_pos rfl, dropFirstJoin_cons_eq_iff]
      simp
    | false =>
      rw [if_neg (by simp), if_neg (by simp), dropFirstJoin_rememberedJoins_eq_iff]
      simp

/-- The markup of a query whose method accepts the bean puts the present fields into effect. -/
theorem inEffect_of_accepts {query : Query}
    (named : ∀ selection ∈ query.selections, IsTestName selection.name) {bean : Bean}
    (accepts : (ServiceMethod.ofQuery query).Accepts bean) :
    (Criteria.ofQuery query).inEffect bean.contents
      = .ok (presentClauses bean.contents query) := by
  rw [inEffect_ofQuery bean.contents named, guardClauses_of_accepts named accepts, List.nil_append]

theorem positioned_eq_iff (contents : String → Content) (query : Query)
    (joins : List (Connector × Nat)) :
    dropFirstJoin (joins.map fun (join, position) => (join, some position))
        = dropFirstJoin ((presentClauses contents query).map fun condition =>
            (condition.connector, condition.position))
      ↔ dropFirstJoin joins = dropFirstJoin (writtenJoins contents 0 query.selections) := by
  rw [joins_presentClauses, dropFirstJoin_map, dropFirstJoin_map, List.map_inj_right]
  rintro ⟨join, position⟩ ⟨join', position'⟩ same
  simpa using same

end JoinLemmas

/-- The links of a query's chain are read from its text, and append what the chain does. -/
theorem links_ofQuery {query : Query} (names : query.HasIdentifiers)
    (chained : query.operation ∈ [.select, .selectPage, .update, .delete]) (bean : Bean) :
    ∃ links,
      (∃ kind calls ending, query.text .fluent = serviceText query (chainText kind calls ending)
        ∧ '\n' ∉ kind.toList ∧ '\n' ∉ ending.toList ∧ readChain calls = some links)
      ∧ appended bean .and 0 (ServiceMethod.ofQuery query).chain.conditions
        = some (linkedJoins bean .and 0 links) := by
  obtain ⟨kind, calls, ending, chain, oneLine, lastLine, links⟩ := readChain_ofQuery names chained
  refine ⟨_, ⟨kind, calls, ending, by rw [text_fluent, chain], oneLine, lastLine, links⟩, ?_⟩
  rw [conditions_ofQuery chained]
  exact linkedJoins_ofSelections bean query.target.name names.selected

/-- The elements of a query's criteria are read from its text, and put its conditions into
effect. -/
theorem elements_ofQuery {query : Query} (names : query.HasIdentifiers)
    (named : ∀ selection ∈ query.selections, IsTestName selection.name)
    (chained : query.operation ∈ [.select, .selectPage, .update, .delete])
    (contents : String → Content) :
    ∃ elements,
      (∃ content nodes, query.text .markup = statementMarkup query content
        ∧ readContent content = some nodes ∧ criteriaIn (Node.outlines nodes) = [elements])
      ∧ readJoins contents 0 elements
        = some ((guardClauses contents query ++ presentClauses contents query).map fun condition =>
            (condition.connector, condition.position)) := by
  obtain ⟨content, nodes, text, reads, outlines⟩ :=
    exists_content (shows_blocks 1 (hasPlainContent_of_hasIdentifiers names))
  refine ⟨_, ⟨content, nodes, text, reads, ?_⟩, readJoins_criteria named names.columns chained⟩
  rw [outlines, criteriaIn_statementElements chained]

/-- For a bean that the method accepts, the chain and the markup of a query put the same fields into
effect. Their joins agree, the first one aside, exactly when no missing field between two present
ones asks for `or` while the second of them asks for `and`. When the names are identifiers, these
are the joins of the links and of the elements that are read from the two texts of the query. -/
theorem joins_agree_iff (query : Query)
    (named : ∀ selection ∈ query.selections, IsTestName selection.name)
    (chained : query.operation ∈ [.select, .selectPage, .update, .delete]) (bean : Bean)
    (accepts : (ServiceMethod.ofQuery query).Accepts bean) :
    ∃ joins conditions,
      appended bean .and 0 (ServiceMethod.ofQuery query).chain.conditions = some joins
      ∧ (Criteria.ofQuery query).inEffect bean.contents = .ok conditions
      ∧ joins.map (fun (_, position) => some position) = conditions.map (·.position)
      ∧ (dropFirstJoin (joins.map fun (join, position) => (join, some position))
            = dropFirstJoin (conditions.map fun condition =>
                (condition.connector, condition.position))
          ↔ KeepsJoins bean.contents query.selections)
      ∧ (query.HasIdentifiers → ∃ links elements,
        (∃ kind calls ending, query.text .fluent = serviceText query (chainText kind calls ending)
          ∧ '\n' ∉ kind.toList ∧ '\n' ∉ ending.toList ∧ readChain calls = some links)
        ∧ linkedJoins bean .and 0 links = joins
        ∧ (∃ content nodes, query.text .markup = statementMarkup query content
          ∧ readContent content = some nodes ∧ criteriaIn (Node.outlines nodes) = [elements])
        ∧ readJoins bean.contents 0 elements
          = some (conditions.map fun condition => (condition.connector, condition.position))) := by
  obtain ⟨joins, appends, positions, agree⟩ := appended_ofQuery named chained bean
  refine ⟨joins, presentClauses bean.contents query, appends, inEffect_of_accepts named accepts,
    ?_, (positioned_eq_iff bean.contents query joins).trans agree, fun names => ?_⟩
  · have written := congrArg (List.map Prod.snd) (joins_presentClauses bean.contents query)
    have ordered := congrArg (List.map some) positions
    simp only [List.map_map] at written ordered
    exact ordered.trans written.symm
  · obtain ⟨links, fluent, linked⟩ := links_ofQuery names chained bean
    obtain ⟨elements, markup, read⟩ := elements_ofQuery names named chained bean.contents
    rw [guardClauses_of_accepts named accepts, List.nil_append] at read
    exact ⟨links, elements, fluent, Option.some.inj (linked.symm.trans appends), markup, read⟩

/-- A search for users by name, or else by nickname, and by age. -/
def userSearch : Query where
  source := ⟨"User", "app.User", [⟨"name", "String"⟩, ⟨"nickname", "String"⟩, ⟨"age", "Integer"⟩]⟩
  target := ⟨"User", "app.User", [⟨"name", "String"⟩, ⟨"nickname", "String"⟩, ⟨"age", "Integer"⟩]⟩
  selections :=
    [⟨⟨"name", "String"⟩, .eq, .and, ""⟩, ⟨⟨"nickname", "String"⟩, .eq, .or, ""⟩,
     ⟨⟨"age", "Integer"⟩, .ge, .and, ""⟩]
  operation := .select
  selections_ne_nil := by decide
  fits := by decide

/-- A user of whom everything but the nickname is known. -/
def noNickname : Bean := fun expression =>
  if expression = "entity.getNickname()" then .null else .filled

theorem userSearch_named : ∀ selection ∈ userSearch.selections, IsTestName selection.name := by
  decide

theorem userSearch_accepts : (ServiceMethod.ofQuery userSearch).Accepts noNickname := by
  decide +kernel

theorem userSearch_hasIdentifiers : userSearch.HasIdentifiers := by
  constructor <;> decide

theorem userSearch_joins_differ :
    ∃ joins conditions,
      appended noNickname .and 0 (ServiceMethod.ofQuery userSearch).chain.conditions = some joins
      ∧ (Criteria.ofQuery userSearch).inEffect noNickname.contents = .ok conditions
      ∧ (dropFirstJoin (joins.map fun (join, position) => (join, some position))
        ≠ dropFirstJoin (conditions.map fun condition =>
            (condition.connector, condition.position)))
      ∧ ∃ links, (∃ kind calls ending,
          userSearch.text .fluent = serviceText userSearch (chainText kind calls ending)
          ∧ readChain calls = some links)
        ∧ linkedJoins noNickname .and 0 links = joins := by
  obtain ⟨joins, conditions, appends, inEffect, _, agree, texts⟩ :=
    joins_agree_iff userSearch userSearch_named (by decide) noNickname userSearch_accepts
  obtain ⟨links, _, ⟨kind, calls, ending, fluent, -, -, chain⟩, linked, -⟩ :=
    texts userSearch_hasIdentifiers
  refine ⟨joins, conditions, appends, inEffect, fun same => ?_, links,
    ⟨kind, calls, ending, fluent, chain⟩, linked⟩
  have kept := agree.mp same [] ⟨⟨"name", "String"⟩, .eq, .and, ""⟩
    [⟨⟨"nickname", "String"⟩, .eq, .or, ""⟩] ⟨⟨"age", "Integer"⟩, .ge, .and, ""⟩ [] rfl (by decide)
    (by decide) (by decide) rfl
  exact absurd (kept _ (List.mem_singleton_self _)) (by decide)

/-- The chain asks for the name or the age, the markup for both. -/
theorem userSearch_joins :
    (ServiceMethod.ofQuery userSearch).Accepts noNickname
      ∧ appended noNickname .and 0 (ServiceMethod.ofQuery userSearch).chain.conditions
        = some [(.and, 0), (.or, 2)]
      ∧ (Criteria.ofQuery userSearch).inEffect noNickname.contents
        = .ok [.clause 0 ⟨.and, "name", .eq, "name"⟩, .clause 2 ⟨.and, "age", .ge, "age"⟩]
      ∧ (∃ links, (∃ kind calls ending,
          userSearch.text .fluent = serviceText userSearch (chainText kind calls ending)
          ∧ readChain calls = some links)
        ∧ linkedJoins noNickname .and 0 links = [(.and, 0), (.or, 2)])
      ∧ ∃ elements, (∃ content nodes, userSearch.text .markup = statementMarkup userSearch content
          ∧ readContent content = some nodes ∧ criteriaIn (Node.outlines nodes) = [elements])
        ∧ readJoins noNickname.contents 0 elements = some [(.and, some 0), (.and, some 2)] := by
  have conditions : guardClauses noNickname.contents userSearch
        ++ presentClauses noNickname.contents userSearch
      = [.clause 0 ⟨.and, "name", .eq, "name"⟩, .clause 2 ⟨.and, "age", .ge, "age"⟩] := by
    decide +kernel
  have appends : appended noNickname .and 0 (ServiceMethod.ofQuery userSearch).chain.conditions
      = some [(.and, 0), (.or, 2)] := by decide +kernel
  obtain ⟨links, ⟨kind, calls, ending, fluent, -, -, chain⟩, linked⟩ :=
    links_ofQuery userSearch_hasIdentifiers (by decide) noNickname
  obtain ⟨elements, markup, read⟩ :=
    elements_ofQuery userSearch_hasIdentifiers userSearch_named (by decide) noNickname.contents
  rw [conditions] at read
  refine ⟨userSearch_accepts, appends, ?_, ⟨links, ⟨kind, calls, ending, fluent, chain⟩, ?_⟩,
    elements, markup, read⟩
  · rw [inEffect_ofQuery noNickname.contents userSearch_named, conditions]
  · exact Option.some.inj (linked.symm.trans appends)

/-- Methods that write accept no missing field, so that nothing is ever remembered past one. -/
theorem joins_agree_of_writes (query : Query)
    (named : ∀ selection ∈ query.selections, IsTestName selection.name)
    (writes : query.operation ∈ [.update, .delete]) (bean : Bean)
    (accepts : (ServiceMethod.ofQuery query).Accepts bean) :
    ∃ joins conditions,
      appended bean .and 0 (ServiceMethod.ofQuery query).chain.conditions = some joins
      ∧ (Criteria.ofQuery query).inEffect bean.contents = .ok conditions
      ∧ dropFirstJoin (joins.map fun (join, position) => (join, some position))
        = dropFirstJoin (conditions.map fun condition =>
            (condition.connector, condition.position)) := by
  have chained : query.operation ∈ [.select, .selectPage, .update, .delete] :=
    List.mem_cons_of_mem _ (List.mem_cons_of_mem _ writes)
  have isWrite : query.operation.isSelect = false := by
    cases operation : query.operation <;>
      first | rfl | exact absurd (operation ▸ writes) (by decide)
  obtain ⟨joins, appends, _, agree⟩ := appended_ofQuery named chained bean
  refine ⟨joins, presentClauses bean.contents query, appends, inEffect_of_accepts named accepts,
    (positioned_eq_iff bean.contents query joins).mpr (agree.mpr ?_)⟩
  -- No field is missing, so there is nothing to skip.
  intro early first skipped next late whole _ _ skippedMissing _ selection mem
  have selected : selection ∈ query.selections := by
    rw [whole]
    simp [mem]
  have present := isPresent_of_accepts named isWrite accepts selection selected
  exact absurd present (by simp [skippedMissing selection mem])

end QueryScribe
