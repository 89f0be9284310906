import QueryScribe.Java.Chain
import QueryScribe.Proofs.Java.Condition

/-!
# Running call chains

A chain appends a condition for every comparison whose flag holds; a flag that does not hold makes
the call append nothing. An `or` call is remembered until the next condition that is appended, and
every other condition joins by conjunction.

Results:
1. `appended_joined`, `appended_ofSelections`: what the chain of selected fields appends, in terms
   of what the fields hold.
2. `isPresent_of_missingField`, `exists_present_of_noCriterion`: what the rejections of a method
   leave to its chain.
-/

namespace QueryScribe.Java

/-! ## Chains -/

/-- What the fields of a bean hold, read through their accessors. -/
def Bean.contents (bean : Bean) (name : String) : Content :=
  bean (accessor name)

/-- The conditions of a chain. -/
def Chain.conditions : Chain → List Call
  | list conditions | update _ conditions | remove conditions => conditions
  | save => []

/-- The conditions that calls append, each with the connector it joins by and its position among the
comparisons; `pending` is the connector that the next one joins by. -/
def appended (bean : Bean) (pending : Connector) (position : Nat) :
    List Call → Option (List (Connector × Nat))
  | [] => some []
  | .or :: calls => appended bean .or position calls
  | .compare _ flag _ _ :: calls => do
    if ← holds bean (condition flag) then
      return (pending, position) :: (← appended bean .and (position + 1) calls)
    else appended bean pending (position + 1) calls
  | .assign .. :: calls => appended bean pending position calls

/-- Whether a method accepts a bean: none of its rejections throws. -/
def ServiceMethod.Accepts (method : ServiceMethod) (bean : Bean) : Prop :=
  ∀ rejection ∈ method.rejections, rejection.throws bean = some false

instance (method : ServiceMethod) (bean : Bean) : Decidable (method.Accepts bean) :=
  inferInstanceAs (Decidable (∀ rejection ∈ method.rejections, rejection.throws bean = some false))

/-! ## 1. The chain of selected fields -/

/-- The connector pending after a selected field's own: a request for `or` is remembered. -/
def remember (pending : Connector) : Connector → Connector
  | .or => .or
  | .and => pending

/-- The joins of selected fields when every connector that asks for `or` is remembered until the
next field that is present. -/
def rememberedJoins (contents : String → Content) (pending : Connector) (position : Nat) :
    List Selection → List (Connector × Nat)
  | [] => []
  | selection :: others =>
    let join := remember pending selection.connector
    if selection.isPresent contents then
      (join, position) :: rememberedJoins contents .and (position + 1) others
    else rememberedJoins contents join (position + 1) others

namespace ChainLemmas

theorem appended_ofSelection (bean : Bean) (pending : Connector) (position : Nat) (target : String)
    {selection : Selection} (named : Text.isIdentifier selection.name = true) (calls : List Call) :
    appended bean pending position (Call.ofSelection target selection :: calls)
      = if selection.isPresent bean.contents then
          (appended bean .and (position + 1) calls).map ((pending, position) :: ·)
        else appended bean pending (position + 1) calls := by
  have flag : holds bean (condition (fieldCheck .present selection.field))
      = some (selection.isPresent bean.contents) :=
    holds_condition bean _ (isAccess_accessor named)
  rw [Call.ofSelection, appended, flag]
  cases selection.isPresent bean.contents <;>
    cases appended bean .and (position + 1) calls <;> rfl

end ChainLemmas

open ChainLemmas

/-- The calls of selected fields append the present ones, each by the connector remembered for
it. -/
theorem appended_joined (bean : Bean) (target : String) {selections : List Selection}
    (named : ∀ selection ∈ selections, Text.isIdentifier selection.name = true)
    (pending : Connector) (position : Nat) :
    appended bean pending position (selections.flatMap (Call.joined target))
      = some (rememberedJoins bean.contents pending position selections) := by
  induction selections generalizing pending position with
  | nil => rfl
  | cons selection others ih =>
    have rest := ih fun other mem => named other (List.mem_cons_of_mem _ mem)
    have calls : appended bean pending position
          ((selection :: others).flatMap (Call.joined target))
        = appended bean (remember pending selection.connector) position
            (Call.ofSelection target selection :: others.flatMap (Call.joined target)) := by
      rw [List.flatMap_cons, Call.joined]
      cases selection.connector <;> rfl
    rw [calls, appended_ofSelection bean _ position target (named selection (by simp)), rest, rest,
      rememberedJoins]
    cases selection.isPresent bean.contents <;> rfl

/-- The calls of all selected fields append what is remembered from the second field on. The
connector of the first one is no call. -/
theorem appended_ofSelections (bean : Bean) (target : String) {first : Selection}
    {others : List Selection}
    (named : ∀ selection ∈ first :: others, Text.isIdentifier selection.name = true) :
    appended bean .and 0 (Call.ofSelections target (first :: others))
      = some (if first.isPresent bean.contents then
          (.and, 0) :: rememberedJoins bean.contents .and 1 others
        else rememberedJoins bean.contents .and 1 others) := by
  rw [Call.ofSelections, appended_ofSelection bean .and 0 target (named first (by simp)),
    appended_joined bean target fun other mem => named other (List.mem_cons_of_mem _ mem)]
  cases first.isPresent bean.contents <;> rfl

/-! ## 2. Accepted beans -/

namespace ChainLemmas

/-- What the missing check of a selected field answers. -/
theorem holds_missing (bean : Bean) (selection : Selection) :
    Presence.holds .missing selection.category (bean (accessor selection.name))
      = !selection.isPresent bean.contents := by
  simp [Presence.holds, Selection.isPresent, Content.isPresent, Bean.contents]

end ChainLemmas

/-- A rejection on a selected field that does not throw leaves the field present. -/
theorem isPresent_of_missingField {bean : Bean} {selection : Selection}
    (named : Text.isIdentifier selection.name = true)
    (passes : (Rejection.missingField selection).throws bean = some false) :
    selection.isPresent bean.contents = true := by
  have access : ∀ check ∈ (Rejection.missingField selection).checks, IsAccess check.subject := by
    intro check mem
    rw [List.mem_singleton.mp mem]
    exact isAccess_accessor named
  have answer := throws_eq bean (Rejection.missingField selection) (List.cons_ne_nil _ _) access
  rw [passes, Option.some.injEq, Rejection.missingField, List.all_cons, List.all_nil,
    Bool.and_true] at answer
  have missing : Presence.holds .missing selection.category (bean (accessor selection.name))
      = false := answer.symm
  simpa [holds_missing] using missing

/-- When the rejection on all selected fields does not throw, one of them is present. -/
theorem exists_present_of_noCriterion {bean : Bean} {selections : List Selection}
    (some : selections ≠ [])
    (named : ∀ selection ∈ selections, Text.isIdentifier selection.name = true)
    (passes : (Rejection.noCriterion selections).throws bean = .some false) :
    ∃ selection ∈ selections, selection.isPresent bean.contents = true := by
  have access : ∀ check ∈ (Rejection.noCriterion selections).checks, IsAccess check.subject := by
    intro check mem
    obtain ⟨selection, selected, rfl⟩ := List.mem_map.mp mem
    exact isAccess_accessor (named selection selected)
  have answer := throws_eq bean (Rejection.noCriterion selections)
    (fun empty => some (List.map_eq_nil_iff.mp empty)) access
  rw [passes, Option.some.injEq, Rejection.noCriterion, List.all_map] at answer
  obtain ⟨selection, mem, present⟩ := List.all_eq_false.mp answer.symm
  refine ⟨selection, mem, ?_⟩
  have missing : ¬ Presence.holds .missing selection.category (bean (accessor selection.name))
      = true := present
  simpa [holds_missing] using missing

end QueryScribe.Java
