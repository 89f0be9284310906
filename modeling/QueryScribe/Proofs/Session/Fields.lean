import QueryScribe.Proofs.Exchange.RoundTrip
import QueryScribe.Proofs.Query.Fields
import QueryScribe.Proofs.Session.Program

/-!
# Field lists through a session

No step of a session but a load can bring a repeated field name into the request: entities are built
and described field by field, single fields are declared, and everything else leaves the field lists
alone or exchanges them.

Results:
1. `isDistinct_describe`: a described entity repeats no name, even where the style makes two names
   one.
2. `preserves_perform`, `isDistinct_step`: what one step preserves.
3. `isDistinct_run`, `fields_stay_distinct`: what a session preserves, and what its queries share.
-/

namespace QueryScribe

/-! ## 1. Described entities -/

/-- A described entity repeats no name. -/
theorem isDistinct_describe {moduleName source : String} {entity : Entity}
    (described : Declaration.describe moduleName source = .ok entity) : entity.IsDistinct := by
  rw [Declaration.describe] at described
  split at described
  · cases described
  · next item _ =>
    have described := mapError_eq_ok_iff.mp described
    rw [Declaration.Item.describe] at described
    split at described
    · cases described
    · cases described
    · dsimp only at described
      split at described
      · cases described
        exact Entity.isDistinct_ofFields _ _ _
      · cases described
      · cases described

/-! ## 2. Steps -/

/-- Whether neither entity of a request repeats a field name. -/
structure Request.IsDistinct (request : Request) : Prop where
  source : request.source.IsDistinct
  target : request.target.IsDistinct

namespace Session

/-- Whether the entities of the request that a step loads, if it loads one, repeat no field name. -/
def Step.LoadsDistinct : Step → Prop
  | .load json =>
    ∀ request, Json.decodeText Request.decode json = .ok request → request.IsDistinct
  | _ => True

namespace FieldsLemmas

open Program

theorem isDistinct_entityOn {request : Request} (distinct : request.IsDistinct) (side : Side) :
    (entityOn request side).IsDistinct := by
  cases side with
  | source => exact distinct.source
  | target => exact distinct.target

theorem preserves_putEntity {entity : Entity} (fits : entity.IsDistinct) (side : Side) :
    (putEntity side entity).Preserves Request.IsDistinct := by
  intro request distinct
  cases side with
  | source => exact ⟨fits, distinct.target⟩
  | target => exact ⟨distinct.source, fits⟩

theorem preserves_answered {entity : Entity} (fits : entity.IsDistinct) (side : Side) :
    (do putEntity side entity; answerState : Program Answer).Preserves Request.IsDistinct :=
  preserves_bind (preserves_putEntity fits side) fun _ _ _ _ => Reads.preserves fun _ => rfl

/-- Changing the selections leaves both entities alone. -/
theorem preserves_putSelections (change : List Selection → List Selection) :
    (do putSelections change; answerState : Program Answer).Preserves Request.IsDistinct :=
  preserves_change fun _ distinct => ⟨distinct.source, distinct.target⟩

theorem preserves_addSelection (draft : Selection.Draft) :
    (addSelection draft).Preserves Request.IsDistinct :=
  preserves_attempt_bind fun _ _ => preserves_putSelections _

theorem preserves_changeSelection (index : Nat) (change : Selection → Except Failure Selection) :
    (changeSelection index change).Preserves Request.IsDistinct :=
  preserves_get_bind fun _ _ => preserves_require_bind fun _ =>
    preserves_attempt_bind fun _ _ => preserves_putSelections _

end FieldsLemmas

open FieldsLemmas Program

/-- The program of a step leaves no repeated name behind, unless it has loaded one. -/
theorem preserves_perform {step : Step} (loads : step.LoadsDistinct) :
    (perform step).Preserves Request.IsDistinct := by
  cases step with
  | load json => exact preserves_attempt_bind fun loaded decoded _ _ => loads loaded decoded
  | entity side entity => exact preserves_answered (Entity.isDistinct_ofFields _ _ _) side
  | describe side moduleName code =>
    exact preserves_attempt_bind fun entity described =>
      preserves_answered (isDistinct_describe described) side
  | field side field =>
    refine preserves_get_bind fun request distinct => ?_
    have onSide := isDistinct_entityOn distinct side
    exact preserves_answered (Entity.isDistinct_withField onSide field) side
  | swap =>
    exact preserves_get_bind fun request distinct =>
      preserves_bind (preserves_putEntity distinct.target .source) fun _ _ _ _ =>
        preserves_answered distinct.source .target
  | dialect | operation =>
    exact preserves_attempt_bind fun _ _ =>
      preserves_change fun _ distinct => ⟨distinct.source, distinct.target⟩
  | select draft => exact preserves_addSelection draft
  | selectField name operator =>
    exact preserves_get_bind fun _ _ => preserves_require_bind fun _ => preserves_addSelection _
  | connector index | column index | operator index => exact preserves_changeSelection index _
  | autoColumn index => exact preserves_get_bind fun _ _ => preserves_changeSelection index _
  | drop index =>
    exact preserves_get_bind fun _ _ => preserves_require_bind fun _ => preserves_putSelections _
  | selections => exact fun _ distinct => distinct
  | context | generate =>
    exact preserves_get_bind fun _ _ => preserves_attempt_bind fun _ _ _ distinct => distinct

/-- A step, whether it succeeds or fails, leaves no repeated name behind. -/
theorem isDistinct_step {request : Request} {step : Step} (distinct : request.IsDistinct)
    (loads : step.LoadsDistinct) : (Session.step request step).2.IsDistinct :=
  preserves_perform loads request distinct

/-! ## 3. Sessions -/

theorem isDistinct_start : start.IsDistinct :=
  ⟨Entity.isDistinct_empty, Entity.isDistinct_empty⟩

/-- By induction on the steps, the first of which hands its request on to the others. -/
theorem isDistinct_run {request : Request} (distinct : request.IsDistinct) {steps : List Step}
    (loads : ∀ step ∈ steps, step.LoadsDistinct) : (run request steps).2.IsDistinct := by
  induction steps generalizing request with
  | nil => exact distinct
  | cons first steps ih =>
    exact ih (isDistinct_step distinct (loads first List.mem_cons_self)) fun step mem =>
      loads step (List.mem_cons_of_mem first mem)

/-- In every request that a session comes to on its way, no entity repeats a field name. What a
query of its entities shares is an ordered set of the names declared on both sides, and exchanging
the sides only reorders them. -/
theorem fields_stay_distinct {steps : List Step} (loads : ∀ step ∈ steps, step.LoadsDistinct)
    {before : List Step} (reached : before <+: steps) :
    let request := (run start before).2
    request.source.IsDistinct ∧ request.target.IsDistinct
      ∧ ∀ query : Query, query.source = request.source → query.target = request.target →
        query.SharesOnce
        ∧ ∀ swapped : Query, swapped.source = request.target → swapped.target = request.source →
          swapped.sharedNames.Perm query.sharedNames := by
  intro request
  have distinct : request.IsDistinct :=
    isDistinct_run isDistinct_start fun step mem => loads step (reached.subset mem)
  refine ⟨distinct.source, distinct.target, fun query source target => ?_⟩
  have sourceDistinct : query.source.IsDistinct := source ▸ distinct.source
  have targetDistinct : query.target.IsDistinct := target ▸ distinct.target
  refine ⟨Query.sharesOnce_of_isDistinct sourceDistinct, fun swapped newSource newTarget => ?_⟩
  exact Query.perm_sharedNames sourceDistinct targetDistinct (newSource.trans target.symm)
    (newTarget.trans source.symm)

/-- A session that loads a request, declares a field again under the name that it has, exchanges the
sides, describes the new source from a struct and fails at the end. -/
def orderSession : List Step :=
  [.load (Request.encode ⟨.markup, .update, ⟨"Form", "app.Form", [⟨"code", "String"⟩]⟩,
      ⟨"Order", "app.Order", [⟨"total", "Long"⟩, ⟨"code", "String"⟩]⟩, []⟩),
    .field .target ⟨"total", "BigDecimal"⟩, .swap,
    .describe .source "app" "struct Order { id: u64 }", .dialect "unknown"]

theorem orderSession_distinct :
    (∀ step ∈ orderSession, step.LoadsDistinct)
      ∧ (run start orderSession).2.source.IsDistinct
      ∧ (run start (orderSession.take 3)).2.source.IsDistinct := by
  have loads : ∀ step ∈ orderSession, step.LoadsDistinct := by
    refine List.forall_mem_cons.mpr ⟨fun request decoded => ?_, by simp [Step.LoadsDistinct]⟩
    rw [Json.decodeText_encode Request.faithful] at decoded
    cases decoded
    constructor <;> decide
  exact ⟨loads, (fields_stay_distinct loads (List.prefix_refl _)).1,
    (fields_stay_distinct loads (List.take_prefix 3 _)).1⟩

end Session

end QueryScribe
