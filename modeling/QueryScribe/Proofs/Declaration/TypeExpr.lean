import Mathlib.Data.List.Forall2
import QueryScribe.Declaration.TypeExpr

/-!
# What type expressions show

The declared type of a type expression is made from the declared types of its parts: the element of
a reference, parenthesis, group, slice or array, or the type arguments of a path's last segment.
Everything else in a type expression is out of sight. A type expression has a declared type unless
something that it shows is without a name.

Results:
1. `induction_parts`, `exists_shows_iff`: what a type expression shows, by its parts.
2. `declared?_path_eq_some_iff`, `declared?_eq_none_iff_parts`: declared types, by parts.
3. `declared?_bare`: what is out of sight has no part in the declared type.
4. `undeclared_iff_shows_unnamed`: which type expressions have no declared type.
-/

namespace QueryScribe.Declaration

/-! ## 1. Parts -/

/-- The type that an argument is, if it is one. -/
def Argument.type? : Argument → Option TypeExpr
  | .type expression => some expression
  | .other => none

/-- The types among the arguments of a segment. -/
def Arguments.types : Arguments → List TypeExpr
  | .none | .parenthesized => []
  | .angled arguments => arguments.filterMap Argument.type?

/-- The parts of a type expression. -/
def TypeExpr.parts : TypeExpr → List TypeExpr
  | path _ _ (.mk _ arguments) => arguments.types
  | reference element | paren element | group element | slice element | array element => [element]
  | unnamed => []

namespace TypeExprLemmas

theorem sizeOf_types {arguments : Arguments} {type : TypeExpr} (mem : type ∈ arguments.types) :
    sizeOf type < sizeOf arguments := by
  cases arguments with
  | none | parenthesized => cases mem
  | angled arguments =>
    obtain ⟨argument, listed, isType⟩ := List.mem_filterMap.mp mem
    have smaller := List.sizeOf_lt_of_mem listed
    cases argument with
    | other => cases isType
    | type expression =>
      cases isType
      simp only [Argument.type.sizeOf_spec, Arguments.angled.sizeOf_spec] at smaller ⊢
      omega

theorem sizeOf_part {type part : TypeExpr} (mem : part ∈ type.parts) :
    sizeOf part < sizeOf type := by
  cases type with
  | path qualified earlier last =>
    obtain ⟨name, arguments⟩ := last
    have smaller := sizeOf_types mem
    simp only [TypeExpr.path.sizeOf_spec, Segment.mk.sizeOf_spec]
    omega
  | unnamed => cases mem
  | _ =>
    cases List.mem_singleton.mp mem
    decreasing_tactic

end TypeExprLemmas

open TypeExprLemmas

namespace TypeExpr

/-- What holds of a type expression if it holds of its parts holds of all type expressions. -/
theorem induction_parts {motive : TypeExpr → Prop}
    (step : ∀ type, (∀ part ∈ type.parts, motive part) → motive type) (type : TypeExpr) :
    motive type :=
  step type fun part mem =>
    have := sizeOf_part mem
    induction_parts step part
termination_by sizeOf type

/-- `Shows type shown`: `shown` is the type expression itself, or a part of it shows it. -/
inductive Shows : TypeExpr → TypeExpr → Prop
  | root (type : TypeExpr) : Shows type type
  | part {type part shown : TypeExpr} : part ∈ type.parts → Shows part shown → Shows type shown

/-- A type expression shows itself and what its parts show. -/
theorem exists_shows_iff (p : TypeExpr → Prop) (type : TypeExpr) :
    (∃ shown, type.Shows shown ∧ p shown)
      ↔ p type ∨ ∃ part ∈ type.parts, ∃ shown, part.Shows shown ∧ p shown := by
  constructor
  · rintro ⟨shown, shows, holds⟩
    cases shows with
    | root => exact .inl holds
    | part mem shows => exact .inr ⟨_, mem, shown, shows, holds⟩
  · rintro (holds | ⟨part, mem, shown, shows, holds⟩)
    · exact ⟨type, .root type, holds⟩
    · exact ⟨shown, .part mem shows, holds⟩

/-- Whether a type expression is without a name, whatever its parts are: a qualified path, a path
that ends with the parameters of a function trait, or any type that has no name at all. -/
def IsUnnamed : TypeExpr → Prop
  | path qualified _ (.mk _ arguments) => qualified = true ∨ arguments = .parenthesized
  | unnamed => True
  | _ => False

end TypeExpr

/-! ## 2. Declared types -/

namespace TypeExprLemmas

section Each

variable {α β : Type} {f : α → Option β} {xs : List α}

theorem mapM_eq_none_iff : xs.mapM f = none ↔ ∃ x ∈ xs, f x = none := by
  induction xs with
  | nil => simp
  | cons x xs ih =>
    rw [List.mapM_cons, List.exists_mem_cons_iff, ← ih]
    cases f x <;> cases xs.mapM f <;> simp

theorem mapM_eq_some_iff {ys : List β} :
    xs.mapM f = some ys ↔ List.Forall₂ (fun x y => f x = some y) xs ys := by
  induction xs generalizing ys with
  | nil => simp [eq_comm]
  | cons x xs ih =>
    rw [List.mapM_cons, List.forall₂_cons_left_iff]
    simp [Option.bind_eq_some_iff, ih, @eq_comm _ ys]

end Each

/-- A type among the arguments has to have a declared type, and so have the others. -/
theorem declaredAll?_type (type : TypeExpr) (others : List Argument) :
    declaredAll? (.type type :: others)
      = type.declared?.bind fun first => (declaredAll? others).map (first :: ·) := by
  rw [declaredAll?, Argument.prepend?.eq_def]
  dsimp only
  cases type.declared? <;> cases declaredAll? others <;> rfl

theorem declaredAll?_eq (arguments : List Argument) :
    declaredAll? arguments = (arguments.filterMap Argument.type?).mapM TypeExpr.declared? := by
  induction arguments with
  | nil => rfl
  | cons argument arguments ih =>
    cases argument with
    | other => exact ih
    | type expression =>
      have types : (Argument.type expression :: arguments).filterMap Argument.type?
          = expression :: arguments.filterMap Argument.type? := rfl
      rw [types, List.mapM_cons, ← ih, declaredAll?_type]
      cases expression.declared? <;> cases declaredAll? arguments <;> rfl

/-- In the list of arguments, only the types count. -/
theorem declared?_arguments {arguments : Arguments} (named : arguments ≠ .parenthesized) :
    arguments.declared? = arguments.types.mapM TypeExpr.declared? := by
  cases arguments with
  | none => rfl
  | angled arguments => exact declaredAll?_eq arguments
  | parenthesized => exact absurd rfl named

end TypeExprLemmas

namespace TypeExpr

/-- A path has a declared type when it is not without a name and its type arguments have declared
types, to which the name is applied. -/
theorem declared?_path_eq_some_iff {qualified : Bool} {earlier : List Segment} {name : String}
    {arguments : Arguments} {declared : String} :
    (path qualified earlier (.mk name arguments)).declared? = some declared
      ↔ (qualified = false ∧ arguments ≠ .parenthesized)
        ∧ ∃ contents, List.Forall₂ (fun part content => part.declared? = some content)
            arguments.types contents ∧ applyName name contents = declared := by
  cases qualified with
  | true => simp [declared?]
  | false =>
    by_cases named : arguments = .parenthesized
    · subst named
      simp [declared?, Segment.declared?, Arguments.declared?]
    · simp [declared?, Segment.declared?, declared?_arguments named, named, mapM_eq_some_iff]

/-- A type expression without a declared type is without a name, or has a part without a declared
type. -/
theorem declared?_eq_none_iff_parts (type : TypeExpr) :
    type.declared? = none ↔ type.IsUnnamed ∨ ∃ part ∈ type.parts, part.declared? = none := by
  cases type with
  | path qualified earlier last =>
    obtain ⟨name, arguments⟩ := last
    cases qualified with
    | true => simp [declared?, IsUnnamed]
    | false =>
      by_cases named : arguments = .parenthesized
      · subst named
        simp [declared?, Segment.declared?, Arguments.declared?, IsUnnamed]
      · simp [declared?, Segment.declared?, declared?_arguments named, named, mapM_eq_none_iff,
          IsUnnamed, parts]
  | unnamed => simp [declared?, IsUnnamed]
  | _ => simp [declared?, IsUnnamed, parts]

end TypeExpr

/-! ## 3. What is out of sight -/

mutual

/-- The type expression without what it does not show: the earlier segments of paths, and arguments
that are no types. -/
def TypeExpr.bare : TypeExpr → TypeExpr
  | .path qualified _ last => .path qualified [] last.bare
  | .reference element => .reference element.bare
  | .paren element => .paren element.bare
  | .group element => .group element.bare
  | .slice element => .slice element.bare
  | .array element => .array element.bare
  | .unnamed => .unnamed

/-- The segment without arguments that are no types. -/
def Segment.bare : Segment → Segment
  | .mk name arguments => .mk name arguments.bare

/-- The arguments that are types. It makes no difference whether there are none or none are left. -/
def Arguments.bare : Arguments → Arguments
  | .none => .angled []
  | .angled arguments => .angled (bareAll arguments)
  | .parenthesized => .parenthesized

/-- The arguments in a list that are types. -/
def bareAll : List Argument → List Argument
  | [] => []
  | argument :: arguments => argument.prependBare (bareAll arguments)

/-- Puts an argument in front of others if it is a type. -/
def Argument.prependBare (others : List Argument) : Argument → List Argument
  | .type expression => .type expression.bare :: others
  | .other => others

end

mutual

/-- What a type expression does not show has no part in its declared type. -/
theorem TypeExpr.declared?_bare : ∀ type : TypeExpr, type.bare.declared? = type.declared?
  | .path qualified earlier last => by
    rw [TypeExpr.bare, TypeExpr.declared?, TypeExpr.declared?, last.declared?_bare]
  | .reference element | .paren element | .group element => element.declared?_bare
  | .slice element | .array element => by
    rw [TypeExpr.bare, TypeExpr.declared?, TypeExpr.declared?, element.declared?_bare]
  | .unnamed => rfl

theorem Segment.declared?_bare : ∀ segment : Segment, segment.bare.declared? = segment.declared?
  | .mk name arguments => by
    rw [Segment.bare, Segment.declared?, Segment.declared?, arguments.declared?_bare]

theorem Arguments.declared?_bare :
    ∀ arguments : Arguments, arguments.bare.declared? = arguments.declared?
  | .none => rfl
  | .angled arguments => declaredAll?_bareAll arguments
  | .parenthesized => rfl

theorem declaredAll?_bareAll :
    ∀ arguments : List Argument, declaredAll? (bareAll arguments) = declaredAll? arguments
  | [] => rfl
  | .type expression :: arguments => by
    rw [bareAll, Argument.prependBare, declaredAll?_type, declaredAll?_type,
      expression.declared?_bare, declaredAll?_bareAll arguments]
  | .other :: arguments => declaredAll?_bareAll arguments

end

/-! ## 4. Type expressions without a declared type -/

/-- A type expression has no declared type exactly if it shows something without a name. What it
does not show makes no difference. -/
theorem undeclared_iff_shows_unnamed (type : TypeExpr) :
    (type.declared? = none ↔ ∃ shown, type.Shows shown ∧ shown.IsUnnamed)
      ∧ ∀ other : TypeExpr, type.bare = other.bare →
        (type.declared? = none ↔ other.declared? = none) := by
  constructor
  · induction type using TypeExpr.induction_parts with
    | step type ih =>
      rw [TypeExpr.declared?_eq_none_iff_parts, TypeExpr.exists_shows_iff]
      exact or_congr_right (exists_congr fun part => and_congr_right fun mem => ih part mem)
  · intro other same
    rw [← type.declared?_bare, same, other.declared?_bare]

/-- A list of boxed callbacks. -/
def callbacks : TypeExpr :=
  .path false [] (.mk "Vec" (.angled
    [.type (.path false [] (.mk "Box" (.angled [.type .unnamed])))]))

/-- A cursor on texts, which is found in pages of tuples and has a lifetime. -/
def pageCursor : TypeExpr :=
  .path false [.mk "Pages" (.angled [.type .unnamed])]
    (.mk "Cursor" (.angled [.other, .type (.path false [] (.mk "str" .none))]))

/-- A cursor on texts. -/
def textCursor : TypeExpr :=
  .path false [] (.mk "Cursor" (.angled [.type (.path false [] (.mk "str" .none))]))

theorem callbacks_undeclared :
    callbacks.declared? = none
      ∧ pageCursor.bare = textCursor.bare
      ∧ pageCursor.declared? ≠ none := by
  refine ⟨(undeclared_iff_shows_unnamed callbacks).1.mpr ⟨.unnamed, ?_, trivial⟩, rfl, ?_⟩
  · exact .part (List.mem_singleton_self _) (.part (List.mem_singleton_self _) (.root _))
  · rw [Ne, (undeclared_iff_shows_unnamed pageCursor).2 textCursor rfl]
    decide

end QueryScribe.Declaration
