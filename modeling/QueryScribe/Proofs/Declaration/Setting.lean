import Mathlib.Data.List.Nodup
import QueryScribe.Declaration.Setting

/-!
# What settings say

Settings that give no cause for complaint can be read without regard to their order: every key is
known, has a value that it takes, and comes once, so that a setting says what it says wherever it
stands.

Results:
1. `complaint?_eq_none_iff`, `complaints_eq_nil_iff`: what is not complained about.
2. `textOf?_eq_some_iff`, `gives_iff`, `styleOf?_eq_some_iff`, `isOn_iff`: what is set, by
   membership alone.
-/

namespace QueryScribe.Declaration.Setting

/-- Whether a setting has a value of the kind that its key takes. -/
inductive Fits : Kind → Setting → Prop
  | text {key content : String} : Fits .text (.value key (.string content))
  | on {key : String} : Fits .flag (.word key)
  | truth {key : String} {on : Bool} : Fits .flag (.value key (.bool on))
  | spelledTrue {key : String} : Fits .flag (.value key (.string "true"))
  | spelledFalse {key : String} : Fits .flag (.value key (.string "false"))
  | style {key name : String} {style : NameStyle} (named : NameStyle.ofName? name = some style) :
      Fits .style (.value key (.string name))

/-- Whether settings can be made use of: each has a known key and a value of its kind, and no key
comes twice. -/
structure AreUsable (known : List (String × Kind)) (settings : List Setting) : Prop where
  fit : ∀ setting ∈ settings, ∃ key kind, setting.key? = some key ∧ known.lookup key = some kind
    ∧ setting.Fits kind
  distinct : (settings.filterMap key?).Nodup

/-- Whether no setting has the key. -/
def Lacks (key : String) (settings : List Setting) : Prop :=
  ∀ setting ∈ settings, setting.key? ≠ some key

instance (key : String) (settings : List Setting) : Decidable (Lacks key settings) :=
  inferInstanceAs (Decidable (∀ setting ∈ settings, setting.key? ≠ some key))

/-- Whether a key is turned on. -/
def TurnsOn (key : String) (settings : List Setting) : Prop :=
  .word key ∈ settings ∨ .value key (.bool true) ∈ settings
    ∨ .value key (.string "true") ∈ settings

instance (key : String) (settings : List Setting) : Decidable (TurnsOn key settings) :=
  inferInstanceAs (Decidable (_ ∨ _ ∨ _))

/-- Whether the text for a key is `content`: it is assigned, or no setting has the key and there is
something to fall back on. -/
def Gives (settings : List Setting) (key : String) (fallback : Option String) (content : String) :
    Prop :=
  .value key (.string content) ∈ settings ∨ Lacks key settings ∧ fallback = some content

/-! ## 1. Complaints -/

namespace SettingLemmas

theorem text_fits {setting : Setting} :
    complaintOf? setting.text = none ↔ setting.Fits .text := by
  constructor
  · intro quiet
    cases setting with
    | value key literal =>
      cases literal with
      | string content => exact .text
      | _ => cases quiet
    | _ => cases quiet
  · rintro ⟨⟩
    rfl

theorem flag_fits {setting : Setting} :
    complaintOf? setting.flag = none ↔ setting.Fits .flag := by
  constructor
  · intro quiet
    rw [flag.eq_def] at quiet
    split at quiet
    · exact .on
    · exact .truth
    · exact .spelledTrue
    · exact .spelledFalse
    · cases quiet
    · next noWord noTruth _ _ noString =>
      -- Only a text that is neither `true` nor `false` could be left, and that is complained about.
      cases setting with
      | value key literal =>
        cases literal with
        | string content => exact absurd rfl (noString key content)
        | bool on => exact absurd rfl (noTruth key on)
        | _ => cases quiet
      | word key => exact absurd rfl (noWord key)
      | _ => cases quiet
  · rintro (_ | _ | _) <;> rfl

theorem style_fits {setting : Setting} :
    complaintOf? setting.style = none ↔ setting.Fits .style := by
  constructor
  · intro quiet
    cases setting with
    | value key literal =>
      cases literal with
      | string name =>
        cases named : NameStyle.ofName? name with
        | some style => exact .style named
        | none => simp [Setting.style, text, named, bind, Except.bind, complaintOf?, throw,
            throwThe, MonadExceptOf.throw] at quiet
      | _ => cases quiet
    | _ => cases quiet
  · rintro ⟨⟩
    next named =>
      simp [Setting.style, text, named, bind, Except.bind, complaintOf?, pure, Except.pure]

end SettingLemmas

open SettingLemmas

/-- A setting is not complained about when it has a value of the kind. -/
theorem complaint?_eq_none_iff (kind : Kind) (setting : Setting) :
    complaint? kind setting = none ↔ setting.Fits kind := by
  cases kind with
  | text => exact text_fits
  | flag => exact flag_fits
  | style => exact style_fits

namespace SettingLemmas

theorem fits_keyed {kind : Kind} {setting : Setting} (fits : setting.Fits kind) :
    ∃ key, setting.key? = some key := by
  cases fits <;> exact ⟨_, rfl⟩

variable {known : List (String × Kind)} {key : String} {setting : Setting} {settings : List Setting}

theorem areUsable_cons (keyed : setting.key? = some key) :
    AreUsable known (setting :: settings)
      ↔ (∃ kind, known.lookup key = some kind ∧ setting.Fits kind)
        ∧ AreUsable known settings ∧ key ∉ settings.filterMap key? := by
  constructor
  · intro usable
    obtain ⟨other, kind, same, listed, fits⟩ := usable.fit setting List.mem_cons_self
    obtain rfl := Option.some.inj (keyed.symm.trans same)
    have distinct := usable.distinct
    rw [List.filterMap_cons_some keyed, List.nodup_cons] at distinct
    exact ⟨⟨kind, listed, fits⟩,
      ⟨fun later mem => usable.fit later (List.mem_cons_of_mem _ mem), distinct.2⟩, distinct.1⟩
  · rintro ⟨⟨kind, listed, fits⟩, usable, fresh⟩
    refine ⟨List.forall_mem_cons.mpr ⟨⟨key, kind, keyed, listed, fits⟩, usable.fit⟩, ?_⟩
    rw [List.filterMap_cons_some keyed, List.nodup_cons]
    exact ⟨fresh, usable.distinct⟩

/-- By induction on the settings. None of them may have a key that was taken before. -/
theorem complaintsAfter_eq_nil_iff (known : List (String × Kind)) (taken : List String)
    (settings : List Setting) :
    complaintsAfter known taken settings = [] ↔ AreUsable known settings
      ∧ ∀ key ∈ settings.filterMap key?, key ∉ taken := by
  induction settings generalizing taken with
  | nil => exact ⟨fun _ => ⟨⟨by simp, by simp⟩, by simp⟩, fun _ => rfl⟩
  | cons setting settings ih =>
    rw [complaintsAfter]
    split
    · next unkeyed =>
      constructor
      · intro quiet
        have fits := (complaint?_eq_none_iff .text setting).mp
          (Option.toList_eq_nil_iff.mp (List.append_eq_nil_iff.mp quiet).1)
        obtain ⟨key, keyed⟩ := fits_keyed fits
        cases unkeyed.symm.trans keyed
      · rintro ⟨usable, -⟩
        obtain ⟨key, -, keyed, -⟩ := usable.fit setting List.mem_cons_self
        cases unkeyed.symm.trans keyed
    · next key keyed =>
      rw [areUsable_cons keyed, List.filterMap_cons_some keyed, List.forall_mem_cons]
      split
      · next unlisted => simp [unlisted]
      · next kind listed =>
        split
        · next again => simp [again]
        · next fresh =>
          rw [List.append_eq_nil_iff, Option.toList_eq_nil_iff, complaint?_eq_none_iff, ih]
          have later : (∀ other ∈ settings.filterMap key?, other ∉ key :: taken)
              ↔ key ∉ settings.filterMap key? ∧ ∀ other ∈ settings.filterMap key?, other ∉ taken :=
            List.disjoint_cons_right
          simp only [later, listed, Option.some.injEq, exists_eq_left', fresh, not_false_eq_true,
            true_and, and_assoc]

end SettingLemmas

/-- Settings are not complained about exactly when they can be made use of. -/
theorem complaints_eq_nil_iff (known : List (String × Kind)) (settings : List Setting) :
    complaints known settings = [] ↔ AreUsable known settings := by
  rw [complaints, complaintsAfter_eq_nil_iff]
  exact and_iff_left fun _ _ => List.not_mem_nil

/-! ## 2. Settings by membership -/

namespace SettingLemmas

variable {known : List (String × Kind)} {key : String} {settings : List Setting}

/-- By induction on the settings. A setting with the key hides no other one, as there is none. -/
theorem find?_eq_some_iff (usable : AreUsable known settings) (setting : Setting) :
    find? key settings = some setting ↔ setting ∈ settings ∧ setting.key? = some key := by
  induction settings with
  | nil => simp [find?]
  | cons first settings ih =>
    obtain ⟨own, -, keyed, -⟩ := usable.fit first List.mem_cons_self
    obtain ⟨-, later, fresh⟩ := (areUsable_cons keyed).mp usable
    by_cases same : own = key
    · subst same
      rw [find?, List.find?_cons_of_pos (by simp [keyed]), Option.some.injEq]
      constructor
      · rintro rfl
        exact ⟨List.mem_cons_self, keyed⟩
      · rintro ⟨mem, sameKey⟩
        rcases List.mem_cons.mp mem with rfl | mem
        · rfl
        · exact absurd (List.mem_filterMap.mpr ⟨setting, mem, sameKey⟩) fresh
    · have other : first.key? ≠ some key := by simp [keyed, same]
      rw [find?, List.find?_cons_of_neg (by simp [other]), ← find?, ih later, List.mem_cons]
      constructor
      · rintro ⟨mem, sameKey⟩
        exact ⟨.inr mem, sameKey⟩
      · rintro ⟨rfl | mem, sameKey⟩
        · exact absurd sameKey other
        · exact ⟨mem, sameKey⟩

theorem find?_eq_none_iff : find? key settings = none ↔ Lacks key settings := by
  simp [find?, Lacks]

theorem fits_of_find? (usable : AreUsable known settings) {kind : Kind}
    (listed : known.lookup key = some kind) {setting : Setting}
    (found : find? key settings = some setting) :
    setting ∈ settings ∧ setting.key? = some key ∧ setting.Fits kind := by
  obtain ⟨mem, keyed⟩ := (find?_eq_some_iff usable setting).mp found
  obtain ⟨key', kind', keyed', listed', fits⟩ := usable.fit setting mem
  obtain rfl := Option.some.inj (keyed.symm.trans keyed')
  obtain rfl := Option.some.inj (listed.symm.trans listed')
  exact ⟨mem, keyed, fits⟩

/-- Nothing is read for a key only when no setting has it, since what fits can be read. -/
theorem read_eq_none_iff {α : Type} (usable : AreUsable known settings) {kind : Kind}
    (listed : known.lookup key = some kind) {read : Setting → Option α}
    (reads : ∀ setting : Setting, setting.Fits kind → read setting ≠ none) :
    (find? key settings).bind read = none ↔ Lacks key settings := by
  rw [← find?_eq_none_iff]
  cases found : find? key settings with
  | none => simp
  | some setting =>
    obtain ⟨-, -, fits⟩ := fits_of_find? usable listed found
    simp [reads setting fits]

theorem style_of_named {key name : String} {style : NameStyle}
    (named : NameStyle.ofName? name = some style) :
    (Setting.value key (.string name)).style.toOption = some style := by
  simp [Setting.style, text, named, bind, Except.bind, pure, Except.pure, Except.toOption]

end SettingLemmas

variable {known : List (String × Kind)} {key : String} {settings : List Setting}

/-- A text is set for a key when a setting assigns it. -/
theorem textOf?_eq_some_iff (usable : AreUsable known settings)
    (listed : known.lookup key = some .text) (content : String) :
    textOf? key settings = some content ↔ .value key (.string content) ∈ settings := by
  constructor
  · intro given
    obtain ⟨setting, found, same⟩ := Option.bind_eq_some_iff.mp given
    obtain ⟨mem, keyed, fits⟩ := fits_of_find? usable listed found
    cases fits
    cases keyed
    cases same
    exact mem
  · intro mem
    rw [textOf?, (find?_eq_some_iff usable _).mpr ⟨mem, rfl⟩]
    rfl

/-- No text is set for a key that no setting has. -/
theorem textOf?_eq_none_iff (usable : AreUsable known settings)
    (listed : known.lookup key = some .text) :
    textOf? key settings = none ↔ Lacks key settings :=
  read_eq_none_iff usable listed fun setting fits => by
    cases fits
    exact Option.some_ne_none _

/-- The text for a key is the one set, or else the one to fall back on. -/
theorem gives_iff (usable : AreUsable known settings) (listed : known.lookup key = some .text)
    (fallback : Option String) (content : String) :
    Gives settings key fallback content
      ↔ (textOf? key settings).or fallback = some content := by
  rw [Option.or_eq_some_iff, textOf?_eq_some_iff usable listed, textOf?_eq_none_iff usable listed]
  rfl

/-- A style is set for a key when a setting assigns one of its names. -/
theorem styleOf?_eq_some_iff (usable : AreUsable known settings)
    (listed : known.lookup key = some .style) (style : NameStyle) :
    styleOf? key settings = some style
      ↔ ∃ name, .value key (.string name) ∈ settings ∧ NameStyle.ofName? name = some style := by
  constructor
  · intro given
    obtain ⟨setting, found, same⟩ := Option.bind_eq_some_iff.mp given
    obtain ⟨mem, keyed, fits⟩ := fits_of_find? usable listed found
    cases fits with
    | @style _ name _ named =>
      cases keyed
      rw [style_of_named named] at same
      cases same
      exact ⟨name, mem, named⟩
  · rintro ⟨name, mem, named⟩
    rw [styleOf?, (find?_eq_some_iff usable _).mpr ⟨mem, rfl⟩]
    exact style_of_named named

/-- No style is set for a key that no setting has. -/
theorem styleOf?_eq_none_iff (usable : AreUsable known settings)
    (listed : known.lookup key = some .style) :
    styleOf? key settings = none ↔ Lacks key settings :=
  read_eq_none_iff usable listed fun setting fits => by
    cases fits with
    | style named => exact fun silent => nomatch (style_of_named named).symm.trans silent

/-- A key is on when it stands alone or is assigned something true. -/
theorem isOn_iff (usable : AreUsable known settings) (listed : known.lookup key = some .flag) :
    isOn key settings = true ↔ TurnsOn key settings := by
  constructor
  · intro on
    cases found : find? key settings with
    | none => simp [isOn, found] at on
    | some setting =>
      obtain ⟨mem, keyed, fits⟩ := fits_of_find? usable listed found
      rw [isOn, found] at on
      cases fits with
      | on =>
        cases keyed
        exact .inl mem
      | @truth _ value =>
        have isTrue : value = true := on
        cases keyed
        exact .inr (.inl (isTrue ▸ mem))
      | spelledTrue =>
        cases keyed
        exact .inr (.inr mem)
      | spelledFalse => cases on
  · rintro (mem | mem | mem) <;> (rw [isOn, (find?_eq_some_iff usable _).mpr ⟨mem, rfl⟩]; rfl)

end QueryScribe.Declaration.Setting
