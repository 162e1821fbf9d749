import Mathlib.Data.List.Basic
import Remedy.Proofs.Number.Sign
import Remedy.Settings.Check

/-!
# Settings that allow a run

Every part of the check is passed by settings of a certain kind and by no others. What kind that is
does not hang on the types of the values, for a value of a wrong type does not pass.
-/

set_option autoImplicit false

namespace Remedy

open Number

namespace Category

theorem ofName?_name (category : Category) : ofName? category.name = some category := by
  cases category <;> decide

theorem name_injective : Function.Injective name := by
  intro first second same
  have found := ofName?_name first
  rw [same, ofName?_name second] at found
  exact (Option.some.inj found).symm

theorem ofName?_eq_some_iff {name : String} {category : Category} :
    ofName? name = some category ↔ name = category.name := by
  constructor
  · intro found
    have named := List.find?_some found
    exact (of_decide_eq_true named).symm
  · rintro rfl
    exact ofName?_name category

end Category

/-! ## Types -/

/-- A value is of the type that a setting is meant to have. Where a number with a fraction may stand
a whole one may. -/
def Setting.Admits : Setting → Value → Prop
  | .geminiKey, value => value = .null ∨ ∃ text, value = .str text
  | .remote, value => value = .null ∨ ∃ text, value = .str text
  | .extensions, value => ∃ list, value = texts list
  | .excludedPaths, value => ∃ list, value = texts list
  | .categories, value => ∃ list, value = texts list
  | .dryRun, value => ∃ b, value = .bool b
  | .failOnError, value => ∃ b, value = .bool b
  | .requestTimeout, value => value.quantity? ≠ none
  | .maxRetries, value => ∃ n, value.quantity? = some (.whole n)
  | .retryDelay, value => value.quantity? ≠ none
  | _, value => ∃ text, value = .str text

namespace Settings

/-- Every setting has a value of its type. -/
def Typed (settings : Settings) : Prop :=
  ∀ setting : Setting, setting.Admits (settings setting)

theorem typed_default : default.Typed := by
  intro setting
  cases setting with
  | geminiKey => exact Or.inl rfl
  | remote => exact Or.inr ⟨_, rfl⟩
  | requestTimeout => exact Option.some_ne_none _
  | retryDelay => exact Option.some_ne_none _
  | _ => exact ⟨_, rfl⟩

theorem Typed.below_single {settings : Settings} (typed : settings.Typed) {setting : Setting}
    {value : Value} (admits : setting.Admits value) :
    (settings.below (.single setting value)).Typed := by
  intro other
  by_cases same : other = setting
  · subst same
    simpa [below, Layer.single] using admits
  · simpa [below, Layer.single, same] using typed other

variable {settings : Settings}

/-! ## The parts of the check -/

theorem lowered_eq_ok_iff {value : Value} {name : String} :
    lowered value = .ok name ↔ ∃ text, value = .str text ∧ Text.lower text = name := by
  cases value <;> simp [lowered]

theorem require_eq_ok_iff {error : SettingsError} {holds : Bool} :
    require error holds = .ok () ↔ holds = true := by
  cases holds <;> simp [require]

theorem checkProvider_eq_ok_iff :
    checkProvider settings = .ok () ↔
      ∃ provider, settings .provider = .str provider ∧
        Text.lower provider ∈ SettingsError.providerNames ∧
        (Text.lower provider = "gemini" → (settings .geminiKey).truthy = true) := by
  have spelled : checkProvider settings = .ok () ↔
      ∃ name, lowered (settings .provider) = .ok name ∧ name ∈ SettingsError.providerNames ∧
        (name = "gemini" → (settings .geminiKey).truthy = true) := by
    unfold checkProvider
    cases lowered (settings .provider) with
    | error fault => simp
    | ok name =>
      by_cases known : name ∈ SettingsError.providerNames
      · simp [known, require_eq_ok_iff, imp_iff_not_or]
      · simp [known]
  simp only [spelled, lowered_eq_ok_iff]
  constructor
  · rintro ⟨_, ⟨provider, chosen, rfl⟩, known, keyed⟩
    exact ⟨provider, chosen, known, keyed⟩
  · rintro ⟨provider, chosen, known, keyed⟩
    exact ⟨_, ⟨provider, chosen, rfl⟩, known, keyed⟩

/-- The comparison that is made lets NaN pass with the quantities that are positive. -/
theorem checkTimeout_eq_ok_iff :
    checkTimeout settings = .ok () ↔
      ∃ timeout, (settings .requestTimeout).quantity? = some timeout ∧
        (timeout.IsPositive ∨ timeout = .real .nan) := by
  unfold checkTimeout requireNot Value.compare
  cases (settings .requestTimeout).quantity? with
  | none => simp
  | some timeout =>
    simp only [require_eq_ok_iff, Bool.not_eq_true', ← Bool.not_eq_true, Quantity.le_zero_iff,
      not_and_or, not_not, ne_eq, Option.some.injEq, exists_eq_left']

theorem category_eq_ok_iff {value : Value} {c : Category} :
    category value = .ok c ↔ lowered value = .ok c.name := by
  unfold category
  cases lowered value with
  | error fault => simp
  | ok name =>
    rw [Except.ok.injEq, ← Category.ofName?_eq_some_iff]
    cases found : Category.ofName? name <;> simp [found]

theorem categoriesOf_cons_eq_ok_iff {value : Value} {rest : List Value}
    {categories : List Category} :
    categoriesOf (value :: rest) = .ok categories ↔
      ∃ c others, category value = .ok c ∧ categoriesOf rest = .ok others ∧
        categories = c :: others := by
  rw [categoriesOf]
  cases category value with
  | error fault => simp
  | ok c =>
    cases categoriesOf rest with
    | error fault => simp [Except.map]
    | ok others => simp [Except.map, eq_comm]

theorem categoriesOf_texts_eq_ok_iff {names : List String} {categories : List Category} :
    categoriesOf (names.map .str) = .ok categories ↔
      names.map Text.lower = categories.map Category.name := by
  induction names generalizing categories with
  | nil => cases categories <;> simp [categoriesOf]
  | cons name rest ih =>
    simp only [List.map_cons, categoriesOf_cons_eq_ok_iff, category_eq_ok_iff, ih, lowered,
      Except.ok.injEq]
    cases categories with
    | nil => simp
    | cons c others => simp

theorem enabledCategories_eq_ok_iff {names : List String} {categories : List Category}
    (named : settings .categories = Setting.texts names) :
    settings.enabledCategories = .ok categories ↔
      names.map Text.lower = categories.map Category.name := by
  simp only [enabledCategories, named, Setting.texts, Value.members, categoriesOf_texts_eq_ok_iff]

theorem mem_enabledCategories_iff {names : List String} {categories : List Category}
    (named : settings .categories = Setting.texts names)
    (enabled : settings.enabledCategories = .ok categories) (category : Category) :
    category ∈ categories ↔ ∃ name ∈ names, Text.lower name = category.name := by
  rw [← List.mem_map, (enabledCategories_eq_ok_iff named).mp enabled,
    List.mem_map_of_injective Category.name_injective]

theorem checkCategories_eq_ok_iff :
    checkCategories settings = .ok () ↔
      ∃ categories, settings.enabledCategories = .ok categories ∧ categories ≠ [] := by
  unfold checkCategories
  cases settings.enabledCategories with
  | error fault => simp
  | ok categories => simp [require_eq_ok_iff]

theorem validate_eq_ok_iff :
    settings.validate = .ok () ↔
      checkProvider settings = .ok () ∧ checkTimeout settings = .ok () ∧
        checkRetries settings = .ok () ∧ checkExtensions settings = .ok () ∧
        checkCategories settings = .ok () := by
  have next {check : Except Fault Unit} {rest : Except Fault Unit} :
      (do check; rest) = .ok () ↔ check = .ok () ∧ rest = .ok () := by
    cases check <;> simp [bind, Except.bind]
  simp only [validate, next]

end Settings

end Remedy
