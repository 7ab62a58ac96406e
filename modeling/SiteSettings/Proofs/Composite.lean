import Mathlib.Data.List.Forall2
import SiteSettings.Proofs.Loading
import SiteSettings.Proofs.Phases

/-! Coercion of lists, mappings and themes in terms of what is inside them: the items one
by one, or a validation of its own. -/

namespace SiteSettings

namespace Coercion

variable {α β : Type}

@[simp] theorem of_result (result : Except Problem α) : (of result).result = result := rfl

@[simp] theorem of_warnings (result : Except Problem α) : (of result).warnings = [] := rfl

theorem andThen_eq_ok {first : Coercion α} {next : α → Coercion β} {value : β} :
    (first.andThen next).result = .ok value ↔
      ∃ middle, first.result = .ok middle ∧ (next middle).result = .ok value := by
  obtain ⟨result, warnings, trace⟩ := first
  cases result <;> simp [andThen]

theorem andThen_warnings {first : Coercion α} {next : α → Coercion β} {middle : α}
    (done : first.result = .ok middle) :
    (first.andThen next).warnings = first.warnings ++ (next middle).warnings := by
  obtain ⟨result, warnings, trace⟩ := first
  subst done
  rfl

/-- The value is what becomes of the item, with a theme lowered to data. -/
def Lowers (coerce : Value → Coercion Setting) (item value : Value) : Prop :=
  ∃ setting, (coerce item).result = .ok setting ∧ setting.toValue = value

section Items

variable {coerce : Value → Coercion Setting} {items values : List Value}

theorem eachItem_eq_ok_iff {index : Nat} :
    (eachItem coerce index items).result = .ok values ↔
      List.Forall₂ (Lowers coerce) items values := by
  induction items generalizing index values with
  | nil => simp [eachItem, eq_comm]
  | cons item rest ih =>
    simp only [eachItem, andThen_eq_ok, of_result, Except.ok.injEq, ih,
      List.forall₂_cons_left_iff, Lowers]
    cases (coerce item).result with
    | ok setting =>
      simp only [Except.mapError, Except.ok.injEq]
      constructor
      · rintro ⟨_, rfl, more, lowered, rfl⟩
        exact ⟨_, more, ⟨_, rfl, rfl⟩, lowered, rfl⟩
      · rintro ⟨_, more, ⟨_, rfl, rfl⟩, lowered, rfl⟩
        exact ⟨_, rfl, more, lowered, rfl⟩
    | error problem => simp [Except.mapError]

theorem exists_lowered_iff :
    (∃ values, List.Forall₂ (Lowers coerce) items values) ↔
      ∀ item ∈ items, ∃ setting, (coerce item).result = .ok setting := by
  induction items with
  | nil => simp
  | cons item rest ih =>
    rw [List.forall_mem_cons, ← ih]
    constructor
    · rintro ⟨_, _ | ⟨⟨setting, done, _⟩, lowered⟩⟩
      exact ⟨⟨setting, done⟩, _, lowered⟩
    · rintro ⟨⟨setting, done⟩, more, lowered⟩
      exact ⟨_, .cons ⟨setting, done, rfl⟩ lowered⟩

theorem lowers_rightUnique (coerce : Value → Coercion Setting) :
    Relator.RightUnique (Lowers coerce) := by
  rintro item _ _ ⟨setting, done, rfl⟩ ⟨_, again, rfl⟩
  cases done.symm.trans again
  rfl

/-- The value of an item is found in its place. -/
theorem lowers_at (lowered : List.Forall₂ (Lowers coerce) items values) {index : Nat} {item : Value}
    (listed : items[index]? = some item) :
    ∃ value, values[index]? = some value ∧ Lowers coerce item value := by
  obtain ⟨inside, rfl⟩ := List.getElem?_eq_some_iff.mp listed
  exact ⟨_, List.getElem?_eq_getElem (lowered.length_eq ▸ inside),
    lowered.get inside (lowered.length_eq ▸ inside)⟩

theorem exists_item_of_lowered (lowered : List.Forall₂ (Lowers coerce) items values) {value : Value}
    (member : value ∈ values) : ∃ item ∈ items, Lowers coerce item value := by
  obtain ⟨index, inside, rfl⟩ := List.getElem_of_mem member
  have listed : index < items.length := lowered.length_eq ▸ inside
  exact ⟨_, List.getElem_mem listed, lowered.get listed inside⟩

end Items

theorem eachItem_quiet {coerce : Value → Coercion Setting} (index : Nat) {items : List Value}
    (quiet : ∀ item ∈ items, (coerce item).warnings = []) :
    (eachItem coerce index items).warnings = [] := by
  induction items generalizing index with
  | nil => rfl
  | cons item rest ih =>
    obtain ⟨here, later⟩ := List.forall_mem_cons.mp quiet
    have others := ih (index + 1) later
    simp only [eachItem, andThen]
    cases (coerce item).result with
    | error problem => simpa [Except.mapError] using here
    | ok setting =>
      cases done : (eachItem coerce (index + 1) rest).result <;>
        simp [Except.mapError, here, others]

end Coercion

namespace Validation

theorem toCoercion_eq_ok {validation : Validation} {config : Config} :
    validation.toCoercion.result = .ok config ↔
      validation.report.errors = [] ∧ validation.config = config := by
  simp only [toCoercion, Report.hasErrors]
  by_cases faultless : validation.report.errors = [] <;> simp [faultless]

end Validation

theorem Config.Tidy.validate {config : Config} (tidy : config.Tidy) (environment : Environment) :
    (config.validate environment).config.Tidy := ⟨tidy.distinct, tidy.undeclared⟩

theorem Theme.coerce_eq_ok {registry : Registry} {settings : ThemeSettings} {coerced : Setting} :
    (coerce registry settings).result = .ok coerced ↔
      ∃ theme, resolve registry settings = .ok theme ∧ coerced = .theme theme := by
  unfold coerce
  cases resolve registry settings <;> simp [eq_comm]

def Theme.isVariable (key : String) : Bool := !Rule.themeSettings.names.contains key

def ThemeSettings.Apart (settings : ThemeSettings) : Prop :=
  ∀ key ∈ Rule.themeSettings.names, settings.vars.get? key = none

theorem ThemeSettings.apart_ofConfig (config : Config) (members : OrderedMap Value) :
    (ofConfig config (members.filterKeys Theme.isVariable)).Apart := by
  intro key declared
  show (members.filterKeys Theme.isVariable).get? key = none
  rw [OrderedMap.get?_filterKeys]
  simp [Theme.isVariable, declared]

namespace Rule

variable (context : Context) {setting coerced : Setting}

theorem coerce_socketAddress_eq_ok :
    (Rule.socketAddress.coerce context setting).result = .ok coerced ↔
      ∃ address, parseAddress setting = .ok address ∧ coerced = .data (.text address.toText) := by
  simp only [coerce, Coercion.andThen_eq_ok, Coercion.of_result, Except.ok.injEq,
    eq_comm (a := coerced)]

theorem coerce_listOf (item : Rule) (items : List Value) :
    (Rule.listOf item).coerce context (.data (.list items)) =
      (Coercion.eachItem (fun value => item.coerce context (.data value)) 0 items).andThen
        fun items => .of (.ok (.data (.list items))) := by
  simp only [coerce]

theorem coerce_listOf_eq_ok {item : Rule} :
    ((Rule.listOf item).coerce context setting).result = .ok coerced ↔
      ∃ items values, setting = .data (.list items) ∧
        List.Forall₂ (Coercion.Lowers fun value => item.coerce context (.data value)) items values ∧
        coerced = .data (.list values) := by
  constructor
  · intro done
    cases setting with
    | theme theme => simp [coerce] at done
    | data value =>
      cases value with
      | list items =>
        rw [coerce_listOf] at done
        obtain ⟨values, each, same⟩ := Coercion.andThen_eq_ok.mp done
        exact ⟨items, values, rfl, Coercion.eachItem_eq_ok_iff.mp each, (Except.ok.inj same).symm⟩
      | _ => simp [coerce] at done
  · intro found
    rcases found with ⟨items, values, given, lowered, same⟩
    subst given same
    rw [coerce_listOf]
    exact Coercion.andThen_eq_ok.mpr ⟨values, Coercion.eachItem_eq_ok_iff.mpr lowered, rfl⟩

theorem coerce_mapping (schema : Schema) (members : OrderedMap Value) :
    (Rule.mapping schema).coerce context (.data (.object members)) =
      ((Config.nested schema context.base members).validate
        context.environment).toCoercion.andThen
          fun config => .of (.ok (.data (.object config.toMembers))) := by
  obtain ⟨fields, passthrough⟩ := schema
  simp only [coerce, Config.validate, Config.nested_schema]
  rfl

theorem coerce_mapping_eq_ok {schema : Schema} :
    ((Rule.mapping schema).coerce context setting).result = .ok coerced ↔
      ∃ members, setting = .data (.object members) ∧
        ((Config.nested schema context.base members).validate
          context.environment).report.errors = [] ∧
        coerced = .data (.object ((Config.nested schema context.base members).validate
          context.environment).config.toMembers) := by
  obtain ⟨fields, passthrough⟩ := schema
  constructor
  · intro done
    cases setting with
    | theme theme => simp [coerce] at done
    | data value =>
      cases value with
      | object members =>
        rw [coerce_mapping] at done
        obtain ⟨config, validated, same⟩ := Coercion.andThen_eq_ok.mp done
        obtain ⟨faultless, rfl⟩ := Validation.toCoercion_eq_ok.mp validated
        exact ⟨members, rfl, faultless, (Except.ok.inj same).symm⟩
      | _ => simp [coerce] at done
  · intro found
    rcases found with ⟨members, given, faultless, same⟩
    subst given same
    rw [coerce_mapping]
    exact Coercion.andThen_eq_ok.mpr
      ⟨_, Validation.toCoercion_eq_ok.mpr ⟨faultless, rfl⟩, rfl⟩

/-- What is not a theme yet is validated by itself and then resolved. -/
theorem coerce_theme (registry : Registry) (value : Value) :
    (themeOf registry).coerce context (.data value) =
      (Coercion.of (ThemeSettings.normalize context.default (.data value))).andThen fun members =>
        ((Config.nested themeSettings context.base members).validate
          context.environment).toCoercion.andThen fun config =>
            Theme.coerce registry
              (ThemeSettings.ofConfig config (members.filterKeys Theme.isVariable)) := by
  simp only [themeOf, Config.validate, Config.nested_schema]
  rfl

theorem coerce_theme_eq_ok {registry : Registry} {value : Value} :
    ((themeOf registry).coerce context (.data value)).result = .ok coerced ↔
      ∃ members theme, ThemeSettings.normalize context.default (.data value) = .ok members ∧
        ((Config.nested themeSettings context.base members).validate
          context.environment).report.errors = [] ∧
        Theme.resolve registry (ThemeSettings.ofConfig
          ((Config.nested themeSettings context.base members).validate context.environment).config
          (members.filterKeys Theme.isVariable)) = .ok theme ∧ coerced = .theme theme := by
  rw [coerce_theme]
  simp only [Coercion.andThen_eq_ok, Coercion.of_result, Validation.toCoercion_eq_ok,
    Theme.coerce_eq_ok]
  constructor
  · intro done
    rcases done with ⟨members, normal, _, ⟨faultless, rfl⟩, theme, resolved, same⟩
    exact ⟨members, theme, normal, faultless, resolved, same⟩
  · intro found
    rcases found with ⟨members, theme, normal, faultless, resolved, same⟩
    exact ⟨members, normal, _, ⟨faultless, rfl⟩, theme, resolved, same⟩

end Rule

end SiteSettings
