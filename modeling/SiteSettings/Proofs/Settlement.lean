import SiteSettings.Proofs.Admission
import SiteSettings.Proofs.Legacy

/-! When validated values are left alone by another validation. Most rules take back what
they made; the exceptions are legacy fields with something to say, URLs that do not read
back, themes inside other values, and output directories compared from another base. -/

namespace SiteSettings

/-- The text of a URL that is read as a URL of the same text. -/
def Rule.ReadsBack (directory : Bool) (text : String) : Prop :=
  text = "" ∨
    ∃ url, Url.parse text = .ok url ∧ url.host?.isSome = true ∧ Rule.urlText directory url = text

/-- The variables of a theme that would be taken for declared settings can be. -/
structure ThemeSettings.Reloads (environment : Environment) (base : Path)
    (vars : OrderedMap Value) : Prop where
  customDirectory : ∀ value, vars.get? "custom_dir" = some value → value.isNull = true ∨
    ∃ text, value = .text text ∧
      environment.files.isDirectory (environment.locate base text) = true
  staticTemplates : ∀ value, vars.get? "static_templates" = some value → value.isNull = true ∨
    ∃ items, value = .list items ∧ ∀ item ∈ items, ∃ text, item = .text text

/-- No legacy field has anything to complain about or to move, and no output directory
is in the way of the input, seen from where the configuration starts now. -/
structure Config.Quiet (config : Config) (environment : Environment) : Prop where
  idle : ∀ field ∈ config.schema.fields, field.rule.Idle field.name config.slots
  apart : ∀ field ∈ config.schema.fields,
    field.rule.crossCheck environment (config.baseDir environment) field.name config.slots = none

mutual

/-- What a value of the rule must have, besides being admitted, to be left alone. -/
def Rule.Settled (environment : Environment) (base : Path) (rule : Rule) (setting : Setting) :
    Prop :=
  match rule with
  | .deprecated _ (some inner) => inner.Settled environment base setting
  | .url directory => ∀ text, setting = .data (.text text) → Rule.ReadsBack directory text
  | .listOf item =>
    ∀ items, setting = .data (.list items) →
      ∀ value ∈ items, item.Settled environment base (.data value)
  | .mapping ⟨fields, passthrough⟩ =>
    ∀ members, setting = .data (.object members) →
      (Config.nested ⟨fields, passthrough⟩ base members).Quiet environment ∧
        Field.AllSettled environment base fields
          (Config.nested ⟨fields, passthrough⟩ base members)
  | .theme _ _ =>
    ∀ vars, setting = .data (.object vars) → ThemeSettings.Reloads environment base vars
  | _ => True
termination_by structural rule

def Field.AllSettled (environment : Environment) (base : Path) (fields : List Field)
    (config : Config) : Prop :=
  match fields with
  | [] => True
  | field :: rest =>
    field.Settled environment base (config.get? field.name) ∧
      Field.AllSettled environment base rest config
termination_by structural fields

def Field.Settled (environment : Environment) (base : Path) (field : Field)
    (slot : Option Setting) : Prop :=
  match field with
  | ⟨_, rule, _, _⟩ => ∀ setting, slot = some setting → rule.Settled environment base setting
termination_by structural field

end

theorem Field.allSettled_iff {environment : Environment} {base : Path} {fields : List Field}
    {config : Config} :
    AllSettled environment base fields config ↔
      ∀ field ∈ fields, ∀ setting, config.get? field.name = some setting →
        field.rule.Settled environment base setting := by
  induction fields with
  | nil => simp [AllSettled]
  | cons field rest ih =>
    obtain ⟨name, rule, default, required⟩ := field
    simp only [AllSettled, Settled, ih, List.forall_mem_cons]

/-- Nothing in the configuration is in the way of validating it once more. -/
structure Config.Settled (config : Config) (environment : Environment) : Prop where
  quiet : config.Quiet environment
  fields : ∀ field ∈ config.schema.fields, ∀ setting, config.get? field.name = some setting →
    field.rule.Settled environment (config.baseDir environment) setting

namespace Rule

variable {environment : Environment} {base : Path}

theorem settled_theme (rule : Rule) (theme : Theme) :
    rule.Settled environment base (.theme theme) := by
  induction rule using Rule.induct with
  | deprecated notice inner ih => exact ih
  | mapping fields passthrough ih =>
    rintro members ⟨⟩
  | url directory | listOf item ih | theme registry settings => rintro _ ⟨⟩
  | _ => trivial

theorem settled_null (rule : Rule) : rule.Settled environment base (.data .null) := by
  induction rule using Rule.induct with
  | deprecated notice inner ih => exact ih
  | mapping fields passthrough ih =>
    rintro members ⟨⟩
  | url directory | listOf item ih | theme registry settings => rintro _ ⟨⟩
  | _ => trivial

end Rule

namespace Config

variable {config : Config} {environment : Environment}

theorem Quiet.prepared (quiet : config.Quiet environment) :
    (config.prepared environment).slots.Alike config.slots ∧
      (config.prepared environment).Clean := by
  have start : (config.opened environment).slots.Alike config.slots := .refl config.slots
  obtain ⟨alike, clean⟩ := Pass.prepareFields_of_idle start quiet.idle
  exact ⟨alike, clean rfl⟩

def standing (config : Config) (environment : Environment) (field : Field) : Verdict :=
  field.verdict environment (config.baseDir environment) (config.get? field.name)

theorem Quiet.verdict_eq (quiet : config.Quiet environment) (field : Field) :
    config.verdict environment field = config.standing environment field := by
  unfold verdict standing
  rw [quiet.prepared.1 field.name]
  rfl

end Config

theorem Setting.isNull_eq (setting : Setting) : setting.isNull = setting.toValue.isNull := by
  cases setting with
  | data value => cases value <;> rfl
  | theme theme => rfl

theorem Setting.eq_null {setting : Setting} (null : setting.isNull = true) :
    setting = .data .null := by
  unfold isNull at null
  split at null
  · rfl
  · cases null

namespace Field

variable {environment : Environment} {base : Path}

theorem slot_eq_none {field : Field} {slot : Option Setting}
    (empty : (field.verdict environment base slot).slot = none) : slot = none := by
  cases source : field.source? slot with
  | none => rwa [verdict_of_no_source source] at empty
  | some setting =>
    rw [verdict_of_source source, Verdict.ofCoercion] at empty
    split at empty
    · cases empty
    · exact empty

/-- A field that holds is unset, or its rule is asked about the admitted value, even if
that is read back as data. -/
theorem verdict_of_holds (base : Path) {field : Field} {given : Theme → Prop}
    {held slot : Option Setting}
    (holds : field.Holds environment given held)
    (same : slot.map Setting.toValue = held.map Setting.toValue) :
    (Unset slot ∧ field.verdict environment base slot = ⟨slot, none, []⟩) ∨
      ∃ original setting, held = some original ∧ slot = some setting ∧
        setting.toValue = original.toValue ∧ field.rule.Admits environment given original ∧
        field.verdict environment base slot =
          .ofCoercion slot (field.rule.coerce (field.context environment base) setting) := by
  obtain ⟨unset, optional, plain⟩ | ⟨original, rfl, admitted, null⟩ := holds_iff.mp holds
  · have unset : Unset slot := by
      intro setting same
      rcases same with rfl
      obtain ⟨original, rfl, alike⟩ := Option.map_eq_some_iff.mp same.symm
      rw [setting.isNull_eq, ← alike, ← original.isNull_eq]
      exact unset original rfl
    have source : field.source? slot = none := by
      rw [source?, filter_eq_none_of_unset unset, plain]
      rfl
    rw [verdict_of_no_source source, optional]
    exact .inl ⟨unset, rfl⟩
  · obtain ⟨setting, rfl, alike⟩ := Option.map_eq_some_iff.mp same
    refine .inr ⟨original, setting, rfl, rfl, alike, admitted, verdict_of_source ?_⟩
    rw [original.isNull_eq, ← alike, ← setting.isNull_eq] at null
    cases found : setting.isNull with
    | false => simp [source?, found]
    | true =>
      rw [source?, null found, setting.eq_null found]
      rfl

section Standing

variable {field : Field} {given : Theme → Prop} {held slot : Option Setting}
  (holds : field.Holds environment given held)
  (same : slot.map Setting.toValue = held.map Setting.toValue)

include holds same

theorem stands_of_holds
    (again : ∀ original setting, slot = some setting → setting.toValue = original.toValue →
      field.rule.Admits environment given original →
      ∃ coerced, (field.rule.coerce (field.context environment base) setting).result =
        .ok coerced ∧ coerced.toValue = setting.toValue) :
    (field.verdict environment base slot).problem = none ∧
      (field.verdict environment base slot).slot.map Setting.toValue =
        slot.map Setting.toValue := by
  obtain ⟨_, verdict⟩ | ⟨original, setting, _, rfl, alike, admitted, verdict⟩ :=
    verdict_of_holds base holds same
  · rw [verdict]
    exact ⟨rfl, rfl⟩
  · obtain ⟨coerced, done, kept⟩ := again original setting rfl alike admitted
    rw [verdict, Verdict.ofCoercion, done]
    exact ⟨rfl, congrArg some kept⟩

theorem coerce_of_stands (stands : (field.verdict environment base slot).problem = none)
    (kept : (field.verdict environment base slot).slot.map Setting.toValue =
      slot.map Setting.toValue) {setting : Setting} (found : slot = some setting) :
    setting.isNull = true ∨
      ∃ original coerced, setting.toValue = original.toValue ∧ held = some original ∧
        field.rule.Admits environment given original ∧
        (field.rule.coerce (field.context environment base) setting).result = .ok coerced ∧
        coerced.toValue = setting.toValue := by
  obtain ⟨unset, _⟩ | ⟨original, other, held, rfl, alike, admitted, verdict⟩ :=
    verdict_of_holds base holds same
  · exact .inl (unset setting found)
  · cases found
    rw [verdict, Verdict.ofCoercion] at stands kept
    cases done : (field.rule.coerce (field.context environment base) setting).result with
    | error problem =>
      rw [done] at stands
      cases stands
    | ok coerced =>
      rw [done] at kept
      exact .inr ⟨original, coerced, alike, held, admitted, rfl, Option.some.inj kept⟩

end Standing

end Field

namespace Config

variable {config : Config} {environment : Environment}

/-- Whatever reads the same in every slot as it stands reads the same after validation. -/
theorem Quiet.read_validated {α : Type} (quiet : config.Quiet environment)
    (distinct : config.schema.names.Nodup) (read : Option Setting → α)
    (stand : ∀ field ∈ config.schema.fields,
      read (config.standing environment field).slot = read (config.get? field.name))
    (key : String) : read ((config.validate environment).config.get? key) = read (config.get? key) := by
  by_cases declared : key ∈ config.schema.names
  · obtain ⟨field, member, rfl⟩ := List.mem_map.mp declared
    rw [validate_slot distinct member, quiet.verdict_eq]
    exact stand field member
  · rw [validate_slot_of_not_mem declared, quiet.prepared.1 key]
    rfl

/-- A quiet configuration whose fields all stand is validated without errors. -/
theorem Quiet.faultless (quiet : config.Quiet environment) (distinct : config.schema.names.Nodup)
    (stand : ∀ field ∈ config.schema.fields,
      (config.standing environment field).problem = none ∧
        (config.standing environment field).slot.map Setting.toValue =
          (config.get? field.name).map Setting.toValue) :
    (config.validate environment).report.errors = [] := by
  refine (validate_faultless_iff distinct environment).mpr ⟨quiet.prepared.2, ?_, ?_⟩
  · intro field member
    rw [quiet.verdict_eq]
    exact (stand field member).1
  · intro field member
    rw [← quiet.apart field member]
    apply Rule.crossCheck_congr _ _ _ field.rule
    intro key
    rw [← validate_get?]
    exact quiet.read_validated distinct (Option.map Setting.toValue)
      (fun field member => (stand field member).2) key

/-- If validation finds no error and every field is written as before, it was quiet. -/
theorem quiet_of_kept (distinct : config.schema.names.Nodup)
    (straight : Pass.Straight config.schema.fields)
    (faultless : (config.validate environment).report.errors = [])
    (kept : ∀ field ∈ config.schema.fields,
      ((config.validate environment).config.get? field.name).map Setting.toValue =
        (config.get? field.name).map Setting.toValue) :
    config.Quiet environment := by
  have sound := (validate_faultless_iff distinct environment).mp faultless
  have idle : ∀ field ∈ config.schema.fields, field.rule.Idle field.name config.slots := by
    apply Pass.idle_of_kept distinct straight sound.prepared
    intro field member absent
    have lost := kept field member
    rw [validate_slot distinct member, show config.get? field.name = none from absent,
      Option.map_none, Option.map_eq_none_iff] at lost
    exact Field.slot_eq_none lost
  have start : (config.opened environment).slots.Alike config.slots := .refl config.slots
  have alike := (Pass.prepareFields_of_idle start idle).1
  refine ⟨idle, fun field member => ?_⟩
  rw [← sound.apart field member]
  apply Rule.crossCheck_congr _ _ _ field.rule
  intro key
  rw [← validate_get?]
  by_cases declared : key ∈ config.schema.names
  · obtain ⟨field, member, rfl⟩ := List.mem_map.mp declared
    exact (kept field member).symm
  · rw [validate_slot_of_not_mem declared]
    exact congrArg (Option.map Setting.toValue) (alike key).symm

end Config

end SiteSettings
