import SiteSettings.Proofs.Verdicts

/-! A whole validation as its three phases. Legacy fields act on the staged slots, the
verdicts on all fields settle them, and the cross-checks only add errors. -/

namespace SiteSettings

namespace Field

def preparation (field : Field) (slots : OrderedMap Setting) : Rule.Preparation :=
  field.rule.prepare field.name slots

end Field

theorem Setting.text?_eq (setting : Setting) : setting.text? = setting.toValue.text? := by
  cases setting <;> rfl

/-- The cross-check of an output directory reads two texts, that of any other field none. -/
theorem Rule.crossCheck_reads (rule : Rule) (environment : Environment) (base : Path) (key : String)
    {first second : OrderedMap Setting} (own : textAt? first key = textAt? second key)
    (docs : ∀ docsKey, rule = .siteDirectory docsKey →
      textAt? first docsKey = textAt? second docsKey) :
    rule.crossCheck environment base key first = rule.crossCheck environment base key second := by
  cases rule with
  | siteDirectory docsKey => simp only [crossCheck, own, docs docsKey rfl]
  | _ => rfl

/-- The texts that the cross-check reads are the same in a slot and in what it is written as. -/
theorem Rule.crossCheck_congr (environment : Environment) (base : Path) (key : String)
    (rule : Rule) {first second : OrderedMap Setting}
    (same : ∀ key, (first.get? key).map Setting.toValue = (second.get? key).map Setting.toValue) :
    rule.crossCheck environment base key first = rule.crossCheck environment base key second := by
  have texts (slots : OrderedMap Setting) (key : String) :
      textAt? slots key = ((slots.get? key).map Setting.toValue).bind Value.text? := by
    unfold textAt?
    cases slots.get? key with
    | none => rfl
    | some setting => exact setting.text?_eq
  have read (key : String) : textAt? first key = textAt? second key := by
    rw [texts, texts, same]
  exact rule.crossCheck_reads environment base key (read key) fun docsKey _ => read docsKey

namespace Pass

theorem prepareField_slots (pass : Pass) (field : Field) :
    (pass.prepareField field).slots = (field.preparation pass.slots).slots := by
  simp only [prepareField, Field.preparation]
  split <;> rfl

theorem adds_prepareField (pass : Pass) (field : Field) :
    pass.Adds (pass.prepareField field) field.name (field.preparation pass.slots).problem
      (field.preparation pass.slots).warnings := by
  simp only [prepareField, Field.preparation]
  cases (field.rule.prepare field.name pass.slots).problem <;> constructor <;>
    simp [fail, blame, warn, Report.addError, Report.addWarnings, Problem.toDiagnostic]

theorem Adds.failed_of_clean {before after : Pass} {name : String} {problem : Option Problem}
    {warnings : List String} (adds : Adds before after name problem warnings) (clean : after.Clean) :
    after.failed = before.failed := by
  obtain ⟨_, rfl⟩ := adds.clean_iff.mp clean
  simpa using adds.failed

theorem clean_of_prepareFields {fields : List Field} {pass : Pass}
    (clean : (fields.foldl prepareField pass).Clean) :
    pass.Clean ∧ (fields.foldl prepareField pass).failed = pass.failed := by
  induction fields generalizing pass with
  | nil => exact ⟨clean, rfl⟩
  | cons field rest ih =>
    obtain ⟨here, failed⟩ := ih clean
    have adds := pass.adds_prepareField field
    exact ⟨(adds.clean_iff.mp here).1, failed.trans (adds.failed_of_clean here)⟩

def crossProblem? (environment : Environment) (base : Path) (failed : List String)
    (slots : OrderedMap Setting) (field : Field) : Option Problem :=
  if failed.contains field.name then none
  else field.rule.crossCheck environment base field.name slots

theorem crossCheckField_eq (environment : Environment) (base : Path) (pass : Pass) (field : Field) :
    crossCheckField environment base pass field =
      match crossProblem? environment base pass.failed pass.slots field with
      | some problem => pass.blame field.name problem
      | none => pass := by
  simp only [crossCheckField, crossProblem?]
  split <;> rfl

theorem crossCheck_report (environment : Environment) (base : Path) (fields : List Field)
    (pass : Pass) :
    let done := fields.foldl (crossCheckField environment base) pass
    done.slots = pass.slots ∧ done.report.warnings = pass.report.warnings ∧
      done.report.errors = pass.report.errors ++ fields.flatMap fun field =>
        ((crossProblem? environment base pass.failed pass.slots field).map
          (Problem.toDiagnostic field.name)).toList := by
  induction fields generalizing pass with
  | nil => simp
  | cons field rest ih =>
    simp only [List.foldl_cons, List.flatMap_cons, crossCheckField_eq environment base pass field]
    cases crossProblem? environment base pass.failed pass.slots field with
    | none => simpa using ih pass
    | some problem =>
      obtain ⟨slots, warnings, errors⟩ := ih (pass.blame field.name problem)
      refine ⟨slots, warnings, errors.trans ?_⟩
      simp [blame, Report.addError, Problem.toDiagnostic]

theorem unrecognised_report (keys : List String) (pass : Pass) :
    let done := keys.foldl warnUnrecognised pass
    done.slots = pass.slots ∧ done.report.errors = pass.report.errors ∧
      done.report.warnings = pass.report.warnings ++
        keys.map fun key => ⟨key, s!"Unrecognised configuration name: {key}", none⟩ := by
  induction keys generalizing pass with
  | nil => simp
  | cons key rest ih =>
    obtain ⟨slots, errors, warnings⟩ := ih (pass.warnUnrecognised key)
    refine ⟨slots, errors, warnings.trans ?_⟩
    simp [warnUnrecognised, warn, Report.addWarnings]

end Pass

namespace Config

variable (config : Config) (environment : Environment)

def opened : Pass :=
  let base := config.baseDir environment
  let fields := config.schema.fields
  ⟨config.slots, [], .empty,
    [⟨"config", s!"validating {fields.length} fields (base: {base.text})"⟩]⟩

def prepared : Pass := config.schema.fields.foldl Pass.prepareField (config.opened environment)

def coerced : Pass :=
  Field.coerceAll config.schema.fields environment (config.baseDir environment)
    (config.prepared environment)

def checked : Pass :=
  config.schema.fields.foldl
    (Pass.crossCheckField environment (config.baseDir environment)) (config.coerced environment)

def verdict (field : Field) : Verdict :=
  field.verdict environment (config.baseDir environment)
    ((config.prepared environment).slots.get? field.name)

/-- Settled slots and nothing else are new in a validated configuration. -/
theorem validate_config :
    (config.validate environment).config =
      { config with slots := (config.coerced environment).slots } := by
  have unrecognised := Pass.unrecognised_report config.unrecognised (config.checked environment)
  have crossed := Pass.crossCheck_report environment (config.baseDir environment)
    config.schema.fields (config.coerced environment)
  have slots : (config.validate environment).config.slots = (config.coerced environment).slots :=
    unrecognised.1.trans crossed.1
  rw [← slots]
  rfl

theorem validate_get? (key : String) :
    (config.validate environment).config.get? key = (config.coerced environment).slots.get? key := by
  rw [validate_config]
  rfl

/-- A validated slot is the verdict on what the legacy phase left there. -/
theorem validate_slot {config : Config} {environment : Environment}
    (distinct : config.schema.names.Nodup) {field : Field} (member : field ∈ config.schema.fields) :
    (config.validate environment).config.get? field.name =
      (config.verdict environment field).slot := by
  rw [validate_get?]
  exact Field.coerceAll_get? distinct member _

theorem validate_slot_of_not_mem {config : Config} {environment : Environment} {key : String}
    (other : key ∉ config.schema.names) :
    (config.validate environment).config.get? key =
      (config.prepared environment).slots.get? key := by
  rw [validate_get?]
  exact Field.coerceAll_get?_of_not_mem other _

/-- A slot that is settled by the same verdict, or by none, is the same after validation. -/
theorem validate_slot_congr {first second : Config} {environment : Environment} {key : String}
    (distinct : first.schema.names.Nodup) (other_distinct : second.schema.names.Nodup)
    (settled : ∀ field ∈ first.schema.fields, field.name = key →
      ∃ other ∈ second.schema.fields, other.name = key ∧
        second.verdict environment other = first.verdict environment field)
    (unsettled : key ∉ first.schema.names → key ∉ second.schema.names ∧
      (second.prepared environment).slots.get? key = (first.prepared environment).slots.get? key) :
    (first.validate environment).config.get? key =
      (second.validate environment).config.get? key := by
  by_cases declared : key ∈ first.schema.names
  · obtain ⟨field, member, rfl⟩ := List.mem_map.mp declared
    obtain ⟨other, inside, same, verdict⟩ := settled field member rfl
    rw [validate_slot distinct member, ← verdict, ← same, validate_slot other_distinct inside]
  · obtain ⟨absent, same⟩ := unsettled declared
    rw [validate_slot_of_not_mem declared, validate_slot_of_not_mem absent, same]

theorem coerced_report (distinct : config.schema.names.Nodup) :
    (config.coerced environment).failed = (config.prepared environment).failed ++
        (config.schema.fields.filter
          fun field => (config.verdict environment field).problem.isSome).map Field.name ∧
      (config.coerced environment).report.errors = (config.prepared environment).report.errors ++
        config.schema.fields.flatMap
          (fun field => (config.verdict environment field).errors field.name) ∧
      (config.coerced environment).report.warnings =
        (config.prepared environment).report.warnings ++
          config.schema.fields.flatMap
            (fun field => (config.verdict environment field).notes field.name) :=
  Field.coerceAll_report distinct (config.prepared environment) fun _ _ => rfl

def crossErrors (field : Field) : List Diagnostic :=
  ((Pass.crossProblem? environment (config.baseDir environment)
      (config.coerced environment).failed (config.coerced environment).slots field).map
    (Problem.toDiagnostic field.name)).toList

/-- What the cross-check says of a field depends on whether it failed and on what is compared. -/
theorem crossErrors_congr {first second : Config} {environment : Environment} {field : Field}
    (failed : field.name ∈ (first.coerced environment).failed ↔
      field.name ∈ (second.coerced environment).failed)
    (checked : field.rule.crossCheck environment (first.baseDir environment) field.name
        (first.coerced environment).slots =
      field.rule.crossCheck environment (second.baseDir environment) field.name
        (second.coerced environment).slots) :
    first.crossErrors environment field = second.crossErrors environment field := by
  have passed_over : (first.coerced environment).failed.contains field.name =
      (second.coerced environment).failed.contains field.name := by
    rw [Bool.eq_iff_iff, List.contains_iff_mem, List.contains_iff_mem]
    exact failed
  simp only [crossErrors, Pass.crossProblem?, passed_over, checked]

theorem validate_errors {config : Config} (distinct : config.schema.names.Nodup)
    (environment : Environment) :
    (config.validate environment).report.errors =
      (config.prepared environment).report.errors ++
        config.schema.fields.flatMap
          (fun field => (config.verdict environment field).errors field.name) ++
        config.schema.fields.flatMap (config.crossErrors environment) := by
  have unrecognised := Pass.unrecognised_report config.unrecognised (config.checked environment)
  have crossed := Pass.crossCheck_report environment (config.baseDir environment)
    config.schema.fields (config.coerced environment)
  have settled := config.coerced_report environment distinct
  exact unrecognised.2.1.trans (crossed.2.2.trans (congrArg (· ++ _) settled.2.1))

theorem validate_warnings {config : Config} (distinct : config.schema.names.Nodup)
    (environment : Environment) :
    (config.validate environment).report.warnings =
      (config.prepared environment).report.warnings ++
        config.schema.fields.flatMap
          (fun field => (config.verdict environment field).notes field.name) ++
        config.unrecognised.map
          fun key => ⟨key, s!"Unrecognised configuration name: {key}", none⟩ := by
  have unrecognised := Pass.unrecognised_report config.unrecognised (config.checked environment)
  have crossed := Pass.crossCheck_report environment (config.baseDir environment)
    config.schema.fields (config.coerced environment)
  have settled := config.coerced_report environment distinct
  exact unrecognised.2.2.trans (congrArg (· ++ _) (crossed.2.1.trans settled.2.2))

theorem coerced_failed {config : Config} (distinct : config.schema.names.Nodup)
    (environment : Environment) :
    (config.coerced environment).failed = (config.prepared environment).failed ++
      (config.schema.fields.filter
        fun field => (config.verdict environment field).problem.isSome).map Field.name :=
  (config.coerced_report environment distinct).1

structure Faultless : Prop where
  prepared : (config.prepared environment).Clean
  settled : ∀ field ∈ config.schema.fields, (config.verdict environment field).problem = none
  apart : ∀ field ∈ config.schema.fields,
    field.rule.crossCheck environment (config.baseDir environment) field.name
      (config.coerced environment).slots = none

theorem validate_faultless_iff {config : Config} (distinct : config.schema.names.Nodup)
    (environment : Environment) :
    (config.validate environment).report.errors = [] ↔ config.Faultless environment := by
  rw [validate_errors distinct, List.append_eq_nil_iff, List.append_eq_nil_iff]
  simp only [List.flatMap_eq_nil_iff, Verdict.errors_eq_nil_iff]
  have none_failed (clean : (config.prepared environment).Clean)
      (settled : ∀ field ∈ config.schema.fields,
        (config.verdict environment field).problem = none) :
      (config.coerced environment).failed = [] := by
    have settled_filter : (config.schema.fields.filter
        fun field => (config.verdict environment field).problem.isSome) = [] := by
      rw [List.filter_eq_nil_iff]
      intro field member
      simp [settled field member]
    have opened_failed : (config.prepared environment).failed = [] :=
      (Pass.clean_of_prepareFields clean).2
    rw [coerced_failed distinct, settled_filter, opened_failed]
    rfl
  have crossed (clean : (config.prepared environment).Clean)
      (settled : ∀ field ∈ config.schema.fields,
        (config.verdict environment field).problem = none) (field : Field) :
      config.crossErrors environment field = [] ↔
        field.rule.crossCheck environment (config.baseDir environment) field.name
          (config.coerced environment).slots = none := by
    simp [crossErrors, Pass.crossProblem?, none_failed clean settled]
  constructor
  · intro found
    rcases found with ⟨⟨clean, settled⟩, apart⟩
    exact ⟨clean, settled, fun field member =>
      (crossed clean settled field).mp (apart field member)⟩
  · intro sound
    rcases sound with ⟨clean, settled, apart⟩
    exact ⟨⟨clean, settled⟩, fun field member =>
      (crossed clean settled field).mpr (apart field member)⟩

end Config

end SiteSettings
