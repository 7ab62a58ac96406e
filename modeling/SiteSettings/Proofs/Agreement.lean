import SiteSettings.Proofs.Legacy
import SiteSettings.Proofs.Loading

/-! Configurations that no phase of validation can tell apart. Where nothing moves, they
need only give every field the same verdict and every legacy field the same say. -/

namespace SiteSettings

theorem Report.ext_iff {first second : Report} :
    first = second ↔ first.errors = second.errors ∧ first.warnings = second.warnings := by
  cases first
  cases second
  simp

structure Validation.Agrees (first second : Validation) : Prop where
  report : first.report = second.report
  slots : first.config.slots.Alike second.config.slots
  extras : first.config.extras = second.config.extras
  unrecognised : first.config.unrecognised = second.config.unrecognised

namespace Field

def complaints (field : Field) (slots : OrderedMap Setting) : Verdict :=
  ⟨none, (field.preparation slots).problem, (field.preparation slots).warnings⟩

theorem complaints_congr (field : Field) {first second : OrderedMap Setting}
    (same : first.get? field.name = second.get? field.name) :
    field.complaints first = field.complaints second := by
  obtain ⟨problem, warnings⟩ := field.rule.prepare_says_congr same
  simp only [complaints, preparation, problem, warnings]

end Field

namespace Rule

theorem prepare_still {rule : Rule} (still : rule.successor? = none) (key : String)
    (slots : OrderedMap Setting) : (rule.prepare key slots).slots.Alike slots := by
  apply (rule.prepare_shifts key slots).alike_of_blocked
  intro target moved
  cases still.symm.trans moved

end Rule

/-- Where nothing moves, every legacy field sees what was staged. -/
theorem Pass.prepareFields_still {fields : List Field}
    (still : ∀ field ∈ fields, field.rule.successor? = none) (pass : Pass) :
    let prepared := fields.foldl prepareField pass
    prepared.slots.Alike pass.slots ∧
      prepared.failed = pass.failed ++
        (fields.filter fun field => (field.complaints pass.slots).problem.isSome).map Field.name ∧
      prepared.report.errors = pass.report.errors ++
        fields.flatMap (fun field => (field.complaints pass.slots).errors field.name) ∧
      prepared.report.warnings = pass.report.warnings ++
        fields.flatMap (fun field => (field.complaints pass.slots).notes field.name) := by
  induction fields generalizing pass with
  | nil => simp [OrderedMap.Alike.refl]
  | cons field rest ih =>
    obtain ⟨here, later⟩ := List.forall_mem_cons.mp still
    have alike : (pass.prepareField field).slots.Alike pass.slots := by
      rw [prepareField_slots]
      exact Rule.prepare_still here field.name pass.slots
    have adds : pass.Adds (pass.prepareField field) field.name
        (field.complaints pass.slots).problem (field.complaints pass.slots).warnings :=
      pass.adds_prepareField field
    have unmoved (other : Field) : other.complaints (pass.prepareField field).slots =
        other.complaints pass.slots := other.complaints_congr (alike other.name)
    obtain ⟨slots, failed, errors, warnings⟩ := ih later (pass.prepareField field)
    simp only [unmoved] at failed errors warnings
    refine ⟨slots.trans alike, ?_, ?_, ?_⟩
    · rw [List.foldl_cons, failed, adds.failed, List.append_assoc, List.filter_cons]
      split <;> rfl
    · rw [List.foldl_cons, errors, adds.errors, List.append_assoc]
      rfl
    · rw [List.foldl_cons, warnings, adds.warnings, List.append_assoc]
      rfl

namespace Config

/-- No field has a successor that its value could move to. -/
def Still (config : Config) : Prop := ∀ field ∈ config.schema.fields, field.rule.successor? = none

theorem Still.of_schema {first second : Config} (still : first.Still)
    (same : first.schema = second.schema) : second.Still := by
  intro field member
  exact still field (same ▸ member)

structure Matches (first second : Config) (environment : Environment) : Prop where
  schema : first.schema = second.schema
  base : first.baseDir environment = second.baseDir environment
  extras : first.extras = second.extras
  unrecognised : first.unrecognised = second.unrecognised
  complaints : ∀ field ∈ first.schema.fields,
    field.complaints first.slots = field.complaints second.slots
  verdicts : ∀ field ∈ first.schema.fields,
    field.verdict environment (first.baseDir environment) (first.get? field.name) =
      field.verdict environment (first.baseDir environment) (second.get? field.name)
  others : ∀ key, key ∉ first.schema.names → first.get? key = second.get? key

section Still

variable {config : Config} (still : config.Still) (environment : Environment)

include still

theorem prepared_still : (config.prepared environment).slots.Alike config.slots :=
  (Pass.prepareFields_still still (config.opened environment)).1

theorem verdict_still (field : Field) :
    config.verdict environment field =
      field.verdict environment (config.baseDir environment) (config.get? field.name) := by
  rw [verdict, prepared_still still environment field.name]
  rfl

theorem prepared_report :
    (config.prepared environment).failed =
        (config.schema.fields.filter
          fun field => (field.complaints config.slots).problem.isSome).map Field.name ∧
      (config.prepared environment).report.errors =
        config.schema.fields.flatMap
          (fun field => (field.complaints config.slots).errors field.name) ∧
      (config.prepared environment).report.warnings =
        config.schema.fields.flatMap
          (fun field => (field.complaints config.slots).notes field.name) :=
  (Pass.prepareFields_still still (config.opened environment)).2

end Still

/-- Every phase has the same to say of the two configurations, whatever it leaves in the slots. -/
structure Concurs (first second : Config) (environment : Environment) : Prop where
  schema : first.schema = second.schema
  unrecognised : first.unrecognised = second.unrecognised
  complaints : ∀ field ∈ first.schema.fields,
    field.complaints first.slots = field.complaints second.slots
  problems : ∀ field ∈ first.schema.fields,
    (first.verdict environment field).problem = (second.verdict environment field).problem
  warnings : ∀ field ∈ first.schema.fields,
    (first.verdict environment field).warnings = (second.verdict environment field).warnings
  crossChecks : ∀ field ∈ first.schema.fields,
    field.rule.crossCheck environment (first.baseDir environment) field.name
        (first.coerced environment).slots =
      field.rule.crossCheck environment (second.baseDir environment) field.name
        (second.coerced environment).slots

namespace Concurs

variable {first second : Config} {environment : Environment}
  (concurring : first.Concurs second environment) (still : first.Still)

include concurring

include still

theorem prepared_eq :
    (first.prepared environment).failed = (second.prepared environment).failed ∧
      (first.prepared environment).report.errors = (second.prepared environment).report.errors ∧
      (first.prepared environment).report.warnings =
        (second.prepared environment).report.warnings := by
  obtain ⟨failed, errors, warnings⟩ := prepared_report still environment
  obtain ⟨other_failed, other_errors, other_warnings⟩ :=
    prepared_report (still.of_schema concurring.schema) environment
  rw [failed, errors, warnings, other_failed, other_errors, other_warnings, ← concurring.schema]
  refine ⟨congrArg (List.map Field.name) ?_, ?_, ?_⟩
  · exact List.filter_congr fun field member => by rw [concurring.complaints field member]
  · exact List.flatMap_congr fun field member => by rw [concurring.complaints field member]
  · exact List.flatMap_congr fun field member => by rw [concurring.complaints field member]

variable (distinct : first.schema.names.Nodup)

include distinct

theorem failed_eq : (first.coerced environment).failed = (second.coerced environment).failed := by
  have other_distinct : second.schema.names.Nodup := concurring.schema ▸ distinct
  rw [coerced_failed distinct, coerced_failed other_distinct, (concurring.prepared_eq still).1,
    ← concurring.schema]
  congr 2
  exact List.filter_congr fun field member => by rw [concurring.problems field member]

theorem report_eq :
    (first.validate environment).report = (second.validate environment).report := by
  have other_distinct : second.schema.names.Nodup := concurring.schema ▸ distinct
  obtain ⟨_, errors, warnings⟩ := concurring.prepared_eq still
  apply Report.ext_iff.mpr
  constructor
  · rw [validate_errors distinct, validate_errors other_distinct, errors, ← concurring.schema]
    congr 1
    · congr 1
      refine List.flatMap_congr fun field member => ?_
      rw [Verdict.errors, Verdict.errors, concurring.problems field member]
    · refine List.flatMap_congr fun field member => crossErrors_congr ?_ ?_
      · rw [concurring.failed_eq still distinct]
      · exact concurring.crossChecks field member
  · rw [validate_warnings distinct, validate_warnings other_distinct, warnings,
      ← concurring.schema, concurring.unrecognised]
    congr 2
    refine List.flatMap_congr fun field member => ?_
    rw [Verdict.notes, Verdict.notes, concurring.warnings field member]

end Concurs

namespace Matches

variable {first second : Config} {environment : Environment}
  (matching : first.Matches second environment) (still : first.Still)

include matching

include still

theorem verdict_eq {field : Field} (member : field ∈ first.schema.fields) :
    first.verdict environment field = second.verdict environment field := by
  rw [verdict_still still, verdict_still (still.of_schema matching.schema), ← matching.base]
  exact matching.verdicts field member

variable (distinct : first.schema.names.Nodup)

include distinct

theorem slots_alike :
    (first.validate environment).config.slots.Alike (second.validate environment).config.slots := by
  intro key
  refine validate_slot_congr distinct (matching.schema ▸ distinct) ?_ fun undeclared => ⟨?_, ?_⟩
  · intro field member same
    exact ⟨field, matching.schema ▸ member, same, (matching.verdict_eq still member).symm⟩
  · rwa [← matching.schema]
  · rw [prepared_still still environment key,
      prepared_still (still.of_schema matching.schema) environment key]
    exact (matching.others key undeclared).symm

theorem concurs : first.Concurs second environment where
  schema := matching.schema
  unrecognised := matching.unrecognised
  complaints := matching.complaints
  problems _ member := congrArg Verdict.problem (matching.verdict_eq still member)
  warnings _ member := congrArg Verdict.warnings (matching.verdict_eq still member)
  crossChecks field _ := by
    have slots := matching.slots_alike still distinct
    have read := field.rule.crossCheck_congr environment (first.baseDir environment) field.name
      fun key => congrArg (Option.map Setting.toValue) (slots key)
    simp only [validate_config] at read
    rw [← matching.base, read]

/-- Configurations that match validate to the same report and read the same afterwards. -/
theorem agrees : (first.validate environment).Agrees (second.validate environment) where
  report := (matching.concurs still distinct).report_eq still distinct
  slots := matching.slots_alike still distinct
  extras := matching.extras
  unrecognised := matching.unrecognised

end Matches

end Config

end SiteSettings
