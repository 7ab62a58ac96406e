import Mathlib.Data.List.Nodup
import SiteSettings.Config.Validation
import SiteSettings.Proofs.OrderedMaps

/-! Coercion field by field. A field reads and writes its own slot only, so what
coercing all of them does to a slot, and what it reports, is the verdict on each
field by itself. -/

namespace SiteSettings

def Unset (slot : Option Setting) : Prop := ∀ setting ∈ slot, setting.isNull = true

theorem unset_none : Unset none := by simp [Unset]

theorem exists_of_not_unset {slot : Option Setting} (filled : ¬ Unset slot) :
    ∃ setting, slot = some setting ∧ setting.isNull = false := by
  cases slot with
  | none => exact absurd unset_none filled
  | some setting =>
    refine ⟨setting, rfl, ?_⟩
    rw [← Bool.not_eq_true]
    exact fun null => filled fun other held => Option.some.inj held ▸ null

theorem filter_eq_none_of_unset {slot : Option Setting} (unset : Unset slot) :
    (slot.filter fun setting => !setting.isNull) = none := by
  cases slot with
  | none => rfl
  | some setting => simp [unset setting rfl]

theorem unset_of_filter_eq_none {slot : Option Setting}
    (empty : (slot.filter fun setting => !setting.isNull) = none) : Unset slot := by
  intro setting same
  rcases same with rfl
  simpa using empty

/-- What coercing one field leaves in its slot, and what there is to say about it. -/
structure Verdict where
  slot : Option Setting
  problem : Option Problem
  warnings : List String

namespace Verdict

def ofCoercion (slot : Option Setting) (coercion : Coercion Setting) : Verdict :=
  match coercion.result with
  | .ok coerced => ⟨some coerced, none, coercion.warnings⟩
  | .error problem => ⟨slot, some problem, coercion.warnings⟩

def errors (verdict : Verdict) (name : String) : List Diagnostic :=
  (verdict.problem.map (Problem.toDiagnostic name)).toList

def notes (verdict : Verdict) (name : String) : List Diagnostic :=
  verdict.warnings.map fun message => ⟨name, message, none⟩

theorem errors_eq_nil_iff (verdict : Verdict) (name : String) :
    verdict.errors name = [] ↔ verdict.problem = none := by
  simp only [errors, Option.toList_eq_nil_iff, Option.map_eq_none_iff]

end Verdict

namespace Pass

theorem record_get? (pass : Pass) (name : String) (coercion : Coercion Setting) (key : String) :
    (pass.record name coercion).slots.get? key =
      if key = name then (Verdict.ofCoercion (pass.slots.get? key) coercion).slot
      else pass.slots.get? key := by
  obtain ⟨result, warnings, trace⟩ := coercion
  cases result with
  | ok coerced => exact OrderedMap.get?_insert ..
  | error problem => exact (ite_self _).symm

/-- One field has had its turn: it may have failed with a problem, and been warned about. -/
structure Adds (before after : Pass) (name : String) (problem : Option Problem)
    (warnings : List String) : Prop where
  failed : after.failed = before.failed ++ if problem.isSome then [name] else []
  errors : after.report.errors =
    before.report.errors ++ (problem.map (Problem.toDiagnostic name)).toList
  warnings : after.report.warnings =
    before.report.warnings ++ warnings.map fun message => ⟨name, message, none⟩

theorem adds_record (pass : Pass) (name : String) (slot : Option Setting)
    (coercion : Coercion Setting) :
    Adds pass (pass.record name coercion) name (Verdict.ofCoercion slot coercion).problem
      (Verdict.ofCoercion slot coercion).warnings := by
  obtain ⟨result, warnings, trace⟩ := coercion
  cases result <;> constructor <;> simp [record, fail, blame, warn, Verdict.ofCoercion,
    Report.addError, Report.addWarnings, Problem.toDiagnostic]

theorem adds_fail (pass : Pass) (name : String) (problem : Problem) :
    Adds pass (pass.fail name problem) name (some problem) [] := by
  constructor <;> simp [fail, blame, Report.addError, Problem.toDiagnostic]

theorem adds_nothing (pass : Pass) (name : String) : Adds pass pass name none [] := by
  constructor <;> simp

def Clean (pass : Pass) : Prop := pass.report.errors = []

theorem Adds.clean_iff {before after : Pass} {name : String} {problem : Option Problem}
    {warnings : List String} (adds : Adds before after name problem warnings) :
    after.Clean ↔ before.Clean ∧ problem = none := by
  simp only [Clean, adds.errors, List.append_eq_nil_iff, Option.toList_eq_nil_iff,
    Option.map_eq_none_iff]

end Pass

/-- Distinct names tell fields apart. -/
theorem Field.eq_of_name {fields : List Field} (distinct : (fields.map Field.name).Nodup)
    {first second : Field} (left : first ∈ fields) (right : second ∈ fields)
    (same : first.name = second.name) : first = second :=
  List.inj_on_of_nodup_map distinct left right same

namespace Field

def source? (field : Field) (slot : Option Setting) : Option Setting :=
  (slot.filter fun setting => !setting.isNull).or (field.default.map .data)

def context (field : Field) (environment : Environment) (base : Path) : Context :=
  ⟨environment, base, field.name, field.default⟩

def verdict (field : Field) (environment : Environment) (base : Path) (slot : Option Setting) :
    Verdict :=
  match field.source? slot with
  | none => ⟨slot, if field.required then some .required else none, []⟩
  | some setting =>
    .ofCoercion slot (field.rule.coerce (field.context environment base) setting)

variable {environment : Environment} {base : Path}

theorem verdict_of_source {field : Field} {slot : Option Setting} {setting : Setting}
    (source : field.source? slot = some setting) :
    field.verdict environment base slot =
      .ofCoercion slot (field.rule.coerce (field.context environment base) setting) := by
  simp only [verdict, source]

theorem verdict_of_no_source {field : Field} {slot : Option Setting}
    (source : field.source? slot = none) :
    field.verdict environment base slot =
      ⟨slot, if field.required then some .required else none, []⟩ := by
  simp only [verdict, source]

theorem coerced_of_source {field : Field} {slot : Option Setting} {setting : Setting}
    (source : field.source? slot = some setting)
    (settled : (field.verdict environment base slot).problem = none) :
    ∃ coerced, (field.rule.coerce (field.context environment base) setting).result = .ok coerced ∧
      (field.verdict environment base slot).slot = some coerced := by
  rw [verdict_of_source source, Verdict.ofCoercion] at settled ⊢
  cases done : (field.rule.coerce (field.context environment base) setting).result with
  | ok coerced => exact ⟨coerced, rfl, rfl⟩
  | error problem =>
    rw [done] at settled
    cases settled

theorem coerce_of_source {field : Field} {pass : Pass} {setting : Setting}
    (source : field.source? (pass.slots.get? field.name) = some setting) :
    field.coerce environment base pass =
      pass.record field.name (field.rule.coerce (field.context environment base) setting) := by
  obtain ⟨name, rule, default, required⟩ := field
  simp only [source?] at source
  simp only [Field.coerce, Pass.effective?, source, context]

theorem coerce_of_no_source {field : Field} {pass : Pass}
    (source : field.source? (pass.slots.get? field.name) = none) :
    field.coerce environment base pass =
      if field.required then pass.fail field.name .required else pass := by
  obtain ⟨name, rule, default, required⟩ := field
  simp only [source?] at source
  simp only [Field.coerce, Pass.effective?, source]

theorem coerce_get? (field : Field) (pass : Pass) (key : String) :
    (field.coerce environment base pass).slots.get? key =
      if key = field.name then (field.verdict environment base (pass.slots.get? key)).slot
      else pass.slots.get? key := by
  cases source : field.source? (pass.slots.get? field.name) with
  | none =>
    have same : (field.coerce environment base pass).slots = pass.slots := by
      rw [coerce_of_no_source source]
      split <;> rfl
    rw [same]
    by_cases own : key = field.name
    · rw [if_pos own, own, verdict_of_no_source source]
    · rw [if_neg own]
  | some setting =>
    rw [coerce_of_source source, Pass.record_get?]
    by_cases own : key = field.name
    · rw [if_pos own, if_pos own, own, verdict_of_source source]
    · rw [if_neg own, if_neg own]

theorem adds_coerce (field : Field) (pass : Pass) {verdict : Verdict}
    (decided : field.verdict environment base (pass.slots.get? field.name) = verdict) :
    pass.Adds (field.coerce environment base pass) field.name verdict.problem verdict.warnings := by
  subst decided
  cases source : field.source? (pass.slots.get? field.name) with
  | none =>
    rw [coerce_of_no_source source, verdict_of_no_source source]
    cases field.required with
    | true => exact Pass.adds_fail ..
    | false => exact Pass.adds_nothing ..
  | some setting =>
    rw [coerce_of_source source, verdict_of_source source]
    exact Pass.adds_record ..

theorem coerceAll_get?_of_not_mem {fields : List Field} {key : String}
    (other : key ∉ fields.map Field.name) (pass : Pass) :
    (coerceAll fields environment base pass).slots.get? key = pass.slots.get? key := by
  induction fields generalizing pass with
  | nil => rfl
  | cons field rest ih =>
    simp only [List.map_cons, List.mem_cons, not_or] at other
    rw [coerceAll, ih other.2, coerce_get?, if_neg other.1]

/-- The slot of a field is its verdict on what the slot held before all coercion. -/
theorem coerceAll_get? {fields : List Field} (distinct : (fields.map Field.name).Nodup)
    {field : Field} (member : field ∈ fields) (pass : Pass) :
    (coerceAll fields environment base pass).slots.get? field.name =
      (field.verdict environment base (pass.slots.get? field.name)).slot := by
  induction fields generalizing pass with
  | nil => cases member
  | cons first rest ih =>
    obtain ⟨fresh, distinct⟩ := List.nodup_cons.mp distinct
    rw [coerceAll]
    rcases List.mem_cons.mp member with rfl | later
    · rw [coerceAll_get?_of_not_mem fresh, coerce_get?, if_pos rfl]
    · have apart : field.name ≠ first.name := by
        intro same
        exact fresh (same ▸ List.mem_map_of_mem later)
      rw [ih distinct later, coerce_get?, if_neg apart]

theorem coerceAll_report {fields : List Field} (distinct : (fields.map Field.name).Nodup)
    (pass : Pass) {verdict : Field → Verdict}
    (decided : ∀ field ∈ fields,
      field.verdict environment base (pass.slots.get? field.name) = verdict field) :
    (coerceAll fields environment base pass).failed = pass.failed ++
        (fields.filter fun field => (verdict field).problem.isSome).map Field.name ∧
      (coerceAll fields environment base pass).report.errors = pass.report.errors ++
        fields.flatMap (fun field => (verdict field).errors field.name) ∧
      (coerceAll fields environment base pass).report.warnings = pass.report.warnings ++
        fields.flatMap (fun field => (verdict field).notes field.name) := by
  induction fields generalizing pass with
  | nil => simp [coerceAll]
  | cons first rest ih =>
    obtain ⟨fresh, distinct⟩ := List.nodup_cons.mp distinct
    obtain ⟨here, later⟩ := List.forall_mem_cons.mp decided
    have first_adds := adds_coerce first pass here
    have untouched : ∀ field ∈ rest,
        field.verdict environment base
          ((first.coerce environment base pass).slots.get? field.name) = verdict field := by
      intro field member
      have apart : field.name ≠ first.name :=
        fun same => fresh (same ▸ List.mem_map_of_mem member)
      rw [coerce_get?, if_neg apart, later field member]
    obtain ⟨rest_failed, rest_errors, rest_warnings⟩ :=
      ih distinct (first.coerce environment base pass) untouched
    simp only [coerceAll, List.flatMap_cons, List.filter_cons]
    refine ⟨?_, ?_, ?_⟩
    · rw [rest_failed, first_adds.failed, List.append_assoc]
      split <;> rfl
    · rw [rest_errors, first_adds.errors, List.append_assoc]
      rfl
    · rw [rest_warnings, first_adds.warnings, List.append_assoc]
      rfl

end Field

end SiteSettings
