import SiteSettings.Proofs.Deprecation
import SiteSettings.Proofs.Retention

/-! Every error accounted for. A field is blamed for one of four reasons, each found in a phase of
its own, and no field is blamed twice as long as none that was removed has to be set. -/

namespace SiteSettings

/-- In the legacy phase each field speaks of the slots as it meets them. -/
theorem Pass.prepareFields_report {fields : List Field} (distinct : (fields.map Field.name).Nodup)
    (pass : Pass) {met : Field → OrderedMap Setting}
    (meets : ∀ field ∈ fields, ((fields.takeWhile fun other => other.name ≠ field.name).foldl
      prepareField pass).slots = met field) :
    (fields.foldl prepareField pass).failed = pass.failed ++
        (fields.filter fun field => (field.complaints (met field)).problem.isSome).map Field.name ∧
      (fields.foldl prepareField pass).report.errors = pass.report.errors ++
        fields.flatMap (fun field => (field.complaints (met field)).errors field.name) ∧
      (fields.foldl prepareField pass).report.warnings = pass.report.warnings ++
        fields.flatMap (fun field => (field.complaints (met field)).notes field.name) := by
  induction fields generalizing pass with
  | nil => simp
  | cons first rest ih =>
    obtain ⟨fresh, distinct⟩ := List.nodup_cons.mp distinct
    obtain ⟨here, later⟩ := List.forall_mem_cons.mp meets
    have own : pass.slots = met first := by
      simpa using here
    have others : ∀ field ∈ rest, ((rest.takeWhile fun other => other.name ≠ field.name).foldl
        prepareField (pass.prepareField first)).slots = met field := by
      intro field member
      have apart : first.name ≠ field.name := fun same => fresh (same ▸ List.mem_map_of_mem member)
      have after := later field member
      rwa [List.takeWhile_cons_of_pos (by simpa using apart)] at after
    have adds : pass.Adds (pass.prepareField first) first.name
        (first.complaints (met first)).problem (first.complaints (met first)).warnings :=
      own ▸ pass.adds_prepareField first
    obtain ⟨failed, errors, warnings⟩ := ih distinct (pass.prepareField first) others
    refine ⟨?_, ?_, ?_⟩
    · rw [List.foldl_cons, failed, adds.failed, List.append_assoc, List.filter_cons]
      split <;> rfl
    · rw [List.foldl_cons, errors, adds.errors, List.append_assoc]
      rfl
    · rw [List.foldl_cons, warnings, adds.warnings, List.append_assoc]
      rfl

/-- No two entries share a field as long as there is at most one about each key. -/
theorem Diagnostic.nodup_fields {diagnostics : List Diagnostic}
    (once : ∀ key, (about key diagnostics).length ≤ 1) : (diagnostics.map field).Nodup := by
  rw [List.nodup_iff_count_le_one]
  intro key
  rw [List.count, List.countP_map, List.countP_eq_length_filter]
  exact once key

namespace Config

theorem hears_turns {config : Config} (distinct : config.schema.names.Nodup)
    (environment : Environment) :
    config.Hears environment fun field =>
      field.complaints (config.slotsAtTurn environment field.name) := by
  obtain ⟨failed, errors, warnings⟩ :=
    Pass.prepareFields_report distinct (config.opened environment) fun _ _ => rfl
  exact ⟨failed, errors, warnings⟩

variable (config : Config) (environment : Environment) (field : Field)

/-- The field is gone, and there is something in its slot at its turn in the legacy phase. -/
def Lingers : Prop :=
  field.rule.IsRemoved ∧ (config.slotsAtTurn environment field.name).get? field.name ≠ none

def Misses : Prop :=
  field.required = true ∧ field.default = none ∧
    Unset ((config.prepared environment).slots.get? field.name)

def Rejects : Prop :=
  ∃ setting problem,
    (config.prepared environment).effective? field.name field.default = some setting ∧
      (field.rule.coerce (field.context environment (config.baseDir environment)) setting).result =
        .error problem

/-- The cross-check finds fault with what the slots hold in the end. -/
def Clashes : Prop :=
  ∃ problem, field.rule.crossCheck environment (config.baseDir environment) field.name
    (config.validate environment).config.slots = some problem

variable {config} {environment} {field}

theorem verdict_problem_iff :
    (config.verdict environment field).problem ≠ none ↔
      config.Misses environment field ∨ config.Rejects environment field := by
  have effective : (config.prepared environment).effective? field.name field.default =
      field.source? ((config.prepared environment).slots.get? field.name) := rfl
  rw [Misses, Rejects, effective, verdict]
  cases source : field.source? ((config.prepared environment).slots.get? field.name) with
  | none =>
    obtain ⟨unset, default⟩ := Field.unset_of_no_source source
    rw [Field.verdict_of_no_source source]
    simp [default, unset]
  | some setting =>
    have supplied : ¬ (field.required = true ∧ field.default = none ∧
        Unset ((config.prepared environment).slots.get? field.name)) := by
      rintro ⟨-, default, unset⟩
      rw [Field.source?, default, filter_eq_none_of_unset unset] at source
      cases source
    rw [Field.verdict_of_source source, Verdict.ofCoercion]
    cases done : (field.rule.coerce (field.context environment (config.baseDir environment))
      setting).result with
    | ok coerced => simp [supplied, done]
    | error problem => simp [done]

theorem lingers_iff :
    (field.complaints (config.slotsAtTurn environment field.name)).problem ≠ none ↔
      config.Lingers environment field := by
  constructor
  · exact Field.removed_of_complaint
  · rintro ⟨⟨notice, rule⟩, present⟩
    have held : (config.slotsAtTurn environment field.name).contains field.name = true := by
      rwa [← Bool.not_eq_false, OrderedMap.contains_eq_false_iff]
    rw [Field.complaints, Field.preparation, rule, Rule.prepare, if_pos held]
    exact Option.some_ne_none _

/-- A removed field takes whatever it is given, so it can only fail for being missing. -/
theorem verdict_of_removed (removed : field.rule.IsRemoved) (optional : field.required = false) :
    (config.verdict environment field).problem = none := by
  by_contra failed
  obtain ⟨notice, rule⟩ := removed
  obtain ⟨required, -⟩ | ⟨setting, problem, -, rejected⟩ := verdict_problem_iff.mp failed
  · rw [optional] at required
    cases required
  · rw [rule] at rejected
    cases rejected

theorem crossErrors_of_failed (failed : field.name ∈ (config.coerced environment).failed) :
    config.crossErrors environment field = [] := by
  simp [crossErrors, Pass.crossProblem?, failed]

section Field

variable (distinct : config.schema.names.Nodup) (member : field ∈ config.schema.fields)

include distinct member

theorem failed_iff :
    field.name ∈ (config.coerced environment).failed ↔
      config.Lingers environment field ∨ config.Misses environment field ∨
        config.Rejects environment field := by
  rw [(hears_turns distinct environment).mem_failed_iff distinct member,
    Option.isSome_iff_ne_none, Option.isSome_iff_ne_none, lingers_iff, verdict_problem_iff]

/-- A clash is only reported of a field that no earlier phase found fault with. -/
theorem crossProblem_iff :
    Pass.crossProblem? environment (config.baseDir environment) (config.coerced environment).failed
        (config.coerced environment).slots field ≠ none ↔
      ¬ config.Lingers environment field ∧ ¬ config.Misses environment field ∧
        ¬ config.Rejects environment field ∧ config.Clashes environment field := by
  have settled : (config.coerced environment).slots =
      (config.validate environment).config.slots := by
    rw [validate_config]
  rw [← and_assoc, ← and_assoc, ← not_or, ← not_or, or_assoc, ← failed_iff distinct member,
    Clashes, ← settled, Pass.crossProblem?]
  by_cases failed : field.name ∈ (config.coerced environment).failed
  · simp [failed]
  · simp [failed, Option.ne_none_iff_exists']

/-- What fails in one phase passes all later ones. -/
theorem errors_about_le_one (optional : field.rule.IsRemoved → field.required = false) :
    (Diagnostic.about field.name (config.validate environment).report.errors).length ≤ 1 := by
  rw [(hears_turns distinct environment).errors_about distinct member]
  have failed : config.Lingers environment field ∨ config.Misses environment field ∨
      config.Rejects environment field → field.name ∈ (config.coerced environment).failed :=
    (failed_iff distinct member).mpr
  cases complaint : (field.complaints (config.slotsAtTurn environment field.name)).problem with
  | some problem =>
    have lingers : config.Lingers environment field :=
      lingers_iff.mp (complaint ▸ Option.some_ne_none problem)
    have accepted : (config.verdict environment field).problem = none :=
      verdict_of_removed lingers.1 (optional lingers.1)
    rw [(Verdict.errors_eq_nil_iff ..).mpr accepted, crossErrors_of_failed (failed (.inl lingers))]
    simp [Verdict.errors, complaint]
  | none =>
    rw [(Verdict.errors_eq_nil_iff ..).mpr complaint]
    cases rejection : (config.verdict environment field).problem with
    | some problem =>
      have rejected := verdict_problem_iff.mp (rejection ▸ Option.some_ne_none problem)
      rw [crossErrors_of_failed (failed (.inr rejected))]
      simp [Verdict.errors, rejection]
    | none =>
      rw [(Verdict.errors_eq_nil_iff ..).mpr rejection]
      exact Option.length_toList_le

end Field

/-- A field has an error for lingering although it is gone, for missing although it is required,
for being given what its rule rejects, or else for clashing in the end. Each has one error at most,
and nothing else has any. -/
theorem validate_errors_accounted (distinct : config.schema.names.Nodup)
    (optional : ∀ field ∈ config.schema.fields, field.rule.IsRemoved → field.required = false)
    (environment : Environment) :
    let report := (config.validate environment).report
    (∀ error ∈ report.errors, config.schema.declares error.field = true) ∧
      (report.errors.map Diagnostic.field).Nodup ∧
      ∀ field ∈ config.schema.fields,
        (report.Blames field.name ↔
          config.Lingers environment field ∨ config.Misses environment field ∨
            config.Rejects environment field ∨
              ¬ config.Lingers environment field ∧ ¬ config.Misses environment field ∧
                ¬ config.Rejects environment field ∧ config.Clashes environment field) := by
  intro report
  refine ⟨?_, ?_, ?_⟩
  · obtain ⟨_, _, declared⟩ := config.validate_unrecognised environment
    exact fun error member => declared error (List.mem_append_left _ member)
  · apply Diagnostic.nodup_fields
    intro key
    by_cases declared : key ∈ config.schema.names
    · obtain ⟨field, member, rfl⟩ := List.mem_map.mp declared
      exact errors_about_le_one distinct member (optional field member)
    · -- no phase has anything to say of a key that no field has
      rw [(about_undeclared declared environment).1]
      exact Nat.zero_le 1
  · intro field member
    rw [(hears_turns distinct environment).blames_iff distinct member, lingers_iff,
      verdict_problem_iff, crossProblem_iff distinct member, or_assoc]

end Config

def Schema.erring : Schema where
  fields := [
    ⟨"pages", .removed ⟨none, none⟩, none, false⟩,
    ⟨"title", .type .text none, none, true⟩,
    ⟨"strict", .type .boolean none, some (.boolean false), false⟩,
    ⟨"docs", .directory false, none, false⟩,
    ⟨"site", .siteDirectory "docs", none, false⟩]
  passthrough := false

def Config.erring : Config :=
  (fresh .erring none).run [
    .load (.ofMembers [("pages", .null), ("strict", .text "x"), ("docs", .text "a"),
      ("site", .text "a/b"), ("other", .null)])]

/-- Each reason once, and the directory that the site would be built from is not blamed. -/
theorem Config.erring_accounted :
    let report := (erring.validate .bare).report
    erring.schema.names.Nodup ∧
      (∀ field ∈ erring.schema.fields, field.rule.IsRemoved → field.required = false) ∧
      report.Blames "pages" ∧ report.Blames "title" ∧ report.Blames "strict" ∧
      erring.Clashes .bare ⟨"site", .siteDirectory "docs", none, false⟩ ∧
      (report.errors.map Diagnostic.field).Nodup ∧
      report.errors.map Diagnostic.field = ["pages", "title", "strict", "site"] := by
  intro report
  have schema : erring.schema = .erring := run_schema _ _
  have distinct : erring.schema.names.Nodup := schema ▸ by decide
  have optional : ∀ field ∈ erring.schema.fields,
      field.rule.IsRemoved → field.required = false := by
    rw [schema]
    simp [Schema.erring, Rule.IsRemoved]
  obtain ⟨_, once, blamed⟩ := validate_errors_accounted distinct optional .bare
  have reason {field : Field} (member : field ∈ Schema.erring.fields) :=
    blamed field (schema ▸ member)
  have lingers := (reason (.head _)).mpr (.inl ⟨⟨_, rfl⟩, by decide +kernel⟩)
  have vacant : (erring.prepared .bare).slots.get? "title" = none := by decide +kernel
  have misses := (reason (.tail _ (.head _))).mpr
    (.inr (.inl ⟨rfl, rfl, vacant ▸ unset_none⟩))
  have rejects := (reason (.tail _ (.tail _ (.head _)))).mpr
    (.inr (.inr (.inl ⟨.data (.text "x"), _, rfl, rfl⟩)))
  refine ⟨distinct, optional, lingers, misses, rejects, ?_, once, by decide +kernel⟩
  have clashing : report.Blames "site" := by decide +kernel
  obtain ⟨removed, -⟩ | ⟨required, -⟩ | ⟨setting, problem, effective, rejected⟩ |
      ⟨-, -, -, clashes⟩ := (reason (.tail _ (.tail _ (.tail _ (.tail _ (.head _)))))).mp clashing
  · obtain ⟨notice, rule⟩ := removed
    cases rule
  · cases required
  · cases effective
    cases rejected
  · exact clashes

end SiteSettings
