import SiteSettings.Proofs.FieldReports
import SiteSettings.Proofs.Settlement

/-! What a field holds after it failed. A value that its rule rejects stays as it is. The legacy
phase and the cross-checks also blame fields whose coercion succeeds, and that writes to their
slots nevertheless. -/

namespace SiteSettings

def Report.Blames (report : Report) (name : String) : Prop :=
  ∃ error ∈ report.errors, error.field = name

instance (report : Report) (name : String) : Decidable (report.Blames name) :=
  inferInstanceAs (Decidable (∃ error ∈ report.errors, error.field = name))

theorem Field.removed_of_complaint {field : Field} {slots : OrderedMap Setting}
    (complains : (field.complaints slots).problem ≠ none) :
    field.rule.IsRemoved ∧ slots.get? field.name ≠ none := by
  obtain ⟨problem, found⟩ := Option.ne_none_iff_exists'.mp complains
  obtain ⟨notice, rule⟩ := Rule.isRemoved_of_problem found
  refine ⟨⟨notice, rule⟩, fun absent => complains ?_⟩
  rw [complaints, preparation, rule, Rule.prepare,
    OrderedMap.contains_eq_false_iff.mpr absent]
  rfl

theorem Report.blames_iff_about {report : Report} {name : String} :
    report.Blames name ↔ Diagnostic.about name report.errors ≠ [] := by
  simp only [Blames, Diagnostic.about, ne_eq, List.filter_eq_nil_iff, decide_eq_true_eq, not_forall,
    not_not, exists_prop]

namespace Config

section Blames

variable {config : Config} {environment : Environment} {field : Field}

/-- A field is blamed for what it held at its turn, for what it was coerced from, or for what it
holds beside the other fields in the end. -/
theorem Hears.blames_iff {speech : Field → Verdict} (hears : config.Hears environment speech)
    (distinct : config.schema.names.Nodup) (member : field ∈ config.schema.fields) :
    (config.validate environment).report.Blames field.name ↔
      (speech field).problem ≠ none ∨ (config.verdict environment field).problem ≠ none ∨
        Pass.crossProblem? environment (config.baseDir environment)
          (config.coerced environment).failed (config.coerced environment).slots field ≠ none := by
  have crossed : config.crossErrors environment field = [] ↔
      Pass.crossProblem? environment (config.baseDir environment)
        (config.coerced environment).failed (config.coerced environment).slots field = none := by
    simp only [crossErrors, Option.toList_eq_nil_iff, Option.map_eq_none_iff]
  rw [Report.blames_iff_about, hears.errors_about distinct member, ne_eq, List.append_eq_nil_iff,
    List.append_eq_nil_iff, Verdict.errors_eq_nil_iff, Verdict.errors_eq_nil_iff, crossed,
    not_and_or, not_and_or, or_assoc]

/-- Where nothing moves, the slots before validation decide. -/
theorem blames_iff (distinct : config.schema.names.Nodup) (still : config.Still)
    (environment : Environment) (member : field ∈ config.schema.fields) :
    (config.validate environment).report.Blames field.name ↔
      (field.complaints config.slots).problem ≠ none ∨
        (field.verdict environment (config.baseDir environment)
          (config.get? field.name)).problem ≠ none ∨
        Pass.crossProblem? environment (config.baseDir environment)
          (config.coerced environment).failed (config.coerced environment).slots field ≠ none := by
  rw [(hears_still still environment).blames_iff distinct member, verdict_still still]

end Blames

end Config

namespace Field

/-- What replaces the value of a field that fails all the same. A removed field that was set to
null receives its default, and an output directory becomes a full path. -/
inductive Overwrites (field : Field) (environment : Environment) (base : Path)
    (slot : Option Setting) : Setting → Prop where
  | default {value : Value} (removed : field.rule.IsRemoved) (null : slot = some (.data .null))
      (default : field.default = some value) : Overwrites field environment base slot (.data value)
  | path {text : String} (output : field.rule.IsSiteDirectory)
      (source : field.source? slot = some (.data (.text text))) :
      Overwrites field environment base slot (.data (.text (environment.locate base text).text))

variable {field : Field} {environment : Environment} {base : Path} {slot : Option Setting}

theorem slot_of_problem {problem : Problem}
    (failed : (field.verdict environment base slot).problem = some problem) :
    (field.verdict environment base slot).slot = slot := by
  cases source : field.source? slot with
  | none => rw [verdict_of_no_source source]
  | some setting =>
    rw [verdict_of_source source, Verdict.ofCoercion] at failed ⊢
    cases done : (field.rule.coerce (field.context environment base) setting).result with
    | error problem => rfl
    | ok coerced =>
      rw [done] at failed
      cases failed

theorem slot_of_coerced {setting coerced : Setting} (source : field.source? slot = some setting)
    (done : (field.rule.coerce (field.context environment base) setting).result = .ok coerced) :
    (field.verdict environment base slot).slot = some coerced := by
  rw [verdict_of_source source, Verdict.ofCoercion, done]

theorem slot_of_overwrites {setting : Setting}
    (overwrites : field.Overwrites environment base slot setting) :
    (field.verdict environment base slot).slot = some setting := by
  cases overwrites with
  | @default value removed null default =>
    obtain ⟨notice, rule⟩ := removed
    have source : field.source? slot = some (.data value) := by
      rw [null, source?, default]
      rfl
    apply slot_of_coerced source
    rw [rule]
    rfl
  | path output source =>
    obtain ⟨docsKey, rule⟩ := output
    apply slot_of_coerced source
    rw [rule]
    exact Rule.coerceDirectory_eq_ok.mpr ⟨_, rfl, rfl, fun required => absurd required Bool.false_ne_true⟩

/-- A removed field takes any value as it is, and null for its default. -/
theorem slot_of_removed (removed : field.rule.IsRemoved) (present : slot ≠ none)
    (kept : ∀ setting, ¬ field.Overwrites environment base slot setting) :
    (field.verdict environment base slot).slot = slot := by
  obtain ⟨setting, rfl⟩ := Option.ne_none_iff_exists'.mp present
  cases null : setting.isNull with
  | true =>
    cases default : field.default with
    | none =>
      have source : field.source? (some setting) = none := by
        rw [source?, default]
        simp [null]
      rw [verdict_of_no_source source]
    | some value =>
      have own : some setting = some (.data .null) := congrArg some (Setting.eq_null null)
      exact absurd (.default removed own default) (kept _)
  | false =>
    have source : field.source? (some setting) = some setting := by simp [source?, null]
    apply slot_of_coerced source
    obtain ⟨notice, rule⟩ := removed
    rw [rule]
    rfl

theorem slot_of_output (output : field.rule.IsSiteDirectory)
    (kept : ∀ setting, ¬ field.Overwrites environment base slot setting) :
    (field.verdict environment base slot).slot = slot := by
  cases source : field.source? slot with
  | none => rw [verdict_of_no_source source]
  | some setting =>
    rw [verdict_of_source source, Verdict.ofCoercion]
    cases done : (field.rule.coerce (field.context environment base) setting).result with
    | error problem => rfl
    | ok coerced =>
      obtain ⟨docsKey, rule⟩ := id output
      rw [rule] at done
      obtain ⟨text, rfl, _⟩ := Rule.coerceDirectory_eq_ok.mp done
      exact absurd (.path output source) (kept _)

end Field

namespace Config

/-- What a field holds after a validation that blamed it: what it held before, unless it is a
removed field that takes its default for null or an output directory that becomes a full path. -/
theorem blamed_slot_kept_iff {config : Config} (distinct : config.schema.names.Nodup)
    (still : config.Still) {field : Field} (member : field ∈ config.schema.fields)
    {environment : Environment}
    (blamed : (config.validate environment).report.Blames field.name) :
    let base := config.baseDir environment
    let before := config.get? field.name
    let after := (config.validate environment).config.get? field.name
    (∀ setting, field.Overwrites environment base before setting → after = some setting) ∧
      (after = before ↔
        ∀ setting, field.Overwrites environment base before setting → before = some setting) := by
  intro base before after
  have settled : after = (field.verdict environment base before).slot := by
    rw [← verdict_still still environment field]
    exact validate_slot distinct member
  have replaced (setting : Setting) (overwrites : field.Overwrites environment base before setting) :
      after = some setting := settled.trans (Field.slot_of_overwrites overwrites)
  have kept (untouched : ∀ setting, ¬ field.Overwrites environment base before setting) :
      after = before := by
    rw [settled]
    -- Only in the second case does coercion itself fail and leave the slot alone.
    rcases (blames_iff distinct still environment member).mp blamed with
      complains | rejected | clashes
    · obtain ⟨removed, present⟩ := Field.removed_of_complaint complains
      exact Field.slot_of_removed removed present untouched
    · obtain ⟨problem, failed⟩ := Option.ne_none_iff_exists'.mp rejected
      exact Field.slot_of_problem failed
    · exact Field.slot_of_output (Pass.isSiteDirectory_of_crossProblem clashes) untouched
  refine ⟨replaced, ?_, ?_⟩
  · intro same setting overwrites
    exact same.symm.trans (replaced setting overwrites)
  · intro same
    by_cases touched : ∃ setting, field.Overwrites environment base before setting
    · obtain ⟨setting, overwrites⟩ := touched
      exact (replaced setting overwrites).trans (same setting overwrites).symm
    · exact kept (not_exists.mp touched)

end Config

/-- An output directory beside an input directory, and a key that is gone but has a default. -/
def Schema.publishing : Schema where
  fields := [
    ⟨"docs", .directory false, none, false⟩,
    ⟨"site", .siteDirectory "docs", none, false⟩,
    ⟨"gone", .removed ⟨none, none⟩, some (.text "a"), false⟩]
  passthrough := false

theorem Schema.publishing_distinct : publishing.names.Nodup := by decide

theorem Schema.publishing_still : ∀ field ∈ publishing.fields, field.rule.successor? = none := by
  simp [publishing, Rule.successor?]

def Config.overlapping : Config :=
  (fresh .publishing none).run [
    .load (.ofMembers [("docs", .text "pages"), ("site", .text "pages"), ("gone", .null)])]

theorem Config.overlapping_gone :
    let gone : Field := ⟨"gone", .removed ⟨none, none⟩, some (.text "a"), false⟩
    overlapping.schema.names.Nodup ∧ overlapping.Still ∧ gone ∈ overlapping.schema.fields ∧
      (overlapping.validate .bare).report.Blames "gone" ∧
      (overlapping.validate .bare).config.get? "gone" = some (.data (.text "a")) ∧
      (overlapping.validate .bare).config.get? "gone" ≠ overlapping.get? "gone" := by
  intro gone
  have schema : overlapping.schema = .publishing := run_schema _ _
  have distinct : overlapping.schema.names.Nodup := schema ▸ Schema.publishing_distinct
  have still : overlapping.Still := by
    rw [Still, schema]
    exact Schema.publishing_still
  have member : gone ∈ overlapping.schema.fields := by
    rw [schema]
    simp [Schema.publishing, gone]
  have blamed : (overlapping.validate .bare).report.Blames gone.name := by decide +kernel
  have overwrites : gone.Overwrites .bare (overlapping.baseDir .bare) (overlapping.get? "gone")
      (.data (.text "a")) := .default ⟨_, rfl⟩ rfl rfl
  obtain ⟨replaced, kept⟩ := blamed_slot_kept_iff distinct still member blamed
  refine ⟨distinct, still, member, blamed, replaced _ overwrites, fun same => ?_⟩
  cases kept.mp same _ overwrites

/-- The report blames the output directory, whose slot holds a full path all the same. -/
theorem Config.overlapping_rewritten :
    overlapping.Reachable .publishing ∧ Schema.publishing.names.Nodup ∧
      (∀ field ∈ Schema.publishing.fields, field.rule.successor? = none) ∧
      (overlapping.validate .bare).report.Blames "site" ∧
      overlapping.text? "site" = some "pages" ∧
      (overlapping.validate .bare).config.text? "site" = some "/work/pages" :=
  ⟨⟨none, _, rfl⟩, Schema.publishing_distinct, Schema.publishing_still, by decide +kernel, rfl,
    by decide +kernel⟩

end SiteSettings
