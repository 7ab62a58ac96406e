import SiteSettings.Proofs.Retention

/-! Fields are independent of each other. Where nothing moves, what validation does to a field and
says of it is decided by its own slot and, for an output directory, by that of its input directory.
So neither the order of the fields nor the value of another one makes a difference to it. -/

namespace SiteSettings

namespace Config

/-- Configurations of the same fields, in whatever order, whose paths start at the same place. -/
structure Akin (first second : Config) (environment : Environment) : Prop where
  fields : first.schema.fields.Perm second.schema.fields
  distinct : first.schema.names.Nodup
  still : first.Still
  base : first.baseDir environment = second.baseDir environment

namespace Akin

variable {first second : Config} {environment : Environment} (akin : first.Akin second environment)

include akin

theorem distinct_second : second.schema.names.Nodup :=
  (akin.fields.map Field.name).nodup_iff.mp akin.distinct

theorem still_second : second.Still := fun field member =>
  akin.still field (akin.fields.mem_iff.mpr member)

theorem mem_names_iff {key : String} : key ∈ first.schema.names ↔ key ∈ second.schema.names :=
  (akin.fields.map Field.name).mem_iff

theorem verdict_eq {field : Field} (same : first.get? field.name = second.get? field.name) :
    first.verdict environment field = second.verdict environment field := by
  rw [verdict_still akin.still, verdict_still akin.still_second, akin.base, same]

/-- A slot comes out of validation by itself. -/
theorem validated_slot {key : String} (same : first.get? key = second.get? key) :
    (first.validate environment).config.get? key =
      (second.validate environment).config.get? key := by
  refine validate_slot_congr akin.distinct akin.distinct_second ?_ fun undeclared => ⟨?_, ?_⟩
  · rintro field member rfl
    exact ⟨field, akin.fields.mem_iff.mp member, rfl, (akin.verdict_eq same).symm⟩
  · rwa [← akin.mem_names_iff]
  · rw [prepared_still akin.still environment key, prepared_still akin.still_second environment key]
    exact same.symm

section Field

variable {field : Field} (member : field ∈ first.schema.fields)
  (same : first.get? field.name = second.get? field.name)

include member same

theorem mem_failed_iff :
    field.name ∈ (first.coerced environment).failed ↔
      field.name ∈ (second.coerced environment).failed := by
  rw [(hears_still akin.still environment).mem_failed_iff akin.distinct member,
    (hears_still akin.still_second environment).mem_failed_iff akin.distinct_second
      (akin.fields.mem_iff.mp member),
    field.complaints_congr same, akin.verdict_eq same]

theorem errors_about
    (docs : ∀ docsKey, field.rule = .siteDirectory docsKey →
      first.get? docsKey = second.get? docsKey) :
    Diagnostic.about field.name (first.validate environment).report.errors =
      Diagnostic.about field.name (second.validate environment).report.errors := by
  -- cross-checks come last: the slots that they compare are those that validation ends with
  have read (key : String) (same : first.get? key = second.get? key) :
      Rule.textAt? (first.coerced environment).slots key =
        Rule.textAt? (second.coerced environment).slots key := by
    rw [Rule.textAt?, Rule.textAt?, ← validate_get?, ← validate_get?, akin.validated_slot same]
  have crossed : first.crossErrors environment field = second.crossErrors environment field := by
    have checked := field.rule.crossCheck_reads environment (first.baseDir environment) field.name
      (read field.name same) fun docsKey output => read docsKey (docs docsKey output)
    apply crossErrors_congr (akin.mem_failed_iff member same)
    rw [checked, akin.base]
  rw [(hears_still akin.still environment).errors_about akin.distinct member,
    (hears_still akin.still_second environment).errors_about akin.distinct_second
      (akin.fields.mem_iff.mp member),
    field.complaints_congr same, akin.verdict_eq same, crossed]

theorem warnings_about
    (unrecognised : Diagnostic.about field.name (first.unrecognised.map .unrecognised) =
      Diagnostic.about field.name (second.unrecognised.map .unrecognised)) :
    Diagnostic.about field.name (first.validate environment).report.warnings =
      Diagnostic.about field.name (second.validate environment).report.warnings := by
  rw [(hears_still akin.still environment).warnings_about akin.distinct member,
    (hears_still akin.still_second environment).warnings_about akin.distinct_second
      (akin.fields.mem_iff.mp member),
    field.complaints_congr same, akin.verdict_eq same, unrecognised]

end Field

end Akin

/-- Two configurations that only differ in the order of their fields are validated to the same
values, and their reports say the same of every key. -/
theorem validate_reordered {first second : Config} (distinct : first.schema.names.Nodup)
    (still : first.Still) (reordered : first.schema.fields.Perm second.schema.fields)
    (slots : first.slots.Alike second.slots) (extras : first.extras = second.extras)
    (unrecognised : first.unrecognised = second.unrecognised)
    (base : first.baseDirectory = second.baseDirectory) (environment : Environment) :
    let left := first.validate environment
    let right := second.validate environment
    left.config.slots.Alike right.config.slots ∧ left.config.extras = right.config.extras ∧
      ∀ key, Diagnostic.about key left.report.errors = Diagnostic.about key right.report.errors ∧
        Diagnostic.about key left.report.warnings = Diagnostic.about key right.report.warnings := by
  intro left right
  have start : first.baseDir environment = second.baseDir environment := by
    have origin : first.text? originKey = second.text? originKey :=
      congrArg (Option.bind · Setting.text?) (slots originKey)
    simp only [baseDir, origin?, origin, extras, base]
  have akin : first.Akin second environment := ⟨reordered, distinct, still, start⟩
  refine ⟨fun key => akin.validated_slot (slots key), extras, fun key => ?_⟩
  by_cases declared : key ∈ first.schema.names
  · obtain ⟨field, member, rfl⟩ := List.mem_map.mp declared
    exact ⟨akin.errors_about member (slots field.name) fun docsKey _ => slots docsKey,
      akin.warnings_about member (slots field.name) (by rw [unrecognised])⟩
  · -- of a key that no field has, a report only says that it is unrecognised
    obtain ⟨no_errors, warnings⟩ := about_undeclared declared environment
    obtain ⟨none_either, other_warnings⟩ := about_undeclared
      (fun known => declared (akin.mem_names_iff.mpr known)) environment
    exact ⟨no_errors.trans none_either.symm,
      (warnings.trans (by rw [unrecognised])).trans other_warnings.symm⟩

def publishedBackwards : Config :=
  (fresh ⟨Schema.publishing.fields.reverse, Schema.publishing.passthrough⟩ none).run [
    .load (.ofMembers [("docs", .text "pages"), ("site", .text "pages"), ("gone", .null)])]

theorem overlapping_reordered :
    overlapping.schema.names.Nodup ∧ overlapping.Still ∧
      overlapping.schema.fields.Perm publishedBackwards.schema.fields ∧
      overlapping.slots.Alike publishedBackwards.slots ∧
      overlapping.extras = publishedBackwards.extras ∧
      overlapping.unrecognised = publishedBackwards.unrecognised ∧
      overlapping.baseDirectory = publishedBackwards.baseDirectory ∧
      (overlapping.validate .bare).config.slots.Alike (publishedBackwards.validate .bare).config.slots ∧
      (overlapping.validate .bare).report.Blames "site" ∧
      Diagnostic.about "site" (overlapping.validate .bare).report.errors =
        Diagnostic.about "site" (publishedBackwards.validate .bare).report.errors := by
  have schema : overlapping.schema = .publishing := run_schema _ _
  have distinct : overlapping.schema.names.Nodup := schema ▸ Schema.publishing_distinct
  have still : overlapping.Still := by
    rw [Still, schema]
    exact Schema.publishing_still
  have reordered : overlapping.schema.fields.Perm publishedBackwards.schema.fields := by
    rw [schema, publishedBackwards, run_schema]
    exact (List.reverse_perm _).symm
  have slots : overlapping.slots.Alike publishedBackwards.slots := .refl _
  obtain ⟨settled, _, reports⟩ := validate_reordered distinct still reordered slots rfl rfl rfl .bare
  exact ⟨distinct, still, reordered, slots, rfl, rfl, rfl, settled, by decide +kernel,
    (reports "site").1⟩

theorem Reachable.unrecognised_undeclared {schema : Schema} {config : Config}
    (reachable : config.Reachable schema) :
    ∀ key ∈ config.unrecognised, key ∉ schema.names := by
  obtain ⟨base, actions, rfl⟩ := reachable
  intro key member
  rw [run_unrecognised] at member
  exact Schema.declares_eq_false_iff.mp (Schema.declares_of_mem_strangers member)

/-- What becomes of a field and what is said of it does not depend on any other field, the input
directory of an output directory apart, nor on the keys that are not declared. -/
theorem validate_undisturbed {schema : Schema} (distinct : schema.names.Nodup)
    (still : ∀ field ∈ schema.fields, field.rule.successor? = none) {first second : Config}
    (first_schema : first.schema = schema) (second_schema : second.schema = schema)
    (undeclared : ∀ key ∈ first.unrecognised ++ second.unrecognised, key ∉ schema.names)
    {directory : Path} (first_base : first.baseDirectory = some directory)
    (second_base : second.baseDirectory = some directory) {changed : String}
    (slots : ∀ key, key ≠ changed → first.get? key = second.get? key) {field : Field}
    (member : field ∈ schema.fields) (other : field.name ≠ changed)
    (apart : field.rule ≠ .siteDirectory changed) (environment : Environment) :
    let left := first.validate environment
    let right := second.validate environment
    left.config.get? field.name = right.config.get? field.name ∧
      Diagnostic.about field.name left.report.errors =
        Diagnostic.about field.name right.report.errors ∧
      Diagnostic.about field.name left.report.warnings =
        Diagnostic.about field.name right.report.warnings := by
  intro left right
  subst first_schema
  have start : first.baseDir environment = second.baseDir environment := by
    simp only [baseDir, first_base, second_base]
  have akin : first.Akin second environment :=
    ⟨second_schema ▸ .refl _, distinct, still, start⟩
  have same := slots field.name other
  have silent (keys : List String) (unknown : ∀ key ∈ keys, key ∉ first.schema.names) :
      Diagnostic.about field.name (keys.map .unrecognised) = [] := by
    apply Diagnostic.about_eq_nil
    intro diagnostic said name
    obtain ⟨key, listed, rfl⟩ := List.mem_map.mp said
    have own : key = field.name := name
    exact unknown key listed (own ▸ List.mem_map_of_mem member)
  have unrecognised : Diagnostic.about field.name (first.unrecognised.map .unrecognised) =
      Diagnostic.about field.name (second.unrecognised.map .unrecognised) := by
    rw [silent _ fun key listed => undeclared key (List.mem_append_left _ listed),
      silent _ fun key listed => undeclared key (List.mem_append_right _ listed)]
  refine ⟨akin.validated_slot same, akin.errors_about member same fun docsKey output => ?_,
    akin.warnings_about member same unrecognised⟩
  exact slots docsKey fun here => apart (here ▸ output)

def overlappingAt (directory : Path) (rest : List (String × Value)) : Config :=
  (fresh .publishing (some directory)).run [
    .load (.ofMembers ([("docs", .text "pages"), ("site", .text "pages")] ++ rest))]

theorem overlapping_undisturbed :
    let null := overlappingAt ⟨"/srv"⟩ [("gone", .null)]
    let misspelt := overlappingAt ⟨"/srv"⟩ [("gnoe", .null)]
    let site : Field := ⟨"site", .siteDirectory "docs", none, false⟩
    Schema.publishing.names.Nodup ∧
      (∀ field ∈ Schema.publishing.fields, field.rule.successor? = none) ∧
      null.Reachable .publishing ∧ misspelt.Reachable .publishing ∧
      (∀ key, key ≠ "gone" → null.get? key = misspelt.get? key) ∧
      site ∈ Schema.publishing.fields ∧ site.name ≠ "gone" ∧ site.rule ≠ .siteDirectory "gone" ∧
      (null.validate .bare).config.get? "site" = (misspelt.validate .bare).config.get? "site" ∧
      (null.validate .bare).report.Blames "site" ∧
      Diagnostic.about "site" (null.validate .bare).report.errors =
        Diagnostic.about "site" (misspelt.validate .bare).report.errors := by
  intro null misspelt site
  have null_reachable : null.Reachable .publishing := ⟨_, _, rfl⟩
  have misspelt_reachable : misspelt.Reachable .publishing := ⟨_, _, rfl⟩
  have slots : ∀ key, key ≠ "gone" → null.get? key = misspelt.get? key := by
    intro key other
    have held : null.slots = ⟨[("docs", .data (.text "pages")), ("site", .data (.text "pages")),
      ("gone", .data .null)]⟩ := rfl
    have either : misspelt.slots = ⟨[("docs", .data (.text "pages")),
      ("site", .data (.text "pages"))]⟩ := rfl
    simp only [get?, held, either, OrderedMap.get?, OrderedMap.get?.go, if_neg (Ne.symm other)]
  have member : site ∈ Schema.publishing.fields := by simp [Schema.publishing, site]
  have undeclared : ∀ key ∈ null.unrecognised ++ misspelt.unrecognised,
      key ∉ Schema.publishing.names := by
    intro key listed
    rcases List.mem_append.mp listed with here | there
    · exact null_reachable.unrecognised_undeclared key here
    · exact misspelt_reachable.unrecognised_undeclared key there
  have other : site.name ≠ "gone" := by decide
  have apart : site.rule ≠ .siteDirectory "gone" := by simp [site]
  obtain ⟨slot, errors, _⟩ := validate_undisturbed Schema.publishing_distinct
    Schema.publishing_still (run_schema _ _) (run_schema _ _) undeclared rfl rfl slots member other
    apart .bare
  exact ⟨Schema.publishing_distinct, Schema.publishing_still, null_reachable, misspelt_reachable,
    slots, member, other, apart, slot, by decide +kernel, errors⟩

end Config

end SiteSettings
