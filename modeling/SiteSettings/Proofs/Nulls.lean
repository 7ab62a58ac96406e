import SiteSettings.Proofs.Independence

/-! Null is nothing. Where nothing moves and no field is gone, no phase of validation can tell a
slot that holds null from one that holds nothing, and what they hold in the end is as close as
before. -/

namespace SiteSettings

/-- Both slots hold the same value, or neither holds any: null is none. -/
def Coincide (first second : Option Setting) : Prop :=
  (first.filter fun setting => !setting.isNull) = second.filter fun setting => !setting.isNull

theorem coincide_null : Coincide none (some (.data .null)) := rfl

namespace Coincide

variable {first second : Option Setting} (coincide : Coincide first second)

include coincide

theorem text_eq : first.bind Setting.text? = second.bind Setting.text? := by
  have read (slot : Option Setting) : slot.bind Setting.text? =
      (slot.filter fun setting => !setting.isNull).bind Setting.text? := by
    cases slot with
    | none => rfl
    | some setting =>
      rw [Option.filter_some]
      cases null : setting.isNull with
      | true =>
        rw [Setting.eq_null null]
        rfl
      | false => rfl
  rw [read, coincide, ← read]

/-- Null gives way to the default as nothing does, so the verdicts on the two slots say the same.
They leave one value in both slots or leave both alone. -/
theorem verdict_eq (field : Field) (environment : Environment) (base : Path) :
    let left := field.verdict environment base first
    let right := field.verdict environment base second
    left.problem = right.problem ∧ left.warnings = right.warnings ∧
      (left.slot = right.slot ∨ left.slot = first ∧ right.slot = second) := by
  intro left right
  have same : field.source? first = field.source? second := by
    rw [Field.source?, coincide, Field.source?]
  cases source : field.source? second with
  | none =>
    have first_left : left = _ := Field.verdict_of_no_source (same.trans source)
    have second_right : right = _ := Field.verdict_of_no_source source
    rw [first_left, second_right]
    exact ⟨rfl, rfl, .inr ⟨rfl, rfl⟩⟩
  | some setting =>
    have first_left : left = _ := Field.verdict_of_source (same.trans source)
    have second_right : right = _ := Field.verdict_of_source source
    rw [first_left, second_right, Verdict.ofCoercion, Verdict.ofCoercion]
    cases (field.rule.coerce (field.context environment base) setting).result with
    | ok coerced => exact ⟨rfl, rfl, .inl rfl⟩
    | error problem => exact ⟨rfl, rfl, .inr ⟨rfl, rfl⟩⟩

end Coincide

/-- A deprecated field speaks of a value only, as opposed to a removed one. -/
theorem Field.complaints_of_coincide {field : Field} (lasting : ¬ field.rule.IsRemoved)
    {first second : OrderedMap Setting}
    (coincide : Coincide (first.get? field.name) (second.get? field.name)) :
    field.complaints first = field.complaints second := by
  obtain ⟨name, rule, default, required⟩ := field
  cases rule with
  | removed notice => exact absurd ⟨notice, rfl⟩ lasting
  | deprecated notice inner =>
    have spoken (slots : OrderedMap Setting) :
        complaints ⟨name, .deprecated notice inner, default, required⟩ slots =
          ⟨none, none, ((slots.get? name).filter fun setting => !setting.isNull).toList.map
            fun _ => Rule.deprecatedText notice name⟩ := by
      simp only [complaints, preparation, Rule.prepare]
      cases slots.get? name with
      | none => rfl
      | some setting =>
        rw [Option.filter_some]
        cases null : setting.isNull <;> simp [null]
    rw [spoken, spoken, coincide]
  | _ => rfl

namespace Config

/-- The configurations only differ in that one may have null where the other has nothing. -/
structure Coincides (first second : Config) : Prop where
  beside : first.SameBeside second
  slots : ∀ key, Coincide (first.get? key) (second.get? key)

namespace Coincides

variable {first second : Config} (coincides : first.Coincides second)

include coincides

theorem baseDir_eq (environment : Environment) :
    first.baseDir environment = second.baseDir environment :=
  coincides.beside.baseDir_eq (coincides.slots originKey).text_eq environment

section Validate

variable (distinct : first.schema.names.Nodup) (still : first.Still) (environment : Environment)

include still

theorem verdict_eq (field : Field) :
    let left := first.verdict environment field
    let right := second.verdict environment field
    left.problem = right.problem ∧ left.warnings = right.warnings ∧
      (left.slot = right.slot ∨
        left.slot = first.get? field.name ∧ right.slot = second.get? field.name) := by
  rw [verdict_still still, verdict_still (still.of_schema coincides.beside.schema),
    ← coincides.baseDir_eq environment]
  exact (coincides.slots field.name).verdict_eq field environment _

include distinct

/-- Validation leaves one value in both slots or leaves them as they were. -/
theorem validated_slot (key : String) :
    let left := (first.validate environment).config.get? key
    let right := (second.validate environment).config.get? key
    left = right ∨ left = first.get? key ∧ right = second.get? key := by
  intro left right
  have schema := coincides.beside.schema
  by_cases declared : key ∈ first.schema.names
  · obtain ⟨field, member, rfl⟩ := List.mem_map.mp declared
    have first_left : left = _ := validate_slot distinct member
    have second_right : right = _ := validate_slot (schema ▸ distinct) (schema ▸ member)
    rw [first_left, second_right]
    exact (coincides.verdict_eq still environment field).2.2
  · -- coercion passes over a key that no field has, and nothing is moved there
    right
    constructor
    · exact (validate_slot_of_not_mem declared).trans (prepared_still still environment key)
    · exact (validate_slot_of_not_mem (schema ▸ declared)).trans
        (prepared_still (still.of_schema coincides.beside.schema) environment key)

theorem validate :
    (first.validate environment).config.Coincides (second.validate environment).config where
  beside := ⟨coincides.beside.schema, coincides.beside.extras, coincides.beside.unrecognised,
    coincides.beside.baseDirectory⟩
  slots key := by
    obtain same | ⟨left, right⟩ := coincides.validated_slot distinct still environment key
    · rw [Coincide, same]
    · rw [left, right]
      exact coincides.slots key

theorem concurs (lasting : ∀ field ∈ first.schema.fields, ¬ field.rule.IsRemoved) :
    first.Concurs second environment where
  schema := coincides.beside.schema
  unrecognised := coincides.beside.unrecognised
  complaints field member :=
    Field.complaints_of_coincide (lasting field member) (coincides.slots field.name)
  problems field _ := (coincides.verdict_eq still environment field).1
  warnings field _ := (coincides.verdict_eq still environment field).2.1
  crossChecks field _ := by
    have read (key : String) : Rule.textAt? (first.coerced environment).slots key =
        Rule.textAt? (second.coerced environment).slots key := by
      rw [Rule.textAt?, Rule.textAt?, ← validate_get?, ← validate_get?]
      exact ((coincides.validate distinct still environment).slots key).text_eq
    rw [← coincides.baseDir_eq environment]
    exact field.rule.crossCheck_reads environment _ field.name (read field.name)
      fun docsKey _ => read docsKey

end Validate

end Coincides

/-- The second configuration has null where the first has nothing, and is the same otherwise. -/
structure Nulled (first second : Config) (key : String) : Prop where
  beside : first.SameBeside second
  absent : first.get? key = none
  null : second.get? key = some (.data .null)
  others : ∀ other, other ≠ key → first.get? other = second.get? other

theorem nulled_of_set? {config nulled : Config} {key : String} (absent : config.get? key = none)
    (set : config.set? key (.data .null) = some nulled) : config.Nulled nulled key := by
  rw [set?] at set
  split at set
  · cases set
    refine ⟨⟨rfl, rfl, rfl, rfl⟩, absent, OrderedMap.get?_insert_self .., fun other apart => ?_⟩
    exact (OrderedMap.get?_insert_of_ne _ _ apart).symm
  · cases set

theorem Nulled.coincides {first second : Config} {key : String}
    (nulled : first.Nulled second key) : first.Coincides second := by
  refine ⟨nulled.beside, fun other => ?_⟩
  by_cases here : other = key
  · rw [here, nulled.absent, nulled.null]
    exact coincide_null
  · rw [Coincide, nulled.others other here]

/-- Null is as good as nothing: wherever paths start, whatever the rules and the defaults are, the
reports are the same, and so are all values in the end, except that null may be left where nothing
would be. -/
theorem validate_nulled {config nulled : Config} {key : String} (null : config.Nulled nulled key)
    (distinct : config.schema.names.Nodup) (still : config.Still)
    (lasting : ∀ field ∈ config.schema.fields, ¬ field.rule.IsRemoved)
    (environment : Environment) :
    let left := config.validate environment
    let right := nulled.validate environment
    left.report = right.report ∧
      (∀ other, other ≠ key → left.config.get? other = right.config.get? other) ∧
      left.config.extras = right.config.extras ∧
      (∀ later, config.baseDir later = nulled.baseDir later ∧
        left.config.baseDir later = right.config.baseDir later) ∧
      (left.config.get? key = right.config.get? key ∨
        left.config.get? key = none ∧ right.config.get? key = some (.data .null)) := by
  intro left right
  have coincides := null.coincides
  have validated := coincides.validate distinct still environment
  have slot (key : String) := coincides.validated_slot distinct still environment key
  refine ⟨(coincides.concurs distinct still environment lasting).report_eq still distinct, ?_,
    validated.beside.extras, fun later => ?_, ?_⟩
  · intro other apart
    obtain same | ⟨first, second⟩ := slot other
    · exact same
    · exact first.trans ((null.others other apart).trans second.symm)
  · exact ⟨coincides.baseDir_eq later, validated.baseDir_eq later⟩
  · obtain same | ⟨first, second⟩ := slot key
    · exact .inl same
    · exact .inr ⟨first.trans null.absent, second.trans null.null⟩

end Config

def Schema.located : Schema where
  fields := [
    ⟨Config.originKey, .type .text none, none, false⟩,
    ⟨"old", .deprecated ⟨none, none⟩ none, none, false⟩,
    ⟨"docs", .directory false, some (.text "pages"), false⟩,
    ⟨"site", .siteDirectory "docs", none, false⟩]
  passthrough := false

def Config.located : Config :=
  (fresh .located none).run [.load (.ofMembers [("old", .text "x"), ("site", .text "pages")])]

def Config.locatedNowhere : Config :=
  (fresh .located none).run [
    .load (.ofMembers [("old", .text "x"), ("site", .text "pages")]),
    .set originKey (.data .null) (Setting.within_data _)]

/-- The two directories clash in the same place when null is given for it. -/
theorem Config.located_nulled :
    located.Nulled locatedNowhere originKey ∧ located.schema.names.Nodup ∧ located.Still ∧
      (∀ field ∈ located.schema.fields, ¬ field.rule.IsRemoved) ∧
      (located.validate .bare).report = (locatedNowhere.validate .bare).report ∧
      (locatedNowhere.validate .bare).report.Blames "site" ∧
      (located.validate .bare).config.text? "docs" = some "/work/pages" ∧
      (locatedNowhere.validate .bare).config.text? "docs" = some "/work/pages" ∧
      (located.validate .bare).config.get? originKey = none ∧
      (locatedNowhere.validate .bare).config.get? originKey = some (.data .null) := by
  have nulled : located.Nulled locatedNowhere originKey := nulled_of_set? rfl rfl
  have schema : located.schema = .located := run_schema _ _
  have distinct : located.schema.names.Nodup := schema ▸ by decide
  have still : located.Still := by
    rw [Still, schema]
    simp [Schema.located, Rule.successor?]
  have lasting : ∀ field ∈ located.schema.fields, ¬ field.rule.IsRemoved := by
    rw [schema]
    simp [Schema.located, Rule.IsRemoved]
  obtain ⟨report, slots, _⟩ := validate_nulled nulled distinct still lasting .bare
  have docs : (located.validate .bare).config.text? "docs" = some "/work/pages" := by
    decide +kernel
  have docs_either : (located.validate .bare).config.text? "docs" =
      (locatedNowhere.validate .bare).config.text? "docs" :=
    congrArg (Option.bind · Setting.text?) (slots "docs" (by decide))
  exact ⟨nulled, distinct, still, lasting, report, report ▸ by decide +kernel, docs,
    docs_either ▸ docs, rfl, rfl⟩

end SiteSettings
