import SiteSettings.Proofs.Steady
import SiteSettings.Site

/-! Validations in between. Where every field is steady, what an earlier validation wrote
into the slots makes no difference to a later one, whatever was loaded in the meantime. -/

namespace SiteSettings

namespace Field

variable {environment : Environment} {base : Path}

theorem source_again {field : Field} {slot : Option Setting} {setting coerced : Setting}
    (source : field.source? slot = some setting)
    (done : (field.rule.coerce (field.context environment base) setting).result = .ok coerced) :
    field.source? (some coerced) = some coerced := by
  cases null : coerced.isNull with
  | false => simp [source?, null]
  | true =>
    obtain rfl | ⟨fresh, _⟩ := field.rule.coerce_result done
    · rw [source?, default_of_null_source source null, coerced.eq_null null]
      rfl
    · rw [null] at fresh
      cases fresh

/-- The verdict on a settled slot is the verdict that settled it. -/
theorem verdict_again (rooted : environment.Rooted) (canonical : base.Canonical) {field : Field}
    (steady : field.rule.Steady) (declared : field.rule.Everywhere Schema.Accepted)
    {given : Theme → Prop} {slot : Option Setting}
    (within : ∀ held, slot = some held → held.Within given)
    (rereads : ∀ setting, field.source? slot = some setting → field.rule.Rereads setting) :
    field.verdict environment base (field.verdict environment base slot).slot =
      field.verdict environment base slot := by
  cases source : field.source? slot with
  | none => simp only [verdict_of_no_source source]
  | some setting =>
    have first : field.verdict environment base slot = _ := verdict_of_source source
    cases done : (field.rule.coerce (field.context environment base) setting).result with
    | error problem =>
      have kept : (field.verdict environment base slot).slot = slot := by
        rw [first, Verdict.ofCoercion, done]
      rw [kept]
    | ok coerced =>
      obtain ⟨again, warnings⟩ := steady.coerce_again rooted canonical declared
        (source_within within source) (rereads setting source) done
      rw [first, Verdict.ofCoercion, done]
      simp only
      rw [verdict_of_source (source_again source done), Verdict.ofCoercion]
      simp only [context, again, warnings]

structure Untouched (field : Field) : Prop where
  plain : field.default = none
  passes : ∀ context setting coerced,
    (field.rule.coerce context setting).result = .ok coerced → coerced = setting

theorem Untouched.slot_eq {field : Field} (untouched : field.Untouched) (slot : Option Setting) :
    (field.verdict environment base slot).slot = slot :=
  slot_of_passed untouched.plain (untouched.passes _)

end Field

/-- Fields that are steady and do not move, and are not touched at all if they are legacy
fields or tell where paths start. -/
structure Schema.Steady (schema : Schema) : Prop where
  declared : schema.Declared
  still : ∀ field ∈ schema.fields, field.rule.successor? = none
  rules : ∀ field ∈ schema.fields, field.rule.Steady
  legacy : ∀ field ∈ schema.fields, field.rule.Current ∨ field.Untouched
  origin : ∀ field ∈ schema.fields, field.name = Config.originKey → field.Untouched

namespace Config

/-- The reader gives back every URL that is made from the configuration's settings. -/
def Rereads (config : Config) : Prop :=
  ∀ field ∈ config.schema.fields, ∀ setting,
    field.source? (config.get? field.name) = some setting → field.rule.Rereads setting

section Steady

variable {config : Config} (steady : config.schema.Steady) (environment : Environment)

include steady

theorem settled_slot {field : Field} (member : field ∈ config.schema.fields) :
    (config.validate environment).config.get? field.name =
      (field.verdict environment (config.baseDir environment) (config.get? field.name)).slot := by
  rw [validate_slot steady.declared.distinct member, verdict_still steady.still]

theorem settled_other {key : String} (other : key ∉ config.schema.names) :
    (config.validate environment).config.get? key = config.get? key := by
  rw [validate_slot_of_not_mem other, prepared_still steady.still]
  rfl

theorem untouched_slot {field : Field} (member : field ∈ config.schema.fields)
    (untouched : field.Untouched) :
    (config.validate environment).config.get? field.name = config.get? field.name := by
  rw [settled_slot steady environment member, untouched.slot_eq]

theorem origin_slot : (config.validate environment).config.get? originKey = config.get? originKey := by
  by_cases declared : originKey ∈ config.schema.names
  · obtain ⟨field, member, name⟩ := List.mem_map.mp declared
    rw [← name]
    exact untouched_slot steady environment member (steady.origin field member name)
  · exact settled_other steady environment declared

/-- Loading after a validation gives later phases what loading without it would. -/
theorem matches_load (rooted : environment.Rooted) {given : Theme → Prop}
    (within : config.Within given) (rereads : config.Rereads) {members : OrderedMap Value}
    (base : (config.loadMembers members).baseDir environment = config.baseDir environment) :
    ((config.validate environment).config.loadMembers members).Matches
      (config.loadMembers members) environment := by
  have same : (config.validate environment).config.SameBeside config := ⟨rfl, rfl, rfl, rfl⟩
  have loaded := same.loadMembers members
  have origin := same.get?_loadMembers members (origin_slot steady environment)
  have origins := loaded.baseDir_eq (congrArg (Option.bind · Setting.text?) origin) environment
  have schema : ((config.validate environment).config.loadMembers members).schema =
      config.schema := loadMembers_schema ..
  refine ⟨loaded.schema, origins, loaded.extras, loaded.unrecognised, ?_, ?_, ?_⟩
  · intro field member
    rw [schema] at member
    obtain current | still := steady.legacy field member
    · simp only [Field.complaints, Field.preparation, Rule.prepare_of_current current]
    · exact field.complaints_congr
        (same.get?_loadMembers members (untouched_slot steady environment member still))
  · intro field member
    rw [schema] at member
    have name : field.name ∈ config.schema.names := List.mem_map_of_mem member
    rw [origins, base, get?_loadMembers, get?_loadMembers, same.schema, if_pos name]
    cases (OrderedMap.ofList members.entries).get? field.name with
    | some value => rfl
    | none =>
      rw [Option.map_none, Option.none_or, Option.none_or, settled_slot steady environment member]
      exact Field.verdict_again rooted (config.canonical_baseDir rooted) (steady.rules field member)
        (steady.declared.rule member) (within field.name) (rereads field member)
  · intro key absent
    rw [schema] at absent
    exact same.get?_loadMembers members (settled_other steady environment absent)

end Steady

end Config

namespace Site

variable (registry : Registry)

theorem schema_declared : (schema registry).Declared := by
  constructor
  · rw [Schema.accepted_iff]
    simp only [schema, List.map_cons, List.map_nil, field, fieldOr, Config.originKey]
    decide +kernel
  · simp only [schema, field, fieldOr, List.forall_mem_cons, Rule.Everywhere, Rule.freeForm,
      Rule.themeOf, true_and]
    exact ⟨⟨⟨_, rfl⟩, trivial⟩, List.forall_mem_nil _⟩

theorem steady : (schema registry).Steady where
  declared := schema_declared registry
  still := by simp [schema, field, fieldOr, Rule.successor?, Rule.freeForm, Rule.themeOf]
  rules := by
    have texts : (Rule.type .text none).Steady := .plain trivial
    have flags : (Rule.type .boolean none).Steady := .plain trivial
    have lists : (Rule.listOf (.type .text none)).Steady := .plain trivial
    simp only [schema, field, fieldOr, List.forall_mem_cons, texts, flags, lists, true_and]
    exact ⟨.plain trivial, .plain trivial, .url true, .theme registry, .plain trivial,
      .plain trivial, .plain trivial, .socketAddress, .url false, .plain trivial,
      .plain ⟨rfl, rfl⟩, .plain trivial, List.forall_mem_nil _⟩
  legacy := by
    simp only [schema, field, fieldOr, Rule.freeForm, Rule.themeOf, List.forall_mem_cons,
      Rule.Current, true_or, true_and, false_or]
    refine ⟨⟨rfl, ?_⟩, ⟨rfl, ?_⟩, List.forall_mem_nil _⟩
    · rintro context setting coerced ⟨⟩
      rfl
    · intro context setting coerced done
      have inner : ((Rule.type .list (some 2)).coerce context setting).result = .ok coerced := done
      exact Rule.coerceType_passes inner
  origin := by
    simp only [schema, field, fieldOr, Config.originKey, List.forall_mem_cons]
    refine ⟨fun _ => ⟨rfl, fun context setting coerced => Rule.coerceType_passes⟩, ?_⟩
    simp

end Site

/-- A validation of a site's settings before the last load goes unnoticed: the last
validation reports the same and leaves the same, and validating twice is validating once. -/
theorem Site.validate_absorbed {registry : Registry} {config : Config}
    (reachable : config.Reachable (Site.schema registry)) {environment : Environment}
    (rooted : environment.Rooted) (rereads : config.Rereads) :
    (∀ members : OrderedMap Value,
      (config.loadMembers members).baseDir environment = config.baseDir environment →
        (((config.validate environment).config.loadMembers members).validate environment).Agrees
          ((config.loadMembers members).validate environment)) ∧
      ((config.validate environment).config.validate environment).Agrees
        (config.validate environment) := by
  have steady : config.schema.Steady := reachable.schema_eq ▸ Site.steady registry
  have absorbed (members : OrderedMap Value)
      (base : (config.loadMembers members).baseDir environment = config.baseDir environment) :
      (((config.validate environment).config.loadMembers members).validate environment).Agrees
        ((config.loadMembers members).validate environment) := by
    have matching := Config.matches_load steady environment rooted reachable.resolved rereads base
    have schema : ((config.validate environment).config.loadMembers members).schema =
        config.schema := Config.loadMembers_schema ..
    refine matching.agrees ?_ ?_
    · intro field member
      exact steady.still field (schema ▸ member)
    · rw [schema]
      exact steady.declared.distinct
  exact ⟨absorbed, absorbed .empty rfl⟩

def Site.started : Config :=
  (Config.fresh (schema (InstalledThemes.standard ⟨"/themes"⟩ ⟨"/templates"⟩).toRegistry) none).run [
    .load (.ofMembers [
      ("site_url", .text "https://example.org/docs"), ("dev_addr", .text "0.0.0.0:080"),
      ("repo_url", .text "HTTPS://Example.org:443/a b")]),
    .set "google_analytics" (.data (.list [])) (Setting.within_data _)]

theorem Site.started_rereads : started.Rereads := by
  show ∀ field ∈ (schema _).fields, ∀ setting,
    field.source? (started.get? field.name) = some setting → field.rule.Rereads setting
  have site : started.get? "site_url" = some (.data (.text "https://example.org/docs")) := rfl
  have repository : started.get? "repo_url" = some (.data (.text "HTTPS://Example.org:443/a b")) := rfl
  simp only [schema, field, fieldOr, Rule.Rereads, Rule.freeForm, Rule.themeOf,
    List.forall_mem_cons, reduceCtorEq, false_imp_iff, implies_true, true_and, Rule.url.injEq,
    Field.source?, site, repository]
  refine ⟨?_, ?_, List.forall_mem_nil _⟩
  · rintro _ ⟨⟩ _ _ url ⟨⟩ ⟨⟩ parsed
    have read : Url.parse "https://example.org/docs" =
        .ok ⟨"https", some ⟨"", none, some (.domain "example.org"), none⟩, "/docs", none, none⟩ := by
      decide +kernel
    cases read.symm.trans parsed
    unfold Url.RoundTrips
    decide +kernel
  · rintro _ ⟨⟩ _ _ url ⟨⟩ ⟨⟩ parsed
    have read : Url.parse "HTTPS://Example.org:443/a b" =
        .ok ⟨"https", some ⟨"", none, some (.domain "example.org"), none⟩, "/a%20b", none,
          none⟩ := by
      decide +kernel
    cases read.symm.trans parsed
    unfold Url.RoundTrips
    decide +kernel

theorem Site.started_absorbed :
    started.Rereads ∧
      (((started.validate .bare).config.loadMembers (.ofList [("docs_dir", .text "pages")])).validate
        .bare).Agrees ((started.loadMembers (.ofList [("docs_dir", .text "pages")])).validate .bare) ∧
      ((started.validate .bare).config.validate .bare).Agrees (started.validate .bare) := by
  have reachable : started.Reachable
      (schema (InstalledThemes.standard ⟨"/themes"⟩ ⟨"/templates"⟩).toRegistry) := ⟨none, _, rfl⟩
  obtain ⟨absorbed, repeated⟩ :=
    validate_absorbed reachable Environment.bare_rooted started_rereads
  exact ⟨started_rereads, absorbed _ rfl, repeated⟩

end SiteSettings
