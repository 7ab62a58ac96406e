import SiteSettings.Proofs.Fixpoints

/-! Validating a second time. Coerced values, defaults and moved values stand in the slots
that the second validation takes for what the user staged, so it repeats the first one
exactly if nothing that the first one left is unsettled. -/

namespace SiteSettings

namespace Config

/-- Validating once more finds no error and changes nothing that can be read. -/
structure Repeats (config : Config) (environment : Environment) : Prop where
  faultless : (config.validate environment).report.hasErrors = false
  slots : ∀ key, (config.validate environment).config.get? key = config.get? key
  written : (config.validate environment).config.toMembers = config.toMembers

section Held

variable {config : Config} {environment : Environment} {given : Theme → Prop}
  (declared : config.schema.Declared) (canonical : (config.baseDir environment).Canonical)
  (hold : ∀ field ∈ config.schema.fields,
    field.Holds environment given (config.get? field.name))

include declared canonical hold

theorem repeats_of_settled (settled : config.Settled environment) : config.Repeats environment := by
  have stand : ∀ field ∈ config.schema.fields,
      (config.standing environment field).problem = none ∧
        (config.standing environment field).slot = config.get? field.name := by
    intro field member
    unfold standing
    obtain ⟨_, verdict⟩ | ⟨original, setting, held, found, _, admitted, verdict⟩ :=
      Field.verdict_of_holds (config.baseDir environment) (hold field member) rfl
    · rw [verdict]
      exact ⟨rfl, rfl⟩
    · rw [held] at found
      cases found
      have done : (field.rule.coerce (field.context environment (config.baseDir environment))
          original).result = .ok original :=
        field.rule.coerce_of_settled canonical (declared.rule member) admitted
          (settled.fields field member original held)
      rw [verdict, Verdict.ofCoercion, done, held]
      exact ⟨rfl, rfl⟩
  have slots := settled.quiet.read_validated declared.distinct id
    fun field member => (stand field member).2
  have faultless := settled.quiet.faultless declared.distinct fun field member =>
    ⟨(stand field member).1, congrArg _ (stand field member).2⟩
  exact ⟨by simp [Report.hasErrors, faultless], slots,
    toMembers_congr rfl rfl fun name _ => congrArg _ (slots name)⟩

theorem settled_of_repeats (straight : config.schema.Everywhere Pass.Straight)
    (repeats : config.Repeats environment) : config.Settled environment := by
  have faultless : (config.validate environment).report.errors = [] := by
    simpa [Report.hasErrors] using repeats.faultless
  have quiet := quiet_of_kept declared.distinct straight.1 faultless
    fun field _ => congrArg _ (repeats.slots field.name)
  refine ⟨quiet, fun field member setting found => ?_⟩
  cases setting with
  | theme theme => exact field.rule.settled_theme theme
  | data value =>
    have stands := ((validate_faultless_iff declared.distinct environment).mp faultless).settled
      field member
    have stays := congrArg (Option.map Setting.toValue) (repeats.slots field.name)
    rw [validate_slot declared.distinct member] at stays
    rw [quiet.verdict_eq, standing] at stands stays
    obtain null | ⟨original, coerced, _, held, admitted, done, kept⟩ :=
      Field.coerce_of_stands (hold field member) rfl stands stays found
    · rw [Setting.eq_null null]
      exact field.rule.settled_null
    · rw [found] at held
      cases held
      exact field.rule.settled_of_coerce canonical (declared.rule member) (straight.2 field member)
        (by simp) admitted done kept

end Held

/-- After a validation without errors, another one finds no error and changes no slot if
nothing is unsettled; where legacy fields move straight, it does so only then. -/
theorem validate_repeats_iff {schema : Schema} (declared : schema.Declared) {config : Config}
    (reachable : config.Reachable schema) {environment : Environment}
    (rooted : environment.Rooted)
    (faultless : (config.validate environment).report.hasErrors = false) :
    let validated := (config.validate environment).config
    (validated.Settled environment → validated.Repeats environment) ∧
      (schema.Everywhere Pass.Straight →
        (validated.Repeats environment ↔ validated.Settled environment)) := by
  have same := reachable.schema_eq
  rw [← same] at declared ⊢
  have hold := validated_hold declared reachable.resolved rooted faultless
  have canonical := (config.validate environment).config.canonical_baseDir rooted
  intro validated
  refine ⟨repeats_of_settled declared canonical hold, fun straight => ⟨?_, ?_⟩⟩
  · exact settled_of_repeats declared canonical hold straight
  · exact repeats_of_settled declared canonical hold

end Config

def Schema.renamed : Schema where
  fields := [
    ⟨"old", .deprecated ⟨some "root", none⟩ none, none, false⟩,
    ⟨"root", .directory true, none, false⟩,
    ⟨"gone", .removed ⟨none, none⟩, none, false⟩]
  passthrough := false

theorem Schema.renamed_declared : renamed.Declared := by
  refine ⟨⟨_, rfl⟩, ?_⟩
  simp [renamed, Rule.Everywhere]

theorem Schema.renamed_straight : renamed.Everywhere Pass.Straight := by
  simp [Everywhere, Pass.Straight, renamed, Rule.Everywhere, Rule.successor?]

def Config.renamed : Config := (fresh .renamed none).run [.load (.ofMembers [("old", .text "docs/.")])]

theorem Config.renamed_settled : (renamed.validate .bare).config.Settled .bare := by
  refine ⟨⟨?_, ?_⟩, ?_⟩
  · show ∀ field ∈ Schema.renamed.fields,
      field.rule.Idle field.name (renamed.validate .bare).config.slots
    simp only [Schema.renamed, List.forall_mem_cons, Rule.Idle]
    exact ⟨.inl unset_none, trivial, rfl, List.forall_mem_nil _⟩
  · show ∀ field ∈ Schema.renamed.fields,
      field.rule.crossCheck .bare _ field.name (renamed.validate .bare).config.slots = none
    simp [Schema.renamed, Rule.crossCheck]
  · show ∀ field ∈ Schema.renamed.fields, ∀ setting,
      (renamed.validate .bare).config.get? field.name = some setting →
        field.rule.Settled .bare _ setting
    simp [Schema.renamed, Rule.Settled]

theorem Config.renamed_repeats :
    renamed.Reachable .renamed ∧ (renamed.validate .bare).report.hasErrors = false ∧
      (renamed.validate .bare).config.Settled .bare ∧
      (renamed.validate .bare).config.Repeats .bare := by
  have reachable : renamed.Reachable .renamed := ⟨none, _, rfl⟩
  have faultless : (renamed.validate .bare).report.hasErrors = false := by decide +kernel
  obtain ⟨repeats, exactly⟩ :=
    validate_repeats_iff Schema.renamed_declared reachable Environment.bare_rooted faultless
  have repeated := repeats renamed_settled
  exact ⟨reachable, faultless, (exactly Schema.renamed_straight).mp repeated, repeated⟩

def Schema.revived : Schema := ⟨[⟨"gone", .removed ⟨none, none⟩, some (.text "a"), false⟩], false⟩

/-- The default counts as a value of the user's the second time. -/
theorem Config.revived_fails_again :
    Schema.revived.Declared ∧ (fresh .revived none).Reachable .revived ∧
      ((fresh .revived none).validate .bare).report.hasErrors = false ∧
      (((fresh .revived none).validate .bare).config.validate .bare).report.hasErrors = true := by
  refine ⟨⟨⟨_, rfl⟩, ?_⟩, ⟨none, [], rfl⟩, by decide +kernel, by decide +kernel⟩
  simp [Schema.revived, Rule.Everywhere]

end SiteSettings
