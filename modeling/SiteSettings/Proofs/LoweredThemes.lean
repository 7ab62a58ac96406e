import SiteSettings.Proofs.Settlement
import SiteSettings.Proofs.ThemeReload

/-! A theme inside another value is kept as its variables. Validating that value again
resolves the theme from them, and gives the same variables if they can be read as settings. -/

namespace SiteSettings

namespace Field

variable {environment : Environment} {base : Path}

theorem optional_problem_iff {name : String} {rule : Rule} {slot : Option Setting} :
    ((⟨name, rule, none, false⟩ : Field).verdict environment base slot).problem = none ↔
      ∀ setting, slot = some setting → setting.isNull = true ∨
        ∃ coerced, (rule.coerce ⟨environment, base, name, none⟩ setting).result = .ok coerced := by
  cases source : (⟨name, rule, none, false⟩ : Field).source? slot with
  | none =>
    rw [verdict_of_no_source source]
    exact ⟨fun _ setting held => .inl ((unset_of_no_source source).1 setting held), fun _ => rfl⟩
  | some setting =>
    rw [verdict_of_source source]
    simp only [source?, Option.map_none, Option.or_none, Option.filter_eq_some_iff] at source
    obtain ⟨rfl, present⟩ := source
    simp only [Bool.not_eq_true'] at present
    simp only [Verdict.ofCoercion, context, Option.some.injEq, forall_eq', present,
      Bool.false_eq_true, false_or]
    cases (rule.coerce ⟨environment, base, name, none⟩ setting).result <;> simp

theorem slot_of_passed {field : Field} {slot : Option Setting} (plain : field.default = none)
    (passes : ∀ setting coerced,
      (field.rule.coerce (field.context environment base) setting).result = .ok coerced →
        coerced = setting) :
    (field.verdict environment base slot).slot = slot := by
  cases source : field.source? slot with
  | none => rw [verdict_of_no_source source]
  | some setting =>
    have held : slot = some setting := by
      simp only [source?, plain, Option.map_none, Option.or_none, Option.filter_eq_some_iff] at source
      exact source.1
    rw [verdict_of_source source]
    simp only [Verdict.ofCoercion]
    split
    next coerced done => rw [passes setting coerced done, held]
    next => rfl

end Field

namespace Rule

variable {environment : Environment} {base : Path}

theorem coerceType_passes {kind : Kind} {length : Option Nat} {context : Context}
    {setting coerced : Setting}
    (done : ((Rule.type kind length).coerce context setting).result = .ok coerced) :
    coerced = setting := by
  simp only [coerce, Coercion.of_result, coerceType_eq_ok] at done
  exact done.1

theorem coerceType_text {context : Context} (text : String) :
    ((Rule.type .text none).coerce context (.data (.text text))).result =
      .ok (.data (.text text)) := by
  simp only [coerce, Coercion.of_result, coerceType_eq_ok]
  exact ⟨trivial, _, rfl, rfl, by simp⟩

theorem coerceType_text_iff (context : Context) {value : Value} :
    (∃ coerced, ((Rule.type .text none).coerce context (.data value)).result = .ok coerced) ↔
      ∃ text, value = .text text := by
  constructor
  · intro accepted
    rcases accepted with ⟨coerced, done⟩
    simp only [coerce, Coercion.of_result, coerceType_eq_ok] at done
    obtain ⟨_, _, same, fits⟩ := done
    cases same
    cases value with
    | text text => exact ⟨text, rfl⟩
    | _ => cases fits.kind
  · intro found
    rcases found with ⟨text, rfl⟩
    exact ⟨_, coerceType_text text⟩

theorem coerceDirectory_accepts_iff {context : Context} {value : Value} :
    (∃ coerced, ((Rule.directory true).coerce context (.data value)).result = .ok coerced) ↔
      ∃ text, value = .text text ∧ context.environment.files.isDirectory
        (context.environment.locate context.base text) = true := by
  simp only [coerce, Coercion.of_result, coerceDirectory_eq_ok]
  constructor
  · intro accepted
    rcases accepted with ⟨_, text, same, _, present⟩
    cases same
    exact ⟨text, rfl, present trivial⟩
  · intro given
    rcases given with ⟨text, rfl, present⟩
    exact ⟨_, text, rfl, rfl, fun _ => present⟩

theorem coerceTexts_accepts_iff {context : Context} {value : Value} :
    (∃ coerced, ((Rule.listOf (.type .text none)).coerce context (.data value)).result =
        .ok coerced) ↔
      ∃ items, value = .list items ∧ ∀ item ∈ items, ∃ text, item = .text text := by
  cases value with
  | list items =>
    simp only [coerce_listOf_eq_ok, Value.list.injEq, exists_eq_left',
      ← coerceType_text_iff context, ← Coercion.exists_lowered_iff]
    constructor
    · intro accepted
      rcases accepted with ⟨_, _, values, ⟨⟩, lowered, _⟩
      exact ⟨values, lowered⟩
    · intro accepted
      rcases accepted with ⟨values, lowered⟩
      exact ⟨_, items, values, rfl, lowered, rfl⟩
  | _ => simp [coerce]

end Rule

namespace ThemeSettings

variable {environment : Environment} {base : Path} {config : Config} {vars : OrderedMap Value}

theorem standing_iff (slots : ∀ key, config.get? key =
      if key ∈ Rule.themeSettings.names then (vars.get? key).map .data else none)
    (start : config.baseDir environment = base) {key : String} (rule : Rule)
    (declared : key ∈ Rule.themeSettings.names) :
    (config.standing environment ⟨key, rule, none, false⟩).problem = none ↔
      ∀ value, vars.get? key = some value → value.isNull = true ∨
        ∃ coerced, (rule.coerce ⟨environment, base, key, none⟩ (.data value)).result =
          .ok coerced := by
  rw [Config.standing, Field.optional_problem_iff, start, slots, if_pos declared]
  simp only [Option.map_eq_some_iff, forall_exists_index, and_imp, forall_apply_eq_imp_iff₂,
    Setting.isNull_eq, Setting.toValue]

variable (schema : config.schema = Rule.themeSettings)

include schema

theorem quiet : config.Quiet environment := by
  constructor <;> rw [schema] <;> simp [Rule.themeSettings, Rule.Idle, Rule.crossCheck]

theorem names_nodup : config.schema.names.Nodup := by
  rw [schema]
  decide

/-- Settings of a theme are validated without errors if each of them stands by itself. -/
theorem faultless_iff :
    (config.validate environment).report.errors = [] ↔
      ∀ field ∈ Rule.themeSettings.fields, (config.standing environment field).problem = none := by
  have quiet : config.Quiet environment := quiet schema
  rw [Config.validate_faultless_iff (names_nodup schema), ← schema]
  constructor
  · intro faultless field member
    rw [← quiet.verdict_eq]
    exact faultless.settled field member
  · intro stand
    refine ⟨quiet.prepared.2, fun field member => ?_, fun field member => ?_⟩
    · rw [quiet.verdict_eq]
      exact stand field member
    · rw [schema] at member
      revert field
      simp [Rule.themeSettings, Rule.crossCheck]

theorem validated_text (slots : ∀ key, config.get? key =
      if key ∈ Rule.themeSettings.names then (vars.get? key).map .data else none) {key : String}
    (member : ⟨key, .type .text none, none, false⟩ ∈ Rule.themeSettings.fields) :
    (config.validate environment).config.get? key = (vars.get? key).map .data := by
  have declared : key ∈ Rule.themeSettings.names := List.mem_map_of_mem member
  rw [← schema] at member
  rw [Config.validate_slot (names_nodup schema) member, (quiet schema).verdict_eq, Config.standing,
    Field.slot_of_passed rfl fun _ _ done => Rule.coerceType_passes done, slots, if_pos declared]

end ThemeSettings

namespace Rule

variable {environment : Environment} {base : Path}

section Lowered

variable {registry : Registry} {settings : ThemeSettings} {theme : Theme}
  (resolved : Theme.resolve registry settings = .ok theme)

include resolved

/-- The settings that a theme was lowered to are validated without errors exactly if the
variables among them that are declared can be taken for settings. -/
theorem errors_lowered_iff :
    ((Config.nested themeSettings base theme.vars).validate environment).report.errors = [] ↔
      ThemeSettings.Reloads environment (environment.absolute base) theme.vars := by
  obtain ⟨distinct, name, locale⟩ := Theme.vars_of_resolve resolved
  have schema := Config.nested_schema themeSettings base theme.vars
  have start := Config.nested_baseDir themeSettings base theme.vars environment
  have slots := Config.get?_nested themeSettings base distinct
  generalize Config.nested themeSettings base theme.vars = config at schema start slots ⊢
  rw [ThemeSettings.faultless_iff schema]
  have slot {key : String} (rule : Rule) (declared : key ∈ themeSettings.names) :=
    ThemeSettings.standing_iff slots start rule declared
  have at_name := (slot (.type .text none) (by decide : "name" ∈ _)).mpr fun value held => by
    rw [name] at held
    cases held
    unfold ThemeSettings.nameValue
    cases settings.name with
    | none => exact .inl rfl
    | some text => exact .inr ⟨_, coerceType_text text⟩
  have at_locale := (slot (.type .text none) (by decide : "locale" ∈ _)).mpr fun value held => by
    rw [locale] at held
    cases held
    exact .inr ⟨_, coerceType_text _⟩
  have at_directory := slot (.directory true) (by decide : "custom_dir" ∈ _)
  have at_templates := slot (.listOf (.type .text none)) (by decide : "static_templates" ∈ _)
  simp only [themeSettings, List.forall_mem_cons, at_name, at_locale, at_directory, at_templates,
    true_and, coerceDirectory_accepts_iff, coerceTexts_accepts_iff]
  constructor
  · intro stand
    rcases stand with ⟨located, templates, _⟩
    exact ⟨located, templates⟩
  · intro reloads
    rcases reloads with ⟨located, templates⟩
    exact ⟨located, templates, List.forall_mem_nil _⟩

theorem normalize_lowered (default : Option Value) :
    ThemeSettings.normalize default (.data (.object theme.vars)) = .ok theme.vars := by
  obtain ⟨_, name, _⟩ := Theme.vars_of_resolve resolved
  simp [ThemeSettings.normalize, OrderedMap.contains, name]

/-- The settings that a theme was lowered to have its name and its locale again. -/
theorem ofConfig_lowered (environment : Environment) (base : Path) (own : OrderedMap Value) :
    let again := ThemeSettings.ofConfig
      ((Config.nested themeSettings base theme.vars).validate environment).config own
    again.name = settings.name ∧ again.locale = some theme.locale.print := by
  obtain ⟨distinct, name, locale⟩ := Theme.vars_of_resolve resolved
  have kept (key : String) (text : ⟨key, .type .text none, none, false⟩ ∈ themeSettings.fields) :
      ((Config.nested themeSettings base theme.vars).validate environment).config.get? key =
        (theme.vars.get? key).map .data :=
    ThemeSettings.validated_text (Config.nested_schema ..) (Config.get?_nested _ _ distinct) text
  constructor
  · show Config.text? _ "name" = settings.name
    rw [Config.text?, kept "name" (by simp [themeSettings]), name, ThemeSettings.nameValue]
    cases settings.name <;> rfl
  · show Config.text? _ "locale" = some theme.locale.print
    rw [Config.text?, kept "locale" (by simp [themeSettings]), locale]
    rfl

/-- Variables that can be taken for settings are resolved to a theme of the same name, locale
and variables. -/
theorem coerce_lowered (clear : settings.Clear) (context : Context)
    (reloads : ThemeSettings.Reloads context.environment
      (context.environment.absolute context.base) theme.vars) :
    ∃ again : Theme, ((themeOf registry).coerce context (.data (.object theme.vars))).result =
        .ok (.theme again) ∧
      again.name = theme.name ∧ again.locale = theme.locale ∧ again.vars = theme.vars := by
  obtain ⟨name, locale⟩ := ofConfig_lowered resolved context.environment context.base
    (theme.vars.filterKeys Theme.isVariable)
  obtain ⟨again, done, same⟩ := Theme.resolve_again clear resolved name locale rfl
  exact ⟨again, (coerce_theme_eq_ok context).mpr ⟨_, again, normalize_lowered resolved _,
    (errors_lowered_iff resolved).mpr reloads, done, rfl⟩, same⟩

/-- A theme inside another value is resolved again from its variables, to the same
variables, exactly if those can be taken for settings. -/
theorem coerce_lowered_iff (canonical : base.Canonical) (apart : settings.Apart) {key : String}
    {default : Option Value} :
    (∃ again, ((themeOf registry).coerce ⟨environment, base, key, default⟩
        (.data (.object theme.vars))).result = .ok again ∧
        again.toValue = .object theme.vars) ↔
      ThemeSettings.Reloads environment base theme.vars := by
  have located : environment.absolute base = base := Environment.absolute_eq canonical
  constructor
  · intro lowered
    rcases lowered with ⟨again, done, _⟩
    obtain ⟨_, _, same, faultless, _⟩ := (coerce_theme_eq_ok _).mp done
    cases (normalize_lowered resolved default).symm.trans same
    exact located ▸ (errors_lowered_iff resolved).mp faultless
  · intro reloads
    obtain ⟨again, done, _, _, same⟩ := coerce_lowered resolved apart.clear
      ⟨environment, base, key, default⟩ (located.symm ▸ reloads)
    exact ⟨.theme again, done, congrArg Value.object same⟩

end Lowered

/-- A theme that a rule put into another value is made again from its variables. -/
theorem coerce_of_lowered (canonical : base.Canonical) (rule : Rule)
    (declared : rule.Everywhere Schema.Accepted) {key : String} {default : Option Value}
    {theme : Theme} (admitted : rule.Admits environment (fun _ => False) (.theme theme))
    (settled : rule.Settled environment base (.data (.object theme.vars))) :
    ∃ again, (rule.coerce ⟨environment, base, key, default⟩
      (.data (.object theme.vars))).result = .ok again ∧ again.toValue = .object theme.vars := by
  induction rule using Rule.induct with
  | removed notice | retired notice => exact ⟨_, rfl, rfl⟩
  | deprecated notice inner ih => exact ih declared admitted settled
  | theme registry settings =>
    obtain rfl : settings = themeSettings := declared
    obtain ⟨_, ⟨⟩, impossible | ⟨_, apart, resolved⟩⟩ := admitted
    · exact impossible.elim
    exact (coerce_lowered_iff resolved canonical apart).mpr (settled theme.vars rfl)
  | type kind length => obtain ⟨_, ⟨⟩, _⟩ := admitted
  | choice choices => obtain ⟨_, _, ⟨⟩⟩ := admitted
  | directory mustExist | file mustExist | siteDirectory docsKey => obtain ⟨_, ⟨⟩, _⟩ := admitted
  | url directory => obtain ⟨⟨⟩⟩ | ⟨_, _, _, _, ⟨⟩⟩ := admitted
  | socketAddress => obtain ⟨_, ⟨⟩⟩ := admitted
  | nav => obtain ⟨_, ⟨⟩, _⟩ := admitted
  | listOf item ih => obtain ⟨_, ⟨⟩, _⟩ := admitted
  | mapping fields passthrough ih => obtain ⟨_, _, _, ⟨⟩, _⟩ := admitted

end Rule

end SiteSettings
