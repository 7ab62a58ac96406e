import SiteSettings.Proofs.LoweredThemes
import SiteSettings.Proofs.ThemeVariables

/-! What a theme keeps of what was asked for. The settings of a theme are split twice: a schema
checks the declared ones, and all others become variables. Both splits read the same mapping, so
nothing that was given is lost, and no declared setting shows as a variable. -/

namespace SiteSettings

namespace ThemeSettings

/-- What a user gives for a theme; a text is its name. -/
def given : Value → OrderedMap Value
  | .text name => .ofList [("name", .text name)]
  | .object members => members
  | _ => .empty

/-- The settings that are validated are those that were given, with a name. -/
theorem normalize_given {default : Option Value} {raw : Value} {members : OrderedMap Value}
    (normal : normalize default (.data raw) = .ok members) :
    ((given raw).keys.Nodup → members.keys.Nodup) ∧
      (∀ key, key ≠ "name" → members.get? key = (given raw).get? key) ∧
      members.get? "name" = ((given raw).get? "name").or default ∧
      (members.get? "name").isSome = true := by
  cases raw with
  | text name =>
    cases normal
    exact ⟨id, fun _ _ => rfl, rfl, rfl⟩
  | object entries =>
    simp only [normalize] at normal
    split at normal
    next named =>
      cases normal
      obtain ⟨value, held⟩ := Option.isSome_iff_exists.mp named
      exact ⟨id, fun _ _ => rfl, by simp [given, held], named⟩
    next unnamed =>
      have absent : entries.get? "name" = none := by
        simpa [OrderedMap.contains] using unnamed
      split at normal
      next name chosen =>
        cases normal
        obtain ⟨value, rfl, text⟩ := Option.bind_eq_some_iff.mp chosen
        obtain rfl : value = .text name := by
          cases value with
          | text _ => exact congrArg Value.text (Option.some.inj text)
          | _ => cases text
        refine ⟨fun distinct => OrderedMap.nodup_keys_insert distinct _ _, fun key other => ?_, ?_⟩
        · exact OrderedMap.get?_insert_of_ne _ _ other
        · simp [given, absent]
      next => cases normal
  | _ => cases normal

variable {environment : Environment} {base : Path} {config : Config} {members : OrderedMap Value}

section Validated

variable (schema : config.schema = Rule.themeSettings)
  (slots : ∀ key, config.get? key =
    if key ∈ Rule.themeSettings.names then (members.get? key).map .data else none)
  (start : config.baseDir environment = base)
  (faultless : (config.validate environment).report.errors = [])

include schema slots start faultless

/-- A setting that is given is coerced by its own rule. -/
theorem validated_setting {key : String} {rule : Rule}
    (member : ⟨key, rule, none, false⟩ ∈ Rule.themeSettings.fields) {value : Value}
    (held : members.get? key = some value) (present : value.isNull = false) :
    ∃ coerced, (rule.coerce ⟨environment, base, key, none⟩ (.data value)).result = .ok coerced ∧
      (config.validate environment).config.get? key = some coerced := by
  have declared : key ∈ Rule.themeSettings.names := List.mem_map_of_mem member
  have settled := (faultless_iff schema).mp faultless _ member
  rw [← schema] at member
  rw [Config.validate_slot (names_nodup schema) member, (quiet schema).verdict_eq]
  rw [Config.standing, start, slots, if_pos declared, held, Option.map_some] at settled ⊢
  have source : (⟨key, rule, none, false⟩ : Field).source? (some (.data value)) =
      some (.data value) := by
    simp [Field.source?, Setting.isNull_eq, Setting.toValue, present]
  exact Field.coerced_of_source source settled

theorem validated_name {value : Value} (held : members.get? "name" = some value) :
    value = (((config.validate environment).config.text? "name").map Value.text).getD .null := by
  have member : ⟨"name", .type .text none, none, false⟩ ∈ Rule.themeSettings.fields := by
    simp [Rule.themeSettings]
  have slot : (config.validate environment).config.get? "name" = some (.data value) := by
    rw [validated_text schema slots member, held]
    rfl
  rw [Config.text?, slot]
  by_cases present : value.isNull = true
  · cases value with
    | null => rfl
    | _ => cases present
  · obtain ⟨coerced, done, _⟩ := validated_setting schema slots start faultless member held
      (Bool.eq_false_iff.mpr present)
    obtain ⟨text, rfl⟩ := (Rule.coerceType_text_iff _).mp ⟨coerced, done⟩
    rfl

theorem validated_directory {value : Value} (held : members.get? "custom_dir" = some value)
    (present : value.isNull = false) :
    ∃ text, value = .text text ∧
      environment.files.isDirectory (environment.locate base text) = true ∧
      (config.validate environment).config.path? "custom_dir" =
        some (environment.locate base text) := by
  have member : ⟨"custom_dir", .directory true, none, false⟩ ∈ Rule.themeSettings.fields := by
    simp [Rule.themeSettings]
  obtain ⟨coerced, done, slot⟩ := validated_setting schema slots start faultless member held present
  obtain ⟨text, ⟨⟩, rfl, located⟩ := Rule.coerceDirectory_eq_ok.mp done
  refine ⟨text, rfl, located rfl, ?_⟩
  generalize environment.locate base text = path at slot
  rw [Config.path?, Config.text?, slot]
  rfl

theorem validated_templates {value : Value} (held : members.get? "static_templates" = some value)
    (present : value.isNull = false) :
    ∃ items, value = .list items ∧ (∀ item ∈ items, ∃ name, item = .text name) ∧
      (config.validate environment).config.get? "static_templates" = some (.data value) := by
  have member : ⟨"static_templates", .listOf (.type .text none), none, false⟩ ∈
      Rule.themeSettings.fields := by
    simp [Rule.themeSettings]
  obtain ⟨coerced, done, slot⟩ := validated_setting schema slots start faultless member held present
  obtain ⟨items, rfl, texts⟩ := Rule.coerceTexts_accepts_iff.mp ⟨coerced, done⟩
  obtain ⟨_, values, ⟨⟩, each, rfl⟩ := (Rule.coerce_listOf_eq_ok _).mp done
  -- texts come out of the coercion as they went in, so the slot still holds the given list
  have same : List.Forall₂ (Coercion.Lowers fun value => (Rule.type .text none).coerce
      ⟨environment, base, "static_templates", none⟩ (.data value)) items items := by
    apply List.forall₂_same.mpr
    intro item listed
    obtain ⟨name, rfl⟩ := texts item listed
    exact ⟨_, Rule.coerceType_text name, rfl⟩
  obtain rfl := List.right_unique_forall₂' (Coercion.lowers_rightUnique _) each same
  exact ⟨_, rfl, texts, slot⟩

end Validated

/-- Settings carry what was given: the declared ones as far as they were checked, and all others as
variables. -/
structure Carries (settings : ThemeSettings) (environment : Environment) (base : Path)
    (default : Option Value) (given : OrderedMap Value) : Prop where
  apart : settings.Apart
  own : settings.vars.keys.Nodup
  name : (given.get? "name").or default = some settings.nameValue
  directory : ∀ value, given.get? "custom_dir" = some value → value.isNull = false →
    ∃ text, value = .text text ∧
      environment.files.isDirectory (environment.locate base text) = true ∧
      settings.customDirectory = some (environment.locate base text)
  templates : ∀ value, given.get? "static_templates" = some value → value.isNull = false →
    ∃ items, value = .list items ∧
      ∀ item ∈ items, ∃ name ∈ settings.staticTemplates, item = .text name
  vars : ∀ key, key ∉ Rule.themeSettings.names → settings.vars.get? key = given.get? key

theorem carries_given {default : Option Value} {raw : Value}
    (normal : normalize default (.data raw) = .ok members) (distinct : (given raw).keys.Nodup)
    (faultless : ((Config.nested Rule.themeSettings base members).validate
      environment).report.errors = []) :
    (ofConfig ((Config.nested Rule.themeSettings base members).validate environment).config
      (members.filterKeys Theme.isVariable)).Carries environment (environment.absolute base) default
        (given raw) := by
  obtain ⟨nodup, others, name, named⟩ := normalize_given normal
  have unique := nodup distinct
  have schema := Config.nested_schema Rule.themeSettings base members
  have slots := Config.get?_nested Rule.themeSettings base unique
  have start := Config.nested_baseDir Rule.themeSettings base members environment
  generalize Config.nested Rule.themeSettings base members = config at *
  refine ⟨apart_ofConfig _ members, ?own, ?name, ?directory, ?templates, ?vars⟩
  case own =>
    rw [ofConfig, OrderedMap.keys_filterKeys]
    exact unique.filter _
  case name =>
    obtain ⟨value, held⟩ := Option.isSome_iff_exists.mp named
    rw [← name, held]
    exact congrArg some (validated_name schema slots start faultless held)
  case directory =>
    intro value held present
    rw [← others _ (by decide)] at held
    exact validated_directory schema slots start faultless held present
  case templates =>
    intro value held present
    rw [← others _ (by decide)] at held
    obtain ⟨items, rfl, texts, slot⟩ :=
      validated_templates schema slots start faultless held present
    refine ⟨items, rfl, fun item member => ?_⟩
    obtain ⟨name, rfl⟩ := texts item member
    refine ⟨name, ?_, rfl⟩
    simp only [ofConfig, slot]
    exact List.mem_filterMap.mpr ⟨_, member, rfl⟩
  case vars =>
    intro key undeclared
    have other : key ≠ "name" := by rintro rfl; exact undeclared (by decide)
    rw [ofConfig, OrderedMap.get?_filterKeys, if_pos (by simpa [Theme.isVariable]), others key other]

end ThemeSettings

namespace Theme

/-- A theme keeps to what was given for it, where `base` is the directory that its own directory
starts from and `default` names a theme that is given no name. -/
structure Honours (theme : Theme) (registry : Registry) (environment : Environment) (base : Path)
    (default : Option Value) (given : OrderedMap Value) : Prop where
  named : (given.get? "name").or default = some ((theme.name.map Value.text).getD .null)
  installed : ∀ name, theme.name = some name → ∃ manifest, registry.lookup name = .ok manifest
  directory : ∀ value, given.get? "custom_dir" = some value → value.isNull = false →
    ∃ text, value = .text text ∧ (environment.locate base text).isAbsolute = true ∧
      environment.files.isDirectory (environment.locate base text) = true ∧
      theme.directories.head? = some (environment.locate base text)
  fallback : theme.directories.getLast? = some registry.fallback.directory
  templates : ∀ value, given.get? "static_templates" = some value → value.isNull = false →
    ∃ items, value = .list items ∧ ∀ item ∈ items, ∃ name ∈ theme.staticTemplates, item = .text name
  name : theme.vars.get? "name" = some ((theme.name.map Value.text).getD .null)
  locale : theme.vars.get? "locale" = some (.text theme.locale.print) ∧
    Locale.parse? theme.locale.print = some theme.locale
  own : ∀ key value, key ∉ Rule.themeSettings.names → given.get? key = some value →
    theme.vars.get? key = some value
  /-- What is found under these keys comes from installed themes. -/
  reserved : ∃ chain, registry.Ascent theme.name chain none ∧ Registry.Distinct chain ∧
    ∀ key ∈ ["custom_dir", "static_templates"],
      theme.vars.get? key = chain.findSome? fun manifest => manifest.vars.get? key

variable {registry : Registry} {settings : ThemeSettings} {theme : Theme}

/-- A theme resolved from settings keeps to what they carry. -/
theorem honours_of_resolve {environment : Environment} {base : Path} {default : Option Value}
    {given : OrderedMap Value} (once : registry.NamesVarsOnce) (absolute : base.isAbsolute = true)
    (carries : settings.Carries environment base default given)
    (resolved : resolve registry settings = .ok theme) :
    theme.Honours registry environment base default given := by
  obtain ⟨_, name, locale⟩ := vars_of_resolve resolved
  obtain ⟨chain, ascent, distinct, proper, shape⟩ := shape_of_resolve resolved
  have title : theme.name = settings.name := congrArg Theme.name shape
  have directories := congrArg Theme.directories shape
  have statics := congrArg Theme.staticTemplates shape
  have layered {key : String} (other : key ≠ "name") (place : key ≠ "locale") :
      theme.vars.get? key = (settings.vars.get? key).or
        (chain.findSome? fun manifest => manifest.vars.get? key) :=
    get?_vars_of_shape once carries.own ascent shape other place
  refine ⟨title ▸ carries.name, ?installed, ?directory, ?fallback, ?templates, title ▸ name,
    ⟨locale, Locale.parse?_print proper⟩, ?own, ?reserved⟩
  case installed =>
    intro name held
    rw [← title, held] at ascent
    cases ascent with
    | climb found _ => exact ⟨_, found⟩
  case directory =>
    intro value held present
    obtain ⟨text, same, located, custom⟩ := carries.directory value held present
    refine ⟨text, same, (Environment.canonical_locate absolute text).isAbsolute, located, ?_⟩
    rw [directories]
    simp only [assembled, custom, Option.toList_some, List.cons_append, List.head?_cons]
  case fallback =>
    rw [directories]
    exact List.getLast?_concat
  case templates =>
    intro value held present
    obtain ⟨items, same, listed⟩ := carries.templates value held present
    refine ⟨items, same, fun item member => ?_⟩
    obtain ⟨name, asked, text⟩ := listed item member
    refine ⟨name, ?_, text⟩
    rw [statics]
    exact mem_sortedNames.mpr (List.mem_append_right _ asked)
  case own =>
    intro key value undeclared held
    have other : key ≠ "name" := by rintro rfl; exact undeclared (by decide)
    have place : key ≠ "locale" := by rintro rfl; exact undeclared (by decide)
    rw [layered other place, carries.vars key undeclared, held, Option.some_or]
  case reserved =>
    -- a declared setting is no variable of the user's, so only the chain is left to have the key
    refine ⟨chain, title ▸ ascent, distinct, fun key member => ?_⟩
    have declared : key ∈ Rule.themeSettings.names := by
      revert key
      decide
    have other : key ≠ "name" := by rintro rfl; simp at member
    have place : key ≠ "locale" := by rintro rfl; simp at member
    rw [layered other place, carries.apart key declared, Option.none_or]

end Theme

namespace Rule

/-- A theme honours what it was made from. A text is the same as settings with only that name, and
settings without a name are the same as those with the name of the default. -/
theorem coerce_theme_honours {registry : Registry} (once : registry.NamesVarsOnce)
    {environment : Environment} (rooted : environment.Rooted) (base : Path) (key : String)
    (default : Option Value) :
    let coerce := fun raw => (themeOf registry).coerce ⟨environment, base, key, default⟩ (.data raw)
    (∀ raw coerced, (ThemeSettings.given raw).keys.Nodup → (coerce raw).result = .ok coerced →
      ∃ theme, coerced = .theme theme ∧ theme.Honours registry environment
        (environment.absolute base) default (ThemeSettings.given raw)) ∧
      (∀ name, coerce (.text name) = coerce (.object (.ofList [("name", .text name)]))) ∧
      ∀ members name, members.contains "name" = false → default = some (.text name) →
        coerce (.object members) = coerce (.object (members.insert "name" (.text name))) := by
  intro coerce
  refine ⟨fun raw coerced distinct done => ?honours, fun name => ?short, ?unnamed⟩
  case honours =>
    obtain ⟨members, theme, normal, faultless, resolved, rfl⟩ := (coerce_theme_eq_ok _).mp done
    have absolute := (Environment.canonical_absolute rooted base).isAbsolute
    have carries := ThemeSettings.carries_given normal distinct faultless
    exact ⟨theme, rfl, Theme.honours_of_resolve once absolute carries resolved⟩
  case short =>
    show (themeOf registry).coerce _ _ = (themeOf registry).coerce _ _
    rw [coerce_theme, coerce_theme]
    rfl
  case unnamed =>
    intro members name unnamed default
    have named : (members.insert "name" (.text name)).contains "name" = true := by
      simp [OrderedMap.contains]
    show (themeOf registry).coerce _ _ = (themeOf registry).coerce _ _
    rw [coerce_theme, coerce_theme]
    simp only [ThemeSettings.normalize, unnamed, named, default, if_true, Bool.false_eq_true,
      if_false, Option.bind_some, Value.text?]

end Rule

def OrderedMap.overridden : OrderedMap Value :=
  .ofList [("custom_dir", .text "./overrides"), ("static_templates", .list [.text "about.html"]),
    ("locale", .text "pt_br"), ("logo", .null)]

def Context.overridden : Context := ⟨.bare, ⟨"/srv/site"⟩, "theme", some (.text "dark")⟩

def Config.overridden : Config :=
  nested Rule.themeSettings ⟨"/srv/site"⟩ (OrderedMap.overridden.insert "name" (.text "dark"))

theorem Config.overridden_validated :
    (overridden.validate .bare).report.errors = [] ∧
      (overridden.validate .bare).config.text? "name" = some "dark" ∧
      (overridden.validate .bare).config.text? "locale" = some "pt_br" := by
  decide +kernel

theorem Rule.overridden_resolves : ∃ coerced,
    ((themeOf .tinted).coerce .overridden (.data (.object .overridden))).result = .ok coerced := by
  obtain ⟨faultless, named, place⟩ := Config.overridden_validated
  generalize settings_eq : ThemeSettings.ofConfig (Config.overridden.validate .bare).config
    ((OrderedMap.overridden.insert "name" (.text "dark")).filterKeys Theme.isVariable) = settings
  have reads : Theme.LocaleReads settings [.dark, .plain] := by
    subst settings_eq
    intro text decided
    simp only [Theme.localeText?, ThemeSettings.ofConfig, place, Option.some_or,
      Option.some.injEq] at decided
    subst decided
    decide
  obtain ⟨locale, assembled⟩ := Theme.assemble_of_reads reads Registry.tinted.fallback
  have titled : settings.name = some "dark" := by
    subst settings_eq
    exact named
  have resolved := (Theme.resolve_of_chain titled Registry.tinted_chain).trans assembled
  exact ⟨_, (coerce_theme_eq_ok _).mpr ⟨_, _, rfl, faultless, settings_eq ▸ resolved, rfl⟩⟩

theorem Rule.overridden_honours :
    Registry.tinted.NamesVarsOnce ∧ Environment.bare.Rooted ∧ OrderedMap.overridden.keys.Nodup ∧
      ∃ theme, ((themeOf .tinted).coerce .overridden (.data (.object .overridden))).result =
          .ok (.theme theme) ∧
        theme.name = some "dark" ∧
        theme.directories.head? = some ⟨"/srv/site/overrides"⟩ ∧
        theme.directories.getLast? = some ⟨"/templates"⟩ ∧
        "about.html" ∈ theme.staticTemplates ∧ theme.vars.get? "logo" = some .null ∧
        theme.vars.get? "custom_dir" = none := by
  have distinct : OrderedMap.overridden.keys.Nodup := OrderedMap.nodup_keys_ofList _
  obtain ⟨honours, _⟩ := coerce_theme_honours Registry.tinted_once Environment.bare_rooted
    ⟨"/srv/site"⟩ "theme" (some (.text "dark"))
  obtain ⟨coerced, done⟩ := overridden_resolves
  obtain ⟨theme, rfl, honoured⟩ := honours (.object .overridden) coerced distinct done
  have name : theme.name = some "dark" := by
    have named := honoured.named
    cases held : theme.name with
    | none =>
      rw [held] at named
      cases named
    | some name =>
      rw [held] at named
      cases named
      rfl
  obtain ⟨_, ⟨⟩, _, _, head⟩ := honoured.directory (.text "./overrides") rfl rfl
  obtain ⟨_, ⟨⟩, listed⟩ := honoured.templates (.list [.text "about.html"]) rfl rfl
  obtain ⟨_, member, ⟨⟩⟩ := listed _ List.mem_cons_self
  obtain ⟨chain, ascent, once, inherited⟩ := honoured.reserved
  rw [name] at ascent
  cases (Registry.chain_eq_iff.mpr (.complete ⟨ascent, once⟩)).symm.trans Registry.tinted_chain
  refine ⟨Registry.tinted_once, Environment.bare_rooted, distinct, theme, done, name, head.trans ?_,
    honoured.fallback, member, honoured.own "logo" .null (by decide) rfl, ?_⟩
  · exact congrArg some (by decide +kernel)
  · exact (inherited "custom_dir" (by decide)).trans (by decide)

end SiteSettings
