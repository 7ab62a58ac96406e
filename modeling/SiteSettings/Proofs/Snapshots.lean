import SiteSettings.Proofs.Delivery
import SiteSettings.Proofs.LoweredThemes
import SiteSettings.Proofs.ThemeVariables
import SiteSettings.Proofs.Undeclared

/-! Writing out as plain data, and reading it back. What is written of a configuration lists the
declared keys that have a slot in the order of the schema, and then the others; without themes it
reads back as the same configuration. A theme is written as its variables, and is resolved from
them to the same variables again. -/

namespace SiteSettings

namespace Config

theorem run_extras_keys (schema : Schema) (base : Option Path) (actions : List Action) :
    ((fresh schema base).run actions).extras.keys =
      ((actions.flatMap Action.keys).filter fun key => !schema.declares key).eraseDups := by
  have keys : actions.flatMap Action.keys = (actions.flatMap Action.entries).map Prod.fst := by
    rw [List.map_flatMap]
    exact List.flatMap_congr fun action _ => action.keys_eq
  have start : (OrderedMap.empty : OrderedMap Value).keys = ([] : List String).eraseDups := rfl
  rw [run_extras, keys, List.filter_map]
  exact OrderedMap.keys_merge_eq start ⟨_⟩

/-- The unrecognised keys are those beside the slots, unless the schema passes through. -/
theorem Reachable.unrecognised_eq {schema : Schema} {config : Config}
    (reachable : config.Reachable schema) :
    config.unrecognised = if schema.passthrough then [] else config.extras.keys := by
  obtain ⟨base, actions, rfl⟩ := reachable
  rw [run_unrecognised, Schema.strangers, run_extras_keys]

/-- What is written out of a configuration lists the declared keys that have a slot in the order
of the schema, then the other keys in theirs, and each of them once. If no slot holds a theme and
none is of an undeclared key, what is read back has the same slots, and the same keys beside
them. -/
theorem toMembers_reloads {schema : Schema} (distinct : schema.names.Nodup) {config : Config}
    (reachable : config.Reachable schema)
    (plain : ∀ key theme, config.get? key ≠ some (.theme theme))
    (declared : ∀ key, config.get? key ≠ none → key ∈ schema.names) :
    config.toMembers.keys = schema.names.filter config.isStaged ++ config.extras.keys ∧
      config.toMembers.keys.Nodup ∧
      ∃ reloaded, ofDocument schema (.object config.toMembers) = .ok reloaded ∧
        (∀ key, reloaded.get? key = config.get? key) ∧ reloaded.extras = config.extras ∧
        reloaded.unrecognised = config.unrecognised := by
  obtain rfl := reachable.schema_eq
  have tidy := reachable.tidy
  have extras : ((new config.schema).loadMembers config.toMembers).extras = config.extras :=
    reloaded_extras distinct tidy (new config.schema) rfl rfl
  refine ⟨keys_toMembers distinct tidy, nodup_toMembers config, _, rfl, fun key => ?_, extras, ?_⟩
  · rw [get?_reloaded distinct tidy (new config.schema) rfl rfl]
    cases found : config.get? key with
    | none => simp
    | some setting =>
      have member : key ∈ config.schema.names := declared key (by simp [found])
      cases setting with
      | data value => simp [member, Setting.toValue]
      | theme theme => exact absurd found (plain key theme)
  -- What is read back is reachable as well, by one load.
  · have again : ((new config.schema).loadMembers config.toMembers).Reachable config.schema :=
      ⟨none, [.load (.object config.toMembers)], rfl⟩
    rw [again.unrecognised_eq, extras, reachable.unrecognised_eq]

end Config

/-- What is moved to the title comes before the directory in the slots, but not in the schema. -/
def Schema.retitled : Schema where
  fields := [
    ⟨"docs", .directory false, some (.text "docs"), false⟩,
    ⟨"heading", .deprecated ⟨some "title", none⟩ none, none, false⟩,
    ⟨"title", .type .text none, none, false⟩]
  passthrough := false

theorem Config.retitled_reloads :
    let actions := [Action.load (.ofMembers [("b", .null), ("heading", .text "x"), ("a", .text "y")]),
      .validate .bare]
    let config := (fresh .retitled none).run actions
    Schema.retitled.names.Nodup ∧ config.Reachable .retitled ∧
      (∀ key theme, config.get? key ≠ some (.theme theme)) ∧
      (∀ key, config.get? key ≠ none → key ∈ Schema.retitled.names) ∧
      config.slots.keys = ["title", "docs"] ∧ config.toMembers.keys = ["docs", "title", "b", "a"] ∧
      ∃ reloaded, ofDocument .retitled (.object config.toMembers) = .ok reloaded ∧
        reloaded.text? "title" = some "x" ∧ reloaded.unrecognised = ["b", "a"] := by
  intro actions config
  have distinct : Schema.retitled.names.Nodup := by decide
  have reachable : config.Reachable .retitled := ⟨none, actions, rfl⟩
  have slots : config.slots.keys = ["title", "docs"] := by decide +kernel
  have listed (key : String) (filled : config.get? key ≠ none) : key ∈ ["title", "docs"] := by
    rw [← slots, ← OrderedMap.get?_isSome_iff]
    exact Option.isSome_iff_ne_none.mpr filled
  have plain : ∀ key theme, config.get? key ≠ some (.theme theme) := by
    intro key theme held
    have bare : ["title", "docs"].all (fun key => (config.theme? key).isNone) = true := by
      decide +kernel
    have none := List.all_eq_true.mp bare key (listed key (by simp [held]))
    simp [theme?, held, Setting.theme?] at none
  have declared : ∀ key, config.get? key ≠ none → key ∈ Schema.retitled.names := by
    intro key filled
    have inside : ["title", "docs"] ⊆ Schema.retitled.names := by decide
    exact inside (listed key filled)
  obtain ⟨keys, _, reloaded, read, same, _, unrecognised⟩ :=
    toMembers_reloads distinct reachable plain declared
  refine ⟨distinct, reachable, plain, declared, slots, keys.trans (by decide +kernel), reloaded,
    read, ?_, unrecognised.trans (by decide +kernel)⟩
  have moved : config.text? "title" = some "x" := by decide +kernel
  rw [text?, same]
  exact moved

namespace Rule

/-- A theme that was written out as its variables is resolved from them to a theme of the same
name, locale and variables, from any base directory and with any default, unless one of the
variables is named like the custom directory or the static templates. -/
theorem coerce_theme_lowered {registry : Registry} {settings : ThemeSettings} {theme : Theme}
    (resolved : Theme.resolve registry settings = .ok theme)
    (directory : theme.vars.get? "custom_dir" = none)
    (templates : theme.vars.get? "static_templates" = none) (context : Context) :
    ∃ again : Theme, ((themeOf registry).coerce context
        (.data (Setting.theme theme).toValue)).result = .ok (.theme again) ∧
      again.name = theme.name ∧ again.locale = theme.locale ∧ again.vars = theme.vars := by
  have clear : settings.Clear := by
    intro key declared name locale
    apply Theme.own_of_resolve resolved name locale
    simp only [Schema.names, themeSettings, List.map_cons, List.map_nil, List.mem_cons,
      List.not_mem_nil, or_false] at declared
    rcases declared with rfl | rfl | rfl | rfl
    · exact absurd rfl name
    · exact directory
    · exact templates
    · exact absurd rfl locale
  have reloads : ThemeSettings.Reloads context.environment
      (context.environment.absolute context.base) theme.vars := by
    constructor <;> simp [directory, templates]
  exact coerce_lowered resolved clear context reloads

/-- The default is not asked for, as the variables have the name. -/
theorem tinted_theme_lowered :
    let theme := Theme.assembled .tinted [.dark, .plain] Registry.tinted.fallback ⟨"de", none, none⟩
    Theme.resolve .tinted .tinted = .ok theme ∧ theme.vars.get? "custom_dir" = none ∧
      theme.vars.get? "static_templates" = none ∧
      ∃ again : Theme, ((themeOf .tinted).coerce ⟨.bare, ⟨"sub"⟩, "theme", some (.text "plain")⟩
          (.data (Setting.theme theme).toValue)).result = .ok (.theme again) ∧
        again.name = some "dark" ∧ again.locale.print = "de" ∧
        again.vars.keys = ["name", "locale", "color", "width", "contrast", "logo"] ∧
        again.vars.get? "width" = some (.text "wide") := by
  intro theme
  have proper : Locale.Proper ⟨"de", none, none⟩ :=
    Locale.proper_of_parse? (by decide : Locale.parse? "de" = some ⟨"de", none, none⟩)
  have named : ThemeSettings.tinted.name = some "dark" := rfl
  have resolved : Theme.resolve .tinted .tinted = .ok theme :=
    (Theme.resolve_of_chain named Registry.tinted_chain).trans (Theme.assemble_of_locale rfl proper)
  have directory : theme.vars.get? "custom_dir" = none := by decide
  have templates : theme.vars.get? "static_templates" = none := by decide
  obtain ⟨again, done, name, locale, vars⟩ := coerce_theme_lowered resolved directory templates
    ⟨.bare, ⟨"sub"⟩, "theme", some (.text "plain")⟩
  refine ⟨resolved, directory, templates, again, done, name, ?_, ?_, ?_⟩
  · rw [locale]
    rfl
  · rw [vars]
    decide
  · rw [vars]
    rfl

end Rule

end SiteSettings
