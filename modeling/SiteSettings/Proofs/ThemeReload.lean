import SiteSettings.Proofs.Composite
import SiteSettings.Proofs.LocaleText

/-! A theme lowered to its variables can be resolved again: the variables hold its name
and its locale, and merging them over the same chain of themes restores them all. -/

namespace SiteSettings

namespace ThemeSettings

def nameValue (settings : ThemeSettings) : Value := (settings.name.map Value.text).getD .null

/-- Name and locale aside, no variable of the user's is named like a setting. -/
def Clear (settings : ThemeSettings) : Prop :=
  ∀ key ∈ Rule.themeSettings.names, key ≠ "name" → key ≠ "locale" → settings.vars.get? key = none

theorem Apart.clear {settings : ThemeSettings} (apart : settings.Apart) : settings.Clear :=
  fun key declared _ _ => apart key declared

end ThemeSettings

namespace Theme

def finalVars (settings : ThemeSettings) (chain : List Manifest) (locale : Locale) :
    OrderedMap Value :=
  ((layeredVars settings.nameValue chain settings.vars).insert "name" settings.nameValue).insert
    "locale" (.text locale.print)

def assembled (settings : ThemeSettings) (chain : List Manifest) (fallback : Fallback)
    (locale : Locale) : Theme where
  name := settings.name
  customDirectory := settings.customDirectory
  directories :=
    settings.customDirectory.toList ++ chain.map Manifest.directory ++ [fallback.directory]
  staticTemplates := sortedNames
    (fallback.staticTemplates ++ chain.flatMap Manifest.staticTemplates ++ settings.staticTemplates)
  vars := finalVars settings chain locale
  locale := locale

variable {registry : Registry} {settings : ThemeSettings} {theme : Theme}

theorem assemble_eq (chain : List Manifest) (fallback : Fallback) :
    assemble settings chain fallback =
      match localeText? settings (layeredVars settings.nameValue chain settings.vars) with
      | none => .ok (assembled settings chain fallback .english)
      | some text =>
        match Locale.parse? text with
        | some locale => .ok (assembled settings chain fallback locale)
        | none => .error (.invalidLocale text) := by
  unfold assemble
  simp only [ThemeSettings.nameValue]
  cases localeText? settings (layeredVars ((settings.name.map Value.text).getD .null) chain
    settings.vars) with
  | none => rfl
  | some text => cases parsed : Locale.parse? text <;> simp only [parsed] <;> rfl

theorem assemble_eq_ok {chain : List Manifest} {fallback : Fallback}
    (done : assemble settings chain fallback = .ok theme) :
    theme.locale.Proper ∧ theme = assembled settings chain fallback theme.locale := by
  rw [assemble_eq] at done
  split at done
  · cases done
    exact ⟨Locale.proper_english, rfl⟩
  next text _ =>
    split at done
    next locale read =>
      cases done
      exact ⟨Locale.proper_of_parse? read, rfl⟩
    next => cases done

theorem assemble_of_locale {chain : List Manifest} {fallback : Fallback} {locale : Locale}
    (given : settings.locale = some locale.print) (proper : locale.Proper) :
    assemble settings chain fallback = .ok (assembled settings chain fallback locale) := by
  simp only [assemble_eq, localeText?, given, Option.some_or, Locale.parse?_print proper]

def chain? (registry : Registry) (settings : ThemeSettings) : Except ThemeError (List Manifest) :=
  match settings.name with
  | some name => registry.chain name
  | none => pure []

theorem resolve_eq_ok : resolve registry settings = .ok theme ↔
    ∃ chain, chain? registry settings = .ok chain ∧
      assemble settings chain registry.fallback = .ok theme := by
  unfold resolve chain?
  cases settings.name with
  | none => simp [pure, Except.pure, bind, Except.bind]
  | some name => cases chained : registry.chain name <;> simp [chained, bind, Except.bind]

def inheritedVars (settings : ThemeSettings) (chain : List Manifest) : OrderedMap Value :=
  chain.reverse.foldl (fun vars manifest => vars.merge manifest.vars)
    (.ofList [("name", settings.nameValue), ("locale", .text "en")])

theorem layeredVars_eq (settings : ThemeSettings) (chain : List Manifest) :
    layeredVars settings.nameValue chain settings.vars =
      (inheritedVars settings chain).merge settings.vars := rfl

theorem prefix_inheritedVars (settings : ThemeSettings) (chain : List Manifest) :
    ["name", "locale"] <+: (inheritedVars settings chain).keys := by
  have grows (manifests : List Manifest) (start : OrderedMap Value) :
      start.keys <+: (manifests.foldl (fun vars manifest => vars.merge manifest.vars) start).keys := by
    induction manifests generalizing start with
    | nil => exact List.prefix_refl _
    | cons manifest rest ih => exact (start.keys_prefix_merge manifest.vars).trans (ih _)
  have start : (OrderedMap.ofList [("name", settings.nameValue), ("locale", .text "en")]).keys =
      ["name", "locale"] := by
    simp [OrderedMap.ofList, OrderedMap.merge, OrderedMap.keys_insert]
  exact start ▸ grows chain.reverse _

theorem nodup_inheritedVars (settings : ThemeSettings) (chain : List Manifest) :
    (inheritedVars settings chain).keys.Nodup := by
  have keeps (manifests : List Manifest) (start : OrderedMap Value) (distinct : start.keys.Nodup) :
      (manifests.foldl (fun vars manifest => vars.merge manifest.vars) start).keys.Nodup := by
    induction manifests generalizing start with
    | nil => exact distinct
    | cons manifest rest ih => exact ih _ (OrderedMap.nodup_keys_merge distinct manifest.vars)
  exact keeps chain.reverse _ (OrderedMap.nodup_keys_ofList _)

/-- Name and locale keep their places among the variables. -/
theorem keys_finalVars (settings : ThemeSettings) (chain : List Manifest) (locale : Locale) :
    (finalVars settings chain locale).keys =
      ((inheritedVars settings chain).merge settings.vars).keys := by
  have extends_ := (prefix_inheritedVars settings chain).trans
    ((inheritedVars settings chain).keys_prefix_merge settings.vars)
  have name := extends_.subset (List.mem_cons_self (a := "name"))
  have place := extends_.subset (List.mem_cons_of_mem "name" (List.mem_cons_self (a := "locale")))
  rw [finalVars, layeredVars_eq, OrderedMap.keys_insert, OrderedMap.keys_insert, if_pos name,
    if_pos place]

theorem nodup_finalVars (settings : ThemeSettings) (chain : List Manifest) (locale : Locale) :
    (finalVars settings chain locale).keys.Nodup := by
  rw [keys_finalVars]
  exact OrderedMap.nodup_keys_merge (nodup_inheritedVars settings chain) settings.vars

theorem get?_finalVars (settings : ThemeSettings) (chain : List Manifest) (locale : Locale)
    (key : String) :
    (finalVars settings chain locale).get? key =
      if key = "locale" then some (.text locale.print)
      else if key = "name" then some settings.nameValue
      else ((inheritedVars settings chain).merge settings.vars).get? key := by
  rw [finalVars, layeredVars_eq, OrderedMap.get?_insert, OrderedMap.get?_insert]

section Again

variable {again : ThemeSettings} {chain : List Manifest} {locale : Locale}

theorem inheritedVars_again (name : again.name = settings.name) :
    inheritedVars again chain = inheritedVars settings chain := by
  simp only [inheritedVars, ThemeSettings.nameValue, name]

variable (clear : settings.Clear) (name : again.name = settings.name)
  (vars : again.vars = (finalVars settings chain locale).filterKeys isVariable)

include clear name vars

theorem keys_finalVars_again :
    (finalVars again chain locale).keys = (finalVars settings chain locale).keys := by
  have extends_ : (inheritedVars settings chain).keys <+: (finalVars settings chain locale).keys := by
    rw [keys_finalVars]
    exact OrderedMap.keys_prefix_merge ..
  rw [keys_finalVars, inheritedVars_again name, vars]
  apply OrderedMap.keys_merge_filterKeys (nodup_finalVars settings chain locale) extends_
  intro key member fresh
  rw [keys_finalVars, OrderedMap.mem_keys_merge] at member
  have own : key ∈ settings.vars.keys := member.resolve_left fresh
  have reserved := (prefix_inheritedVars settings chain).subset
  have title : key ≠ "name" := by
    rintro rfl
    exact fresh (reserved (by decide))
  have place : key ≠ "locale" := by
    rintro rfl
    exact fresh (reserved (by decide))
  -- any other declared key is no variable of the user's, so it cannot be new
  by_cases declared : key ∈ Rule.themeSettings.names
  · exact absurd own (OrderedMap.get?_eq_none_iff.mp (clear key declared title place))
  · simp [isVariable, declared]

theorem get?_finalVars_again (key : String) :
    (finalVars again chain locale).get? key = (finalVars settings chain locale).get? key := by
  have distinct : ((finalVars settings chain locale).filterKeys isVariable).keys.Nodup := by
    rw [OrderedMap.keys_filterKeys]
    exact (nodup_finalVars settings chain locale).filter _
  have names : again.nameValue = settings.nameValue := by
    simp only [ThemeSettings.nameValue, name]
  have read := get?_finalVars settings chain locale key
  rw [get?_finalVars, names, inheritedVars_again name, vars, OrderedMap.get?_merge,
    OrderedMap.ofList_entries distinct, OrderedMap.get?_filterKeys]
  by_cases place : key = "locale"
  · rw [if_pos place, read, if_pos place]
  by_cases title : key = "name"
  · rw [if_neg place, if_pos title, read, if_neg place, if_pos title]
  rw [if_neg place, if_neg title]
  by_cases variable_ : isVariable key = true
  · rw [if_pos variable_]
    cases found : (finalVars settings chain locale).get? key with
    | some value => rfl
    | none =>
      have missing := OrderedMap.get?_eq_none_iff.mp found
      rw [keys_finalVars, OrderedMap.mem_keys_merge] at missing
      exact OrderedMap.get?_eq_none_iff.mpr fun inside => missing (.inl inside)
  · have declared : key ∈ Rule.themeSettings.names := by simpa [isVariable] using variable_
    have not_own := OrderedMap.get?_eq_none_iff.mp (clear key declared title place)
    have not_listed : (OrderedMap.ofList settings.vars.entries).get? key = none :=
      OrderedMap.get?_eq_none_iff.mpr fun inside => not_own (OrderedMap.mem_keys_ofList.mp inside)
    rw [if_neg variable_, read, if_neg place, if_neg title, OrderedMap.get?_merge, not_listed]

/-- The variables of a theme, put over the chain they came from, give these variables again. -/
theorem finalVars_again : finalVars again chain locale = finalVars settings chain locale :=
  OrderedMap.ext_of_keys (nodup_finalVars again chain locale)
    (keys_finalVars_again clear name vars) (get?_finalVars_again clear name vars)

end Again

/-- Resolving the settings that a theme was lowered to gives a theme of the same name, locale
and variables. -/
theorem resolve_again {again : ThemeSettings} (clear : settings.Clear)
    (resolved : resolve registry settings = .ok theme) (name : again.name = settings.name)
    (locale : again.locale = some theme.locale.print)
    (vars : again.vars = theme.vars.filterKeys isVariable) :
    ∃ second, resolve registry again = .ok second ∧ second.name = theme.name ∧
      second.locale = theme.locale ∧ second.vars = theme.vars := by
  obtain ⟨chain, chained, done⟩ := resolve_eq_ok.mp resolved
  obtain ⟨proper, shape⟩ := assemble_eq_ok done
  have same : theme.vars = finalVars settings chain theme.locale := congrArg Theme.vars shape
  have named : theme.name = settings.name := congrArg Theme.name shape
  have chained_again : chain? registry again = .ok chain := by
    simpa only [chain?, name] using chained
  refine ⟨_, resolve_eq_ok.mpr ⟨chain, chained_again, assemble_of_locale locale proper⟩,
    name.trans named.symm, rfl, ?_⟩
  rw [same] at vars ⊢
  exact finalVars_again clear name vars

theorem vars_eq_finalVars (resolved : resolve registry settings = .ok theme) :
    ∃ chain, theme.vars = finalVars settings chain theme.locale := by
  obtain ⟨chain, _, done⟩ := resolve_eq_ok.mp resolved
  exact ⟨chain, congrArg Theme.vars (assemble_eq_ok done).2⟩

/-- What no variable of a theme is named, none of the user's is. -/
theorem own_of_resolve (resolved : resolve registry settings = .ok theme) {key : String}
    (name : key ≠ "name") (locale : key ≠ "locale") (free : theme.vars.get? key = none) :
    settings.vars.get? key = none := by
  obtain ⟨chain, same⟩ := vars_eq_finalVars resolved
  rw [same, get?_finalVars, if_neg locale, if_neg name, OrderedMap.get?_eq_none_iff,
    OrderedMap.mem_keys_merge, not_or] at free
  exact OrderedMap.get?_eq_none_iff.mpr free.2

theorem vars_of_resolve (resolved : resolve registry settings = .ok theme) :
    theme.vars.keys.Nodup ∧ theme.vars.get? "name" = some settings.nameValue ∧
      theme.vars.get? "locale" = some (.text theme.locale.print) := by
  obtain ⟨chain, same⟩ := vars_eq_finalVars resolved
  rw [same, get?_finalVars, get?_finalVars]
  exact ⟨nodup_finalVars .., rfl, rfl⟩

end Theme

end SiteSettings
