import SiteSettings.Proofs.LocaleGrammar
import SiteSettings.Proofs.ThemeVariables

/-! Which locale a theme gets. The user's setting decides, else the nearest variable called
`locale`, the user's own before those of the themes. A text must be a locale, and anything else
hides what lies under it and stands for English. -/

namespace SiteSettings

namespace Theme

variable {registry : Registry} {settings : ThemeSettings} {chain : List Manifest} {theme : Theme}

def localeEntry (settings : ThemeSettings) (chain : List Manifest) : Value :=
  (((settings.locale.map Value.text).or (settings.vars.get? "locale")).or
    (chain.findSome? fun manifest => manifest.vars.get? "locale")).getD (.text "en")

theorem localeText?_eq (once : registry.NamesVarsOnce) (own : settings.vars.keys.Nodup)
    (ascent : registry.Ascent settings.name chain none) :
    localeText? settings (layeredVars settings.nameValue chain settings.vars) =
      (localeEntry settings chain).text? := by
  have reserved : (OrderedMap.ofList [("name", settings.nameValue),
      ("locale", Value.text "en")]).get? "locale" = some (.text "en") := rfl
  rw [localeText?, layeredVars_eq, get?_merged once own ascent, reserved, localeEntry]
  cases settings.locale with
  | some text => rfl
  | none =>
    rw [Option.map_none, Option.none_or, Option.none_or]
    cases (settings.vars.get? "locale").or
      (chain.findSome? fun manifest => manifest.vars.get? "locale") <;> rfl

theorem resolve_of_lineage (ascent : registry.Ascent settings.name chain none)
    (distinct : Registry.Distinct chain) :
    resolve registry settings = assemble settings chain registry.fallback := by
  cases named : settings.name with
  | none =>
    rw [named] at ascent
    cases ascent
    simp only [resolve, named]
    rfl
  | some name =>
    rw [named] at ascent
    exact resolve_of_chain named (Registry.chain_eq_iff.mpr (.complete ⟨ascent, distinct⟩))

/-- The locale of a theme follows from the entry that decides it: a text is read as a locale, or
rejected as it is if it is none, and anything else stands for English. A theme has the printed
locale among its variables, from where it can be read again. -/
theorem resolved_locale_decided (once : registry.NamesVarsOnce) (own : settings.vars.keys.Nodup)
    (ascent : registry.Ascent settings.name chain none) (distinct : Registry.Distinct chain) :
    (∀ text, localeEntry settings chain = .text text →
        (∀ error, resolve registry settings = .error error ↔
          error = .invalidLocale text ∧ Locale.parse text = .error text) ∧
        ∀ locale, Locale.parse text = .ok locale ↔
          ∃ theme, resolve registry settings = .ok theme ∧ theme.locale = locale) ∧
      ((∀ text, localeEntry settings chain ≠ .text text) →
        ∃ theme, resolve registry settings = .ok theme ∧ theme.locale = .english) ∧
      ∀ theme, resolve registry settings = .ok theme →
        theme.vars.get? "locale" = some (.text theme.locale.print) ∧
          Locale.parse theme.locale.print = .ok theme.locale := by
  have assembled := resolve_of_lineage ascent distinct
  rw [assemble_eq, localeText?_eq once own ascent] at assembled
  refine ⟨fun text entry => ?_, fun other => ?_, fun theme resolved => ?_⟩
  · rw [assembled, entry, Locale.parse]
    simp only [Value.text?]
    cases Locale.parse? text with
    | none => simp [eq_comm]
    | some locale => simp [Theme.assembled, eq_comm]
  · have silent : (localeEntry settings chain).text? = none := by
      cases entry : localeEntry settings chain with
      | text text => exact absurd entry (other text)
      | _ => rfl
    rw [assembled, silent]
    exact ⟨_, rfl, rfl⟩
  · obtain ⟨_, _, written⟩ := vars_of_resolve resolved
    obtain ⟨_, _, _, proper, _⟩ := shape_of_resolve resolved
    exact ⟨written, Locale.parse_eq_ok.mpr (Locale.parse?_print proper)⟩

end Theme

def Registry.localized : Registry :=
  let theme (name : String) (parent : Option String) (vars : List (String × Value)) : Manifest :=
    ⟨name, ⟨"/themes/" ++ name⟩, parent, [], .ofList vars⟩
  ((((InstalledThemes.empty ⟨"/templates"⟩).register
    (theme "alpine" none [("locale", .text "de-at")])).register
    (theme "mute" (some "alpine") [("locale", .null)])).register
    (theme "slate" (some "alpine") [])).toRegistry

theorem Registry.localized_once : localized.NamesVarsOnce :=
  NamesVarsOnce.register (NamesVarsOnce.register (NamesVarsOnce.register NamesVarsOnce.empty
    (OrderedMap.nodup_keys_ofList _)) (OrderedMap.nodup_keys_ofList _))
    (OrderedMap.nodup_keys_ofList _)

/-- The locale of the parent shows through a theme that has none, but not through one whose locale
is null. The user's variable hides both, and the user's setting hides that variable. -/
theorem Theme.localized_decided :
    let asks (name : String) (locale : Option String) (vars : List (String × Value)) :
      ThemeSettings := ⟨some name, none, [], locale, .ofList vars⟩
    Registry.localized.NamesVarsOnce ∧
      (∃ theme, resolve .localized (asks "slate" none []) = .ok theme ∧
        theme.locale = ⟨"de", none, some "AT"⟩ ∧
        theme.vars.get? "locale" = some (.text "de_AT")) ∧
      (∃ theme, resolve .localized (asks "mute" none []) = .ok theme ∧
        theme.locale = .english) ∧
      (∃ theme, resolve .localized (asks "mute" none [("locale", .text "pt_br")]) = .ok theme ∧
        theme.locale = ⟨"pt", none, some "BR"⟩) ∧
      resolve .localized (asks "slate" (some "no locale") [("locale", .text "pt_br")]) =
        .error (.invalidLocale "no locale") := by
  intro asks
  have once : Registry.localized.NamesVarsOnce := Registry.localized_once
  have own (name : String) (locale : Option String) (vars : List (String × Value)) :
      (asks name locale vars).vars.keys.Nodup := OrderedMap.nodup_keys_ofList _
  refine ⟨once, ?inherited, ?hidden, ?own, ?set⟩
  case inherited =>
    obtain ⟨read, _, written⟩ := resolved_locale_decided once (own "slate" none [])
      (.climb rfl (.climb rfl (.stay _))) (by simp [Registry.Distinct])
    obtain ⟨_, reads⟩ := read "de-at" rfl
    obtain ⟨theme, resolved, locale⟩ := (reads ⟨"de", none, some "AT"⟩).mp (by decide)
    refine ⟨theme, resolved, locale, ?_⟩
    rw [(written theme resolved).1, locale]
    rfl
  case hidden =>
    obtain ⟨_, other, _⟩ := resolved_locale_decided once (own "mute" none [])
      (.climb rfl (.climb rfl (.stay _))) (by simp [Registry.Distinct])
    exact other (by rintro text ⟨⟩)
  case own =>
    obtain ⟨read, _⟩ := resolved_locale_decided once (own "mute" none [("locale", .text "pt_br")])
      (.climb rfl (.climb rfl (.stay _))) (by simp [Registry.Distinct])
    obtain ⟨_, reads⟩ := read "pt_br" rfl
    exact (reads ⟨"pt", none, some "BR"⟩).mp (by decide)
  case set =>
    obtain ⟨read, _⟩ := resolved_locale_decided once
      (own "slate" (some "no locale") [("locale", .text "pt_br")])
      (.climb rfl (.climb rfl (.stay _))) (by simp [Registry.Distinct])
    obtain ⟨rejects, _⟩ := read "no locale" rfl
    exact (rejects _).mpr ⟨rfl, by decide⟩

end SiteSettings
