import SiteSettings.Proofs.ThemeAncestry

/-! Which variables a theme ends up with, and in which order. Layers are put over each other
from the farthest ancestor to the user: the last one that has a key gives it its value, and
the first one its place. -/

namespace SiteSettings

namespace OrderedMap

variable {α : Type} {map : OrderedMap α} {layers : List (OrderedMap α)}

theorem get?_foldl_merge (distinct : ∀ layer ∈ layers, layer.keys.Nodup) (key : String) :
    (layers.foldl merge map).get? key =
      (layers.reverse.findSome? fun layer => layer.get? key).or (map.get? key) := by
  induction layers generalizing map with
  | nil => rfl
  | cons layer rest ih =>
    obtain ⟨here, later⟩ := List.forall_mem_cons.mp distinct
    rw [List.foldl_cons, ih later, get?_merge, ofList_entries here, List.reverse_cons,
      List.findSome?_append, Option.or_assoc]
    congr 1
    cases held : layer.get? key <;> simp [held]

theorem keys_foldl_merge {seen : List String} (first : map.keys = seen.eraseDups) :
    (layers.foldl merge map).keys = (seen ++ layers.flatMap keys).eraseDups := by
  induction layers generalizing map seen with
  | nil => exact first.trans (congrArg _ (List.append_nil seen).symm)
  | cons layer rest ih =>
    rw [List.foldl_cons, ih (keys_merge_eq first layer), List.flatMap_cons, List.append_assoc]

end OrderedMap

def Registry.NamesVarsOnce (registry : Registry) : Prop :=
  ∀ {key manifest}, registry.lookup key = .ok manifest → manifest.vars.keys.Nodup

namespace Registry.NamesVarsOnce

theorem empty {templates : Path} : (InstalledThemes.empty templates).toRegistry.NamesVarsOnce :=
  nofun

theorem register {installed : InstalledThemes} {manifest : Manifest}
    (once : installed.toRegistry.NamesVarsOnce) (own : manifest.vars.keys.Nodup) :
    (installed.register manifest).toRegistry.NamesVarsOnce := by
  intro key other found
  have held : (installed.register manifest).themes.get? key = some other :=
    InstalledThemes.lookup_eq_ok_iff.mp found
  rw [InstalledThemes.register, OrderedMap.get?_insert] at held
  split at held
  · cases held
    exact own
  · exact once (InstalledThemes.lookup_eq_ok_iff.mpr held)

end Registry.NamesVarsOnce

namespace Theme

variable {registry : Registry} {settings : ThemeSettings} {theme : Theme} {chain : List Manifest}

/-- The variables that are put over the reserved ones, the farthest ancestor's first. -/
def layers (settings : ThemeSettings) (chain : List Manifest) : List (OrderedMap Value) :=
  chain.reverse.map Manifest.vars ++ [settings.vars]

theorem inheritedVars_merge_eq (settings : ThemeSettings) (chain : List Manifest) :
    (inheritedVars settings chain).merge settings.vars =
      (layers settings chain).foldl OrderedMap.merge
        (.ofList [("name", settings.nameValue), ("locale", .text "en")]) := by
  rw [inheritedVars, layers, List.foldl_append, List.foldl_map]
  rfl

theorem lineage_of_chain? (chained : chain? registry settings = .ok chain) :
    registry.Ascent settings.name chain none ∧ Registry.Distinct chain := by
  unfold chain? at chained
  cases named : settings.name with
  | none =>
    rw [named] at chained
    cases chained
    exact ⟨.stay none, List.nodup_nil⟩
  | some name =>
    rw [named] at chained
    cases Registry.chain_eq_iff.mp chained with
    | complete lineage => exact lineage

theorem get?_merged (once : registry.NamesVarsOnce) (own : settings.vars.keys.Nodup)
    (ascent : registry.Ascent settings.name chain none) (key : String) :
    ((inheritedVars settings chain).merge settings.vars).get? key =
      ((settings.vars.get? key).or (chain.findSome? fun manifest => manifest.vars.get? key)).or
        ((OrderedMap.ofList [("name", settings.nameValue), ("locale", .text "en")]).get? key) := by
  have distinct : ∀ layer ∈ layers settings chain, layer.keys.Nodup := by
    intro layer member
    obtain inherited | last := List.mem_append.mp member
    · obtain ⟨manifest, met, rfl⟩ := List.mem_map.mp inherited
      exact once (ascent.found (List.mem_reverse.mp met))
    · rw [List.mem_singleton.mp last]
      exact own
  rw [inheritedVars_merge_eq, OrderedMap.get?_foldl_merge distinct, layers, List.reverse_append,
    List.reverse_singleton, List.singleton_append, List.findSome?_cons, ← List.map_reverse,
    List.reverse_reverse, List.findSome?_map]
  cases settings.vars.get? key <;> rfl

theorem get?_layered (once : registry.NamesVarsOnce) (own : settings.vars.keys.Nodup)
    (ascent : registry.Ascent settings.name chain none) {key : String} (name : key ≠ "name")
    (locale : key ≠ "locale") :
    ((inheritedVars settings chain).merge settings.vars).get? key =
      (settings.vars.get? key).or (chain.findSome? fun manifest => manifest.vars.get? key) := by
  have reserved : (OrderedMap.ofList [("name", settings.nameValue),
      ("locale", Value.text "en")]).get? key = none := by
    rw [OrderedMap.get?_ofList_cons, OrderedMap.get?_ofList_cons, if_neg locale, if_neg name]
    rfl
  rw [get?_merged once own ascent, reserved, Option.or_none]

/-- What a resolved theme consists of, and the chain it was put together from. -/
theorem shape_of_resolve (resolved : resolve registry settings = .ok theme) :
    ∃ chain, registry.Ascent settings.name chain none ∧ Registry.Distinct chain ∧
      theme.locale.Proper ∧
      theme = assembled settings chain registry.fallback theme.locale := by
  obtain ⟨chain, chained, done⟩ := resolve_eq_ok.mp resolved
  obtain ⟨ascent, distinct⟩ := lineage_of_chain? chained
  exact ⟨chain, ascent, distinct, assemble_eq_ok done⟩

theorem get?_vars_of_shape (once : registry.NamesVarsOnce) (own : settings.vars.keys.Nodup)
    (ascent : registry.Ascent settings.name chain none) {fallback : Fallback}
    (shape : theme = assembled settings chain fallback theme.locale) {key : String}
    (name : key ≠ "name") (locale : key ≠ "locale") :
    theme.vars.get? key =
      (settings.vars.get? key).or (chain.findSome? fun manifest => manifest.vars.get? key) := by
  rw [congrArg Theme.vars shape, assembled, get?_finalVars, if_neg locale, if_neg name]
  exact get?_layered once own ascent name locale

theorem keys_layered (settings : ThemeSettings) (chain : List Manifest) :
    ((inheritedVars settings chain).merge settings.vars).keys =
      "name" :: "locale" ::
        (((chain.reverse.flatMap fun manifest => manifest.vars.keys) ++ settings.vars.keys).filter
          fun key => key ≠ "name" ∧ key ≠ "locale").eraseDups := by
  have start : (OrderedMap.ofList [("name", settings.nameValue), ("locale", .text "en")]).keys =
      ["name", "locale"].eraseDups := rfl
  rw [inheritedVars_merge_eq, OrderedMap.keys_foldl_merge start, layers, List.flatMap_append,
    List.flatMap_map, List.flatMap_singleton, List.cons_append, List.cons_append, List.nil_append,
    List.eraseDups_cons, List.filter_cons_of_pos (by decide), List.eraseDups_cons,
    List.filter_filter]
  congr 4
  funext key
  by_cases name : key = "name" <;> by_cases locale : key = "locale" <;> simp [name, locale]

/-- A resolved theme has each variable, the name and the locale apart, from the user if the user
gives it, else from the nearest theme of the chain that does. Name and locale come first, then
the others in the order in which they are met from the farthest ancestor to the user. -/
theorem resolved_vars_layered (once : registry.NamesVarsOnce) (own : settings.vars.keys.Nodup)
    (resolved : resolve registry settings = .ok theme) :
    ∃ chain, registry.Ascent settings.name chain none ∧ Registry.Distinct chain ∧
      (∀ key, key ≠ "name" → key ≠ "locale" → theme.vars.get? key =
        (settings.vars.get? key).or (chain.findSome? fun manifest => manifest.vars.get? key)) ∧
      theme.vars.get? "name" = some ((settings.name.map Value.text).getD .null) ∧
      theme.vars.keys.Nodup ∧
      theme.vars.keys = "name" :: "locale" ::
        (((chain.reverse.flatMap fun manifest => manifest.vars.keys) ++ settings.vars.keys).filter
          fun key => key ≠ "name" ∧ key ≠ "locale").eraseDups := by
  obtain ⟨chain, ascent, distinct, _, shape⟩ := shape_of_resolve resolved
  obtain ⟨unique, named, _⟩ := vars_of_resolve resolved
  refine ⟨chain, ascent, distinct, fun key name locale => ?_, named, unique, ?_⟩
  · exact get?_vars_of_shape once own ascent shape name locale
  · rw [congrArg Theme.vars shape, assembled, keys_finalVars]
    exact keys_layered settings chain

end Theme

def Manifest.plain : Manifest := ⟨"plain", ⟨"/themes/plain"⟩, none, [],
  .ofList [("color", .text "grey"), ("width", .text "narrow"), ("name", .text "Plain")]⟩

def Manifest.dark : Manifest := ⟨"dark", ⟨"/themes/dark"⟩, some "plain", [],
  .ofList [("contrast", .null), ("color", .text "black")]⟩

def Registry.tinted : Registry :=
  (((InstalledThemes.empty ⟨"/templates"⟩).register .plain).register .dark).toRegistry

theorem Registry.tinted_once : tinted.NamesVarsOnce :=
  NamesVarsOnce.register (NamesVarsOnce.register NamesVarsOnce.empty
    (OrderedMap.nodup_keys_ofList _)) (OrderedMap.nodup_keys_ofList _)

theorem Registry.tinted_chain : tinted.chain "dark" = .ok [.dark, .plain] := by
  refine chain_eq_iff.mpr (.complete ⟨.climb rfl (.climb rfl (.stay _)), ?_⟩)
  simp [Distinct, Manifest.dark, Manifest.plain]

def ThemeSettings.tinted : ThemeSettings :=
  ⟨some "dark", none, [], some "de", .ofList [("logo", .null), ("width", .text "wide")]⟩

theorem Theme.tinted_vars :
    Registry.tinted.NamesVarsOnce ∧ ThemeSettings.tinted.vars.keys.Nodup ∧
      ∃ theme, resolve .tinted .tinted = .ok theme ∧
        theme.vars.get? "color" = some (.text "black") ∧
        theme.vars.get? "width" = some (.text "wide") ∧
        theme.vars.get? "contrast" = some .null ∧ theme.vars.get? "font" = none ∧
        theme.vars.get? "name" = some (.text "dark") ∧
        theme.vars.keys = ["name", "locale", "color", "width", "contrast", "logo"] := by
  have own : ThemeSettings.tinted.vars.keys.Nodup := OrderedMap.nodup_keys_ofList _
  have chained := Registry.tinted_chain
  have reads : LocaleReads .tinted [.dark, .plain] := by
    rintro text ⟨⟩
    decide
  obtain ⟨locale, assembled⟩ := assemble_of_reads reads Registry.tinted.fallback
  have named : ThemeSettings.tinted.name = some "dark" := rfl
  have resolved := (resolve_of_chain named chained).trans assembled
  obtain ⟨chain, ascent, distinct, values, entitled, _, keys⟩ :=
    resolved_vars_layered Registry.tinted_once own resolved
  cases (Registry.chain_eq_iff.mpr (.complete ⟨ascent, distinct⟩)).symm.trans chained
  refine ⟨Registry.tinted_once, own, _, resolved, ?_, ?_, ?_, ?_, entitled, keys.trans (by decide)⟩
  · exact values "color" (by decide) (by decide)
  · exact values "width" (by decide) (by decide)
  · exact values "contrast" (by decide) (by decide)
  · exact values "font" (by decide) (by decide)

end SiteSettings
