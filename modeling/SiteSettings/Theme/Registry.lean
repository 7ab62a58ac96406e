import SiteSettings.Path
import SiteSettings.Value

/-! What is known of installed themes. A registry is any finite look-up of
manifests by name; `InstalledThemes` is the one kept in memory. -/

namespace SiteSettings

/-- One installed theme: its directory, the theme it builds on, the templates it
renders without a page, and its default variables. -/
structure Manifest where
  name : String
  directory : Path
  parent : Option String
  staticTemplates : List String
  vars : OrderedMap Value

/-- Templates that every theme falls back to. -/
structure Fallback where
  directory : Path
  staticTemplates : List String
deriving Repr, DecidableEq

inductive LookupError where
  | notFound (name : String)
  | invalid (name reason : String)
deriving Repr, DecidableEq

def LookupError.message : LookupError → String
  | .notFound name => s!"theme `{name}` is not registered"
  | .invalid name reason => s!"manifest of theme `{name}` is invalid: {reason}"

/-- Only finitely many names resolve, each to a manifest of that name, so walking
from parent to parent comes to an end or back to a theme already seen. -/
structure Registry where
  lookup : String → Except LookupError Manifest
  names : List String
  fallback : Fallback
  name_eq : ∀ {key manifest}, lookup key = .ok manifest → manifest.name = key
  missing_eq : ∀ {key name}, lookup key = .error (.notFound name) → name = key
  finite : ∃ domain : List String, ∀ {key manifest}, lookup key = .ok manifest → key ∈ domain

/-- Distinct names in the order of their code points. -/
def sortedNames (names : List String) : List String :=
  names.eraseDups.mergeSort fun a b => decide (a ≤ b)

/-- Themes in memory under their own names. -/
structure InstalledThemes where
  themes : OrderedMap Manifest
  fallback : Fallback
  named : ∀ {key manifest}, themes.get? key = some manifest → manifest.name = key

namespace InstalledThemes

def empty (templates : Path) : InstalledThemes where
  themes := .empty
  fallback := ⟨templates, ["sitemap.xml"]⟩
  named found := by simp at found

/-- Adds a theme or replaces the one of the same name. -/
def register (installed : InstalledThemes) (manifest : Manifest) : InstalledThemes where
  themes := installed.themes.insert manifest.name manifest
  fallback := installed.fallback
  named {key other} found := by
    rw [OrderedMap.get?_insert] at found
    split at found
    · next same => cases found; exact same.symm
    · exact installed.named found

def names (installed : InstalledThemes) : List String := sortedNames installed.themes.keys

def lookup (installed : InstalledThemes) (name : String) : Except LookupError Manifest :=
  match installed.themes.get? name with
  | some manifest => .ok manifest
  | none => .error (.notFound name)

theorem lookup_eq_ok_iff {installed : InstalledThemes} {key : String} {manifest : Manifest} :
    installed.lookup key = .ok manifest ↔ installed.themes.get? key = some manifest := by
  cases found : installed.themes.get? key <;> simp [lookup, found]

theorem lookup_eq_error_iff {installed : InstalledThemes} {key : String} {error : LookupError} :
    installed.lookup key = .error error ↔
      error = .notFound key ∧ installed.themes.get? key = none := by
  cases found : installed.themes.get? key <;> simp [lookup, found, eq_comm]

private theorem mem_keys {themes : OrderedMap Manifest} {key : String} {manifest : Manifest}
    (found : themes.get? key = some manifest) : key ∈ themes.keys :=
  (themes.get?_isSome_iff key).1 (by simp [found])

def toRegistry (installed : InstalledThemes) : Registry where
  lookup := installed.lookup
  names := installed.names
  fallback := installed.fallback
  name_eq found := installed.named (lookup_eq_ok_iff.1 found)
  missing_eq found := by
    obtain ⟨same, _⟩ := lookup_eq_error_iff.1 found
    exact LookupError.notFound.inj same
  finite := ⟨installed.themes.keys, fun found => mem_keys (lookup_eq_ok_iff.1 found)⟩

private def bundled (name : String) (root : Path) (vars : List (String × Value)) : Manifest where
  name := name
  directory := root.join ⟨name⟩
  parent := none
  staticTemplates := ["404.html"]
  vars := .ofList vars

/-- The bundled themes below `root`. -/
def standard (root templates : Path) : InstalledThemes :=
  let mkdocs := bundled "mkdocs" root [
    ("include_search_page", .boolean false),
    ("search_index_only", .boolean false),
    ("analytics", .ofMembers [("gtag", .null)]),
    ("highlightjs", .boolean true),
    ("hljs_style", .text "github"),
    ("hljs_languages", .list []),
    ("navigation_depth", .ofInt 2),
    ("nav_style", .text "primary"),
    ("shortcuts", .ofMembers [
      ("help", .ofInt 191), ("next", .ofInt 78), ("previous", .ofInt 80), ("search", .ofInt 83)])]
  let readthedocs := bundled "readthedocs" root [
    ("include_search_page", .boolean true),
    ("search_index_only", .boolean false),
    ("analytics", .ofMembers [("anonymize_ip", .boolean false), ("gtag", .null)]),
    ("highlightjs", .boolean true),
    ("hljs_languages", .list []),
    ("include_homepage_in_sidebar", .boolean true),
    ("prev_next_buttons_location", .text "bottom"),
    ("navigation_depth", .ofInt 4),
    ("sticky_navigation", .boolean true),
    ("logo", .null),
    ("titles_only", .boolean false),
    ("collapse_navigation", .boolean true)]
  ((empty templates).register mkdocs).register readthedocs

end InstalledThemes

/-- The same registry, except that some names turn out to have an invalid manifest. -/
def Registry.withInvalid (registry : Registry) (reasons : OrderedMap String) : Registry where
  lookup key :=
    match reasons.get? key with
    | some reason => .error (.invalid key reason)
    | none => registry.lookup key
  names := registry.names
  fallback := registry.fallback
  name_eq {key manifest} found := by
    split at found
    · cases found
    · exact registry.name_eq found
  missing_eq {key name} found := by
    split at found
    · cases found
    · exact registry.missing_eq found
  finite := by
    obtain ⟨domain, covers⟩ := registry.finite
    refine ⟨domain, fun {key manifest} found => ?_⟩
    split at found
    · cases found
    · exact covers found

end SiteSettings
