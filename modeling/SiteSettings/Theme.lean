import SiteSettings.Locale
import SiteSettings.Theme.Registry

/-! Resolving a theme: its search path, its static templates and its variables
come from the user's settings, the chain of installed themes it builds on, and
the fallback templates, in this order of precedence. -/

namespace SiteSettings

inductive ThemeError where
  | unknownTheme (name : String) (available : List String)
  | unknownParent (theme parent : String)
  | cycle (name : String)
  | invalidLocale (text : String)
  | registry (error : LookupError)
deriving Repr, DecidableEq

namespace ThemeError

def message : ThemeError → String
  | .unknownTheme name _ => s!"Unrecognised theme name: '{name}'."
  | .unknownParent theme parent => s!"Theme '{theme}' extends unrecognised theme '{parent}'."
  | .cycle name => s!"Theme '{name}' extends itself through its parents."
  | .invalidLocale text => s!"Invalid value for locale: '{text}'"
  | .registry error => error.message

def hint? : ThemeError → Option String
  | .unknownTheme _ [] => some "no themes are installed"
  | .unknownTheme _ available => some ("available themes: " ++ String.intercalate ", " available)
  | _ => none

end ThemeError

/-- The user's part of a theme. -/
structure ThemeSettings where
  name : Option String
  customDirectory : Option Path
  staticTemplates : List String
  locale : Option String
  vars : OrderedMap Value

/-- A resolved theme. A theme that only has a custom directory has no name. -/
structure Theme where
  name : Option String
  customDirectory : Option Path
  directories : List Path
  staticTemplates : List String
  vars : OrderedMap Value
  locale : Locale

namespace Registry

/-- How many themes a walk that has seen some may still meet. -/
private noncomputable def unseen (registry : Registry) (seen : List String) : Nat :=
  (registry.finite.choose.filter fun name => !seen.contains name).length

private theorem unseen_lt (registry : Registry) {seen : List String} {key : String}
    {manifest : Manifest} (found : registry.lookup key = .ok manifest)
    (fresh : manifest.name ∉ seen) :
    registry.unseen (manifest.name :: seen) < registry.unseen seen := by
  have known := registry.finite.choose_spec found
  rw [← registry.name_eq found] at known
  have finer : (registry.finite.choose.filter fun name => !(manifest.name :: seen).contains name) =
      (registry.finite.choose.filter fun name => !seen.contains name).filter
        fun name => name != manifest.name := by
    rw [List.filter_filter]
    congr 1
    funext name
    by_cases same : name = manifest.name <;> simp [same]
  unfold unseen
  rw [finer]
  exact List.length_filter_lt_length_iff_exists.2
    ⟨manifest.name, List.mem_filter.2 ⟨known, by simpa using fresh⟩, by simp⟩

/-- Walks from `key` to its parents. `child` is the theme that named `key` as its
parent, and `start` the one the walk began with. -/
def walk (registry : Registry) (start : String) (seen : List String) (child : Option String)
    (key : String) : Except ThemeError (List Manifest) :=
  match _found : registry.lookup key with
  | .error (.notFound name) =>
    match child with
    | none => .error (.unknownTheme name registry.names)
    | some theme => .error (.unknownParent theme name)
  | .error error => .error (.registry error)
  | .ok manifest =>
    if _fresh : manifest.name ∈ seen then .error (.cycle start)
    else
      match manifest.parent with
      | none => .ok [manifest]
      | some parent =>
        (registry.walk start (manifest.name :: seen) (some manifest.name) parent).map
          (manifest :: ·)
termination_by registry.unseen seen
decreasing_by exact registry.unseen_lt _found _fresh

/-- The named theme followed by its ancestors. -/
def chain (registry : Registry) (name : String) : Except ThemeError (List Manifest) :=
  registry.walk name [] none name

end Registry

namespace Theme

/-- Variables before `name` and `locale` get their final values: the farthest
ancestor first, the user last. -/
def layeredVars (name : Value) (chain : List Manifest) (own : OrderedMap Value) :
    OrderedMap Value :=
  let start : OrderedMap Value := .ofList [("name", name), ("locale", .text "en")]
  (chain.reverse.foldl (fun vars manifest => vars.merge manifest.vars) start).merge own

/-- The text that decides the locale: the user's setting, else the variable, if it is a text. -/
def localeText? (settings : ThemeSettings) (vars : OrderedMap Value) : Option String :=
  settings.locale.or ((vars.get? "locale").bind Value.text?)

/-- What a chain of installed themes and the user's settings make together. -/
def assemble (settings : ThemeSettings) (chain : List Manifest) (fallback : Fallback) :
    Except ThemeError Theme := do
  let name : Value := (settings.name.map Value.text).getD .null
  let vars := layeredVars name chain settings.vars
  let locale ←
    match localeText? settings vars with
    | none => pure Locale.english
    | some text =>
      match Locale.parse? text with
      | some locale => pure locale
      | none => throw (.invalidLocale text)
  return {
    name := settings.name
    customDirectory := settings.customDirectory
    directories :=
      settings.customDirectory.toList ++ chain.map Manifest.directory ++ [fallback.directory]
    staticTemplates := sortedNames
      (fallback.staticTemplates ++ chain.flatMap Manifest.staticTemplates ++
        settings.staticTemplates)
    vars := (vars.insert "name" name).insert "locale" (.text locale.print)
    locale := locale }

def resolve (registry : Registry) (settings : ThemeSettings) : Except ThemeError Theme := do
  let chain ←
    match settings.name with
    | some name => registry.chain name
    | none => pure []
  assemble settings chain registry.fallback

/-- The first directory on the search path that has the template gives its path. -/
def findTemplate? (isFile : Path → Bool) (theme : Theme) (template : String) : Option Path :=
  (theme.directories.map fun directory => directory.join ⟨template⟩).find? isFile

end Theme

end SiteSettings
