import SiteSettings.FileSystem
import SiteSettings.Log
import SiteSettings.Theme.Registry
import SiteSettings.Toml.Reader

/-! Finding installed themes: every directory with a manifest file is a theme named
after the directory. -/

namespace SiteSettings

def manifestFile : String := "theme.toml"

/-- Why a theme directory, or a directory of themes, cannot be used. -/
inductive DiscoveryError where
  | unreadableDirectory (directory : Path)
  | unreadableEntry (reason : String)
  | nameless (directory : Path)
  | unreadable (manifest : Path)
  | invalid (name : String)
deriving Repr, DecidableEq

def DiscoveryError.message : DiscoveryError → String
  | .unreadableDirectory directory => s!"failed to read theme directory {directory.text}"
  | .unreadableEntry reason => reason
  | .nameless directory => s!"theme directory {directory.text} has no name"
  | .unreadable manifest => s!"failed to read {manifest.text}"
  | .invalid name => s!"manifest of theme `{name}` is invalid"

namespace Manifest

/-- The keys that a manifest file may have. -/
def knownKeys : List String := ["extends", "static_templates", "vars"]

private def text? : Toml → Option String
  | .text value => some value
  | _ => none

private def parent? (members : OrderedMap Toml) : Option (Option String) :=
  match members.get? "extends" with
  | none => some none
  | some value => (text? value).map some

private def templates? (members : OrderedMap Toml) : Option (List String) :=
  match members.get? "static_templates" with
  | none => some []
  | some (.array items) => items.mapM text?
  | some _ => none

private def vars? (members : OrderedMap Toml) : Option (OrderedMap Value) :=
  match members.get? "vars" with
  | none => some .empty
  | some (.table vars) => some ⟨Toml.toMembers vars.entries⟩
  | some _ => none

/-- A manifest from the members of its file; every known key may be left out. -/
def ofMembers? (name : String) (directory : Path) (members : OrderedMap Toml) :
    Option Manifest := do
  let parent ← parent? members
  let staticTemplates ← templates? members
  let vars ← vars? members
  return { name, directory, parent, staticTemplates, vars }

private def ignoredEntry (file : Path) (key : String) : LogEntry :=
  ⟨"theme", s!"ignoring unknown field `{key}` in {file.text}"⟩

/-- Reads the manifest in a theme's directory and notes the keys it does not know. -/
def load (files : FileSystem) (directory : Path) :
    Except DiscoveryError (Manifest × List LogEntry) := do
  let some name := directory.fileName? | throw (.nameless directory)
  let file := directory.join ⟨manifestFile⟩
  let some content := files.readText? file | throw (.unreadable file)
  let some members := Toml.parse? content | throw (.invalid name)
  let some manifest := ofMembers? name directory members | throw (.invalid name)
  let unknown := members.keys.filter fun key => !knownKeys.contains key
  return (manifest, unknown.map (ignoredEntry file))

end Manifest

/-- What came of looking for themes. Themes found before an error stay registered. -/
structure Discovery where
  themes : InstalledThemes
  found : Except DiscoveryError (List String)
  trace : List LogEntry

namespace InstalledThemes

/-- Takes the entries of a directory one by one, up to one that cannot be read or used. -/
def discoverEntries (files : FileSystem) (directory : Path) :
    InstalledThemes → List String → List LogEntry → List (Except String String) → Discovery
  | themes, found, trace, [] => ⟨themes, .ok (sortedNames found), trace⟩
  | themes, _, trace, .error reason :: _ => ⟨themes, .error (.unreadableEntry reason), trace⟩
  | themes, found, trace, .ok entry :: rest =>
    let path := directory.join ⟨entry⟩
    if files.isFile (path.join ⟨manifestFile⟩) then
      match Manifest.load files path with
      | .error error => ⟨themes, .error error, trace⟩
      | .ok (manifest, notes) =>
        discoverEntries files directory (themes.register manifest) (manifest.name :: found)
          (trace ++ notes) rest
    else discoverEntries files directory themes found trace rest

/-- Registers every theme below a directory and returns their names in order. -/
def discover (themes : InstalledThemes) (files : FileSystem) (directory : Path) : Discovery :=
  match files.list? directory with
  | none => ⟨themes, .error (.unreadableDirectory directory), []⟩
  | some entries => discoverEntries files directory themes [] [] entries

end InstalledThemes

end SiteSettings
