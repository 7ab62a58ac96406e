import SiteSettings.Text.Split

/-! Slash-separated paths. A path is its text; `components` reads it without
looking at any file system, so repeated and trailing separators and inner `.`
do not show there. -/

namespace SiteSettings

structure Path where
  text : String
deriving Repr, BEq, DecidableEq, Inhabited

namespace Path

/-- `current` is a leading `.` of a relative path. -/
inductive Component where
  | root
  | current
  | parent
  | name (text : String)
deriving Repr, BEq, DecidableEq

def Component.text : Component → String
  | .root => "/"
  | .current => "."
  | .parent => ".."
  | .name text => text

def isAbsolute (path : Path) : Bool := path.text.toList.head? = some '/'

/-- What a piece between separators contributes. -/
def pieceComponent? (piece : List Char) : Option Component :=
  if piece = [] ∨ piece = ['.'] then none
  else if piece = ['.', '.'] then some .parent
  else some (.name (String.ofList piece))

def componentsOf (cs : List Char) : List Component :=
  let pieces := Text.splitOn '/' cs
  let leading : List Component :=
    if cs.head? = some '/' then [.root] else if pieces.head? = some ['.'] then [.current] else []
  leading ++ pieces.filterMap pieceComponent?

def components (path : Path) : List Component := componentsOf path.text.toList

/-- The plainest text with the given components. -/
def ofComponents : List Component → Path
  | .root :: rest => ⟨"/" ++ String.intercalate "/" (rest.map Component.text)⟩
  | components => ⟨String.intercalate "/" (components.map Component.text)⟩

/-- An absolute second part replaces the first; one separator is added unless
the first is empty or ends in one. -/
def join (base path : Path) : Path :=
  if path.isAbsolute then path
  else if base.text.isEmpty ∨ base.text.toList.getLast? = some '/' then ⟨base.text ++ path.text⟩
  else ⟨base.text ++ "/" ++ path.text⟩

/-- All but the last component; a path without one, and the root, have no parent. -/
def parent? (path : Path) : Option Path :=
  match path.components.getLast? with
  | none | some .root => none
  | some _ => some (ofComponents path.components.dropLast)

def fileName? (path : Path) : Option String :=
  match path.components.getLast? with
  | some (.name text) => some text
  | _ => none

/-- One step of normalisation, on the components kept so far with the last one first. -/
def normalizeStep : List Component → Component → List Component
  | kept, .current => kept
  | .name _ :: kept, .parent => kept
  | .root :: kept, .parent => .root :: kept
  | kept, .parent => .parent :: kept
  | kept, component => component :: kept

def normalComponents (components : List Component) : List Component :=
  (components.foldl normalizeStep []).reverse

/-- Joins onto a base and drops every `.`; `..` takes back the name before it and
never leaves the root. The result is absolute when the path or the base is. -/
def normalize (path base : Path) : Path :=
  ofComponents (normalComponents (base.join path).components)

/-- Component by component, so `/site` is no ancestor of `/site-docs`. -/
def isSameOrAncestor (ancestor path : Path) : Bool :=
  ancestor.components.isPrefixOf path.components

/-- A leading `~`, alone or before a separator, stands for the home directory. -/
def expandTilde (home : Path) (text : String) : Path :=
  match text.toList with
  | ['~'] => home
  | '~' :: '/' :: rest => ⟨home.text ++ String.ofList ('/' :: rest)⟩
  | _ => ⟨text⟩

/-- Against a base directory without following `..`, since that could cross a link.
Exactly two leading separators are kept, as their meaning is left to the system. -/
def absolutize (path base : Path) : Path :=
  let cs := path.text.toList
  let pieces := (path.components.dropWhile (· = .current)).map Component.text
  let path : Path :=
    if cs.take 2 = ['/', '/'] ∧ cs.take 3 ≠ ['/', '/', '/'] then
      ⟨"//" ++ String.intercalate "/" (pieces.drop 1)⟩
    else if path.isAbsolute then ofComponents path.components
    else pieces.foldl (fun whole piece => whole.join ⟨piece⟩) base
  if cs.getLast? = some '/' then path.join ⟨""⟩ else path

end Path

end SiteSettings
