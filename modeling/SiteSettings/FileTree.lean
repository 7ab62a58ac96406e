import SiteSettings.FileSystem
import SiteSettings.OrderedMap

/-! A file system given as a tree without links. -/

namespace SiteSettings

inductive FileTree where
  | file (content : ByteArray)
  | device
  | directory (entries : OrderedMap FileTree)
deriving Inhabited

namespace FileTree

def kind : FileTree → EntryKind
  | .file _ => .file
  | .device => .other
  | .directory _ => .directory

/-- Adds an entry below a directory, making the directories on the way. What is
not a directory stays as it is. -/
def insert : FileTree → List String → FileTree → FileTree
  | _, [], entry => entry
  | .directory entries, [name], entry => .directory (entries.insert name entry)
  | .directory entries, name :: next :: rest, entry =>
    let child := (entries.get? name).getD (.directory .empty)
    .directory (entries.insert name (child.insert (next :: rest) entry))
  | tree, _ :: _, _ => tree

/-- Makes a directory unless something has its name already. -/
def addDirectory : FileTree → List String → FileTree
  | .directory entries, name :: rest =>
    let child := (entries.get? name).getD (.directory .empty)
    .directory (entries.insert name (child.addDirectory rest))
  | tree, _ => tree

/-- Follows the pieces of a path from the directory on top of a stack whose bottom
is the root. Every piece, even an empty last one, needs a directory to start from. -/
def walk : List String → FileTree → List FileTree → Option FileTree
  | [], here, _ => some here
  | piece :: rest, .directory entries, above =>
    if piece = "" ∨ piece = "." then walk rest (.directory entries) above
    else if piece = ".." then
      match above with
      | [] => walk rest (.directory entries) []
      | parent :: above => walk rest parent above
    else
      match entries.get? piece with
      | some child => walk rest child (.directory entries :: above)
      | none => none
  | _ :: _, _, _ => none

/-- What a path names, relative paths starting at `start`. The empty path names nothing. -/
def resolve? (root : FileTree) (start path : Path) : Option FileTree :=
  if path.text.isEmpty then none
  else
    let pieces := (Text.splitOn '/' (start.join path).text.toList).map String.ofList
    walk pieces root []

def toFileSystem (root : FileTree) (start : Path) : FileSystem where
  kind? path := (root.resolve? start path).map kind
  readText? path :=
    match root.resolve? start path with
    | some (.file content) => String.fromUTF8? content
    | _ => none
  list? path :=
    match root.resolve? start path with
    | some (.directory entries) => some (entries.keys.map .ok)
    | _ => none

end FileTree

end SiteSettings
