import SiteSettings.Path

/-! The parts of the outside world that validation may look at: which paths exist,
what they hold, and the two directories that relative and `~` paths start from.
Nothing here changes while a configuration is validated. -/

namespace SiteSettings

/-- `other` exists but is neither a directory nor a regular file. -/
inductive EntryKind where
  | directory
  | file
  | other
deriving Repr, BEq, DecidableEq

/-- What each path names. Relative paths are the file system's own business: it knows
the directory they start from. -/
structure FileSystem where
  kind? : Path → Option EntryKind
  /-- The content of a regular file, when it is valid UTF-8. -/
  readText? : Path → Option String
  /-- The entries of a directory as the system lists them: a name each, or why the next one
  cannot be read. -/
  list? : Path → Option (List (Except String String))

namespace FileSystem

def isDirectory (files : FileSystem) (path : Path) : Bool := files.kind? path = some .directory

def isFile (files : FileSystem) (path : Path) : Bool := files.kind? path = some .file

end FileSystem

structure Environment where
  files : FileSystem
  home : Path
  workingDirectory : Path

namespace Environment

/-- The normal form of a path, starting from the working directory. -/
def absolute (environment : Environment) (path : Path) : Path :=
  path.normalize environment.workingDirectory

/-- A path as a user wrote it: `~` is expanded, and a relative path starts at `base`. -/
def locate (environment : Environment) (base : Path) (text : String) : Path :=
  (Path.expandTilde environment.home text).normalize base

end Environment

end SiteSettings
