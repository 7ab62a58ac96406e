import SiteSettings.Config
import SiteSettings.Toml.Reader

/-! Configuration documents in TOML files. A document remembers where it came from,
so that its relative paths start beside it. -/

namespace SiteSettings

/-- What is there to read, and where relative paths start. -/
structure NativeSystem where
  /-- The content of a regular file, when it is valid UTF-8. -/
  readText? : NativePath → Option String
  workingDirectory : NativePath

/-- If all names are text, any other path names nothing. -/
def Environment.native (environment : Environment) : NativeSystem where
  readText? path := path.text?.bind environment.files.readText?
  workingDirectory := .ofPath environment.workingDirectory

namespace Config

/-- Notes the file's absolute path in a document that does not name its origin. A document holds
text, so of a path that is not text the readable form is noted. -/
def noteOrigin (system : NativeSystem) (file : NativePath) (members : OrderedMap Value) :
    OrderedMap Value :=
  if members.contains originKey then members
  else members.insert originKey (.text (file.absolutize system.workingDirectory).toPath.text)

def readToml (system : NativeSystem) (file : NativePath) :
    Except ConfigError (OrderedMap Value) := do
  let some content := system.readText? file | throw (.unreadable file)
  let some members := Toml.parse? content | throw (.malformed file)
  return noteOrigin system file ⟨Toml.toMembers members.entries⟩

end Config

end SiteSettings
