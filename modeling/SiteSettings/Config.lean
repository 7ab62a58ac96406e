import SiteSettings.Config.Error
import SiteSettings.FileSystem
import SiteSettings.Rule

/-! Configurations: a schema and the values loaded for it. Declared keys go to slots,
which hold staged values before validation and coerced ones after it; other keys
are kept beside them. -/

namespace SiteSettings

structure Config where
  schema : Schema
  slots : OrderedMap Setting
  extras : OrderedMap Value
  /-- Undeclared keys in the order they were first seen; none if the schema passes through. -/
  unrecognised : List String
  baseDirectory : Option Path

namespace Config

/-- The key whose value tells where relative paths start. -/
def originKey : String := "config_file_path"

def new (schema : Schema) : Config := ⟨schema, .empty, .empty, [], none⟩

def withBase (config : Config) (directory : Path) : Config :=
  { config with baseDirectory := some directory }

def loadEntry (config : Config) (key : String) (value : Value) : Config :=
  if config.schema.declares key then
    { config with slots := config.slots.insert key (.data value) }
  else
    let known := config.schema.passthrough || config.unrecognised.contains key
    { config with
      unrecognised := if known then config.unrecognised else config.unrecognised ++ [key]
      extras := config.extras.insert key value }

/-- Later loads overwrite earlier ones key by key. -/
def loadMembers (config : Config) (members : OrderedMap Value) : Config :=
  members.entries.foldl (fun config entry => config.loadEntry entry.1 entry.2) config

/-- A document must be an object. -/
def load (config : Config) : Value → Except ConfigError Config
  | .object members => .ok (config.loadMembers members)
  | document => .error (.notAnObject document.kindName)

/-- A fresh configuration of a document. -/
def ofDocument (schema : Schema) (document : Value) : Except ConfigError Config :=
  (new schema).load document

/-- Sets a declared field; nothing happens to any other key. -/
def set? (config : Config) (key : String) (setting : Setting) : Option Config :=
  if config.schema.declares key then
    some { config with slots := config.slots.insert key setting }
  else none

def get? (config : Config) (key : String) : Option Setting := config.slots.get? key

def text? (config : Config) (key : String) : Option String := (config.get? key).bind Setting.text?

def boolean? (config : Config) (key : String) : Option Bool :=
  (config.get? key).bind Setting.boolean?

def path? (config : Config) (key : String) : Option Path := (config.text? key).map Path.mk

def theme? (config : Config) (key : String) : Option Theme := (config.get? key).bind Setting.theme?

def isStaged (config : Config) (key : String) : Bool := config.slots.contains key

/-- Where the document came from, if it says so in a text. -/
def origin? (config : Config) : Option String :=
  (config.text? originKey).or ((config.extras.get? originKey).bind Value.text?)

/-- Relative paths start at the given base, else where the document came from, else
in the working directory. -/
def baseDir (config : Config) (environment : Environment) : Path :=
  let working := environment.absolute ⟨"."⟩
  match config.baseDirectory, config.origin? with
  | some directory, _ => environment.absolute directory
  | none, some file =>
    (environment.absolute (Path.expandTilde environment.home file)).parent?.getD working
  | none, none => working

/-- All values as plain data: declared fields in their order, then the other keys. -/
def toMembers (config : Config) : OrderedMap Value :=
  let declared := config.schema.names.filterMap fun name =>
    (config.get? name).map fun setting => (name, setting.toValue)
  (OrderedMap.ofList declared).merge config.extras

end Config

end SiteSettings
