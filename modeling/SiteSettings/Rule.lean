import SiteSettings.Config.Error
import SiteSettings.Setting

/-! Schemas: which fields a configuration has, in which order, and the rule that
each one's value must satisfy. Rules nest, since a value may itself be a list of
values or a configuration of its own. -/

namespace SiteSettings

/-- Shapes that a plain rule asks for. An integer is also a float. -/
inductive Kind where
  | text
  | boolean
  | integer
  | float
  | list
  | object
deriving Repr, DecidableEq

def Kind.name : Kind → String
  | .text => "str"
  | .boolean => "bool"
  | .integer => "int"
  | .float => "float"
  | .list => "list"
  | .object => "dict"

def Kind.matches : Kind → Value → Bool
  | .text, .text _ => true
  | .boolean, .boolean _ => true
  | .integer, .number (.integer _) => true
  | .float, .number _ => true
  | .list, .list _ => true
  | .object, .object _ => true
  | _, _ => false

/-- What a legacy field tells its users: where its value went, or a text of its own. -/
structure Notice where
  movedTo : Option String
  message : Option String
deriving Repr, DecidableEq

/-- The notice's own text, or else what happened to the field and its successor. -/
def Notice.describe (notice : Notice) (happened : String) : String :=
  match notice.message, notice.movedTo with
  | some message, _ => message
  | none, some target => s!"{happened} Use '{target}' instead."
  | none, none => happened

mutual

inductive Rule where
  /-- A value of one shape; texts and lists may have to have an exact length. -/
  | type (kind : Kind) (length : Option Nat)
  | choice (choices : List String)
  /-- A field that has no effect any more: any value for it is an error. -/
  | removed (notice : Notice)
  /-- A field that still works for now, or whose value moves to its successor. -/
  | deprecated (notice : Notice) (inner : Option Rule)
  | directory (mustExist : Bool)
  | file (mustExist : Bool)
  /-- An output directory, apart from the input directory of another field. -/
  | siteDirectory (docsKey : String)
  /-- A URL with a host, or nothing; that of a directory ends its path in a slash. -/
  | url (directory : Bool)
  | socketAddress
  | nav
  | listOf (item : Rule)
  | mapping (schema : Schema)
  /-- A theme by name or by its settings, which have a schema of their own. -/
  | theme (registry : Registry) (settings : Schema)

structure Field where
  name : String
  rule : Rule
  default : Option Value
  required : Bool

/-- Fields in declaration order. A schema that passes through keeps undeclared
keys without a warning. -/
structure Schema where
  fields : List Field
  passthrough : Bool

end

namespace Schema

def names (schema : Schema) : List String := schema.fields.map Field.name

def field? (schema : Schema) (name : String) : Option Field :=
  schema.fields.find? fun field => field.name = name

def declares (schema : Schema) (name : String) : Bool := (schema.field? name).isSome

/-- The first name that an earlier field has already. -/
def duplicate? : List String → List Field → Option String
  | _, [] => none
  | seen, field :: rest =>
    if field.name ∈ seen then some field.name else duplicate? (field.name :: seen) rest

/-- A schema of the fields, unless two of them share a name. -/
def declare (fields : List Field) (passthrough : Bool) : Except ConfigError Schema :=
  match duplicate? [] fields with
  | some name => .error (.duplicateField name)
  | none => .ok ⟨fields, passthrough⟩

end Schema

namespace Rule

/-- A mapping without declared fields. -/
def freeForm : Rule := .mapping ⟨[], true⟩

/-- The keys of a theme's settings that are not variables. -/
def themeSettings : Schema where
  fields := [
    ⟨"name", .type .text none, none, false⟩,
    ⟨"custom_dir", .directory true, none, false⟩,
    ⟨"static_templates", .listOf (.type .text none), none, false⟩,
    ⟨"locale", .type .text none, none, false⟩]
  passthrough := true

def themeOf (registry : Registry) : Rule := .theme registry themeSettings

end Rule

end SiteSettings
