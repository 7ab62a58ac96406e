import SiteSettings.Config
import SiteSettings.Log
import SiteSettings.Rule.Phases
import SiteSettings.Text.Quoted

/-! Validation: every field is prepared, coerced and cross-checked, each phase in
declaration order. Coerced values replace staged ones; a field that fails keeps
what it had. Nested configurations are validated in the same way. -/

namespace SiteSettings

/-- What every rule may look at besides the value. -/
structure Context where
  environment : Environment
  base : Path
  key : String
  default : Option Value

/-- The result of coercing one value, with what was said on the way. -/
structure Coercion (α : Type) where
  result : Except Problem α
  warnings : List String
  trace : List LogEntry

namespace Coercion

variable {α β : Type}

def of (result : Except Problem α) : Coercion α := ⟨result, [], []⟩

def andThen (first : Coercion α) (next : α → Coercion β) : Coercion β :=
  match first.result with
  | .error problem => ⟨.error problem, first.warnings, first.trace⟩
  | .ok value =>
    let second := next value
    ⟨second.result, first.warnings ++ second.warnings, first.trace ++ second.trace⟩

/-- Stops at the first item that fails and blames it by its index. -/
def eachItem (coerce : Value → Coercion Setting) : Nat → List Value → Coercion (List Value)
  | _, [] => of (.ok [])
  | index, item :: rest =>
    let first := coerce item
    andThen ⟨first.result.mapError (.item index), first.warnings, first.trace⟩ fun setting =>
      andThen (eachItem coerce (index + 1) rest) fun items =>
        of (.ok (setting.toValue :: items))

end Coercion

/-- The state of a validation between two fields. -/
structure Pass where
  slots : OrderedMap Setting
  failed : List String
  report : Report
  trace : List LogEntry

namespace Pass

def warn (pass : Pass) (field : String) (warnings : List String) : Pass :=
  { pass with report := pass.report.addWarnings field warnings }

def blame (pass : Pass) (field : String) (problem : Problem) : Pass :=
  { pass with report := pass.report.addError field problem.message problem.hint? }

/-- Also keeps the field out of the cross-checks. -/
def fail (pass : Pass) (field : String) (problem : Problem) : Pass :=
  { pass.blame field problem with failed := pass.failed ++ [field] }

def prepareField (pass : Pass) (field : Field) : Pass :=
  let prepared := field.rule.prepare field.name pass.slots
  let pass := { pass with slots := prepared.slots }.warn field.name prepared.warnings
  match prepared.problem with
  | some problem => pass.fail field.name problem
  | none => pass

/-- What a field is coerced from: its staged value unless that is null, else its default. -/
def effective? (pass : Pass) (name : String) (default : Option Value) : Option Setting :=
  ((pass.slots.get? name).filter fun setting => !setting.isNull).or (default.map .data)

def record (pass : Pass) (name : String) (coercion : Coercion Setting) : Pass :=
  let pass := { pass with trace := pass.trace ++ coercion.trace }.warn name coercion.warnings
  match coercion.result with
  | .ok setting => { pass with slots := pass.slots.insert name setting }
  | .error problem => pass.fail name problem

def crossCheckField (environment : Environment) (base : Path) (pass : Pass) (field : Field) :
    Pass :=
  if pass.failed.contains field.name then pass
  else
    match field.rule.crossCheck environment base field.name pass.slots with
    | some problem => pass.blame field.name problem
    | none => pass

def warnUnrecognised (pass : Pass) (key : String) : Pass :=
  pass.warn key [s!"Unrecognised configuration name: {key}"]

end Pass

/-- A validated configuration with its report and what was logged. -/
structure Validation where
  config : Config
  report : Report
  trace : List LogEntry

namespace Config

/-- Validation around a given way to coerce all fields. -/
def validateBy (coerceFields : Path → Pass → Pass) (environment : Environment) (config : Config) :
    Validation :=
  let base := config.baseDir environment
  let fields := config.schema.fields
  let opening : LogEntry := ⟨"config", s!"validating {fields.length} fields (base: {base.text})"⟩
  let start : Pass := ⟨config.slots, [], .empty, [opening]⟩
  let prepared := fields.foldl Pass.prepareField start
  let coerced := coerceFields base prepared
  let checked := fields.foldl (Pass.crossCheckField environment base) coerced
  let done := config.unrecognised.foldl Pass.warnUnrecognised checked
  let closing : LogEntry := ⟨"config",
    s!"validation finished: {done.report.errors.length} errors, " ++
      s!"{done.report.warnings.length} warnings"⟩
  ⟨{ config with slots := done.slots }, done.report, done.trace ++ [closing]⟩

end Config

namespace Validation

/-- The outcome inside an outer field: warnings are passed on, errors become one. -/
def toCoercion (validation : Validation) : Coercion Config where
  result :=
    if validation.report.hasErrors then .error (.nested validation.report.errors)
    else .ok validation.config
  warnings := validation.report.warnings.map Problem.nestedMessage
  trace := validation.trace

end Validation

namespace ThemeSettings

/-- A theme's settings as an object with a name: a text is the name, and an object
without one takes the field's default. -/
def normalize (default : Option Value) : Setting → Except Problem (OrderedMap Value)
  | .data (.text name) => .ok (.ofList [("name", .text name)])
  | .data (.object members) =>
    if members.contains "name" then .ok members
    else
      match default.bind Value.text? with
      | some name => .ok (members.insert "name" (.text name))
      | none => .error .noThemeName
  | other => .error (.themeShape other.kindName)

/-- Reads validated settings; every key that the settings' schema does not declare
is a variable. -/
def ofConfig (config : Config) (vars : OrderedMap Value) : ThemeSettings where
  name := config.text? "name"
  customDirectory := config.path? "custom_dir"
  staticTemplates :=
    (((config.get? "static_templates").bind Setting.value?).bind Value.list?).getD []
      |>.filterMap Value.text?
  locale := config.text? "locale"
  vars := vars

end ThemeSettings

namespace Theme

def resolvedEntry (theme : Theme) : LogEntry where
  source := "theme"
  message := "resolved `" ++ theme.name.getD "<custom>" ++ "`: dirs " ++
    Text.quotedList (theme.directories.map Path.text)

def coerce (registry : Registry) (settings : ThemeSettings) : Coercion Setting :=
  match resolve registry settings with
  | .ok theme => ⟨.ok (.theme theme), [], [theme.resolvedEntry]⟩
  | .error error => .of (.error (.theme error))

end Theme

mutual

/-- Coerces a present, non-null value. -/
def Rule.coerce (rule : Rule) (context : Context) (setting : Setting) : Coercion Setting :=
  match rule with
  | .type kind length => .of (Rule.coerceType kind length setting)
  | .choice choices => .of (Rule.coerceChoice choices setting)
  | .removed _ => .of (.ok setting)
  | .deprecated _ none => .of (.ok setting)
  | .deprecated _ (some inner) => inner.coerce context setting
  | .directory mustExist =>
    .of (Rule.coerceDirectory context.environment context.base mustExist setting)
  | .file mustExist => .of (Rule.coerceFile context.environment context.base mustExist setting)
  | .siteDirectory _ => .of (Rule.coerceDirectory context.environment context.base false setting)
  | .url directory => .of (Rule.coerceUrl directory setting)
  | .socketAddress =>
    (Coercion.of (Rule.parseAddress setting)).andThen fun address =>
      ⟨.ok (.data (.text address.toText)),
        if address.isUnspecified then [Rule.allInterfacesWarning address] else [], []⟩
  | .nav => .of (Rule.coerceNav setting)
  | .listOf item =>
    match setting with
    | .data (.list items) =>
      (Coercion.eachItem (fun value => item.coerce context (.data value)) 0 items).andThen
        fun items => .of (.ok (.data (.list items)))
    | other => .of (.error (.wrongKind Kind.list.name other.kindName))
  | .mapping ⟨fields, passthrough⟩ =>
    match setting with
    | .data (.object members) =>
      (((Config.new ⟨fields, passthrough⟩).withBase context.base).loadMembers members
        |>.validateBy (Field.coerceAll fields context.environment) context.environment
        |>.toCoercion).andThen fun config => .of (.ok (.data (.object config.toMembers)))
    | other => .of (.error (.wrongKind Kind.object.name other.kindName))
  | .theme registry ⟨fields, passthrough⟩ =>
    match setting with
    | .theme _ => .of (.ok setting)
    | raw =>
      (Coercion.of (ThemeSettings.normalize context.default raw)).andThen fun members =>
        let vars := members.filterKeys fun key => !(fields.map Field.name).contains key
        (((Config.new ⟨fields, passthrough⟩).withBase context.base).loadMembers members
          |>.validateBy (Field.coerceAll fields context.environment) context.environment
          |>.toCoercion).andThen fun config =>
            Theme.coerce registry (ThemeSettings.ofConfig config vars)
termination_by structural rule

/-- Coerces the fields in turn; each sees the slots as the ones before it left them. -/
def Field.coerceAll (fields : List Field) (environment : Environment) (base : Path) (pass : Pass) :
    Pass :=
  match fields with
  | [] => pass
  | field :: rest => Field.coerceAll rest environment base (field.coerce environment base pass)
termination_by structural fields

def Field.coerce (field : Field) (environment : Environment) (base : Path) (pass : Pass) : Pass :=
  match field with
  | ⟨name, rule, default, required⟩ =>
    match pass.effective? name default with
    | some setting => pass.record name (rule.coerce ⟨environment, base, name, default⟩ setting)
    | none => if required then pass.fail name .required else pass
termination_by structural field

end

namespace Config

def validate (config : Config) (environment : Environment) : Validation :=
  config.validateBy (Field.coerceAll config.schema.fields environment) environment

end Config

end SiteSettings
