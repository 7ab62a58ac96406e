import SiteSettings.Log
import SiteSettings.Path.Native
import SiteSettings.Report

/-! Why a configuration cannot be made or used, and how its report reads as a result. -/

namespace SiteSettings

inductive ConfigError where
  /-- The document is a value of another kind than an object. -/
  | notAnObject (kind : String)
  /-- Two fields of a schema share a name. -/
  | duplicateField (name : String)
  | unreadable (file : NativePath)
  | malformed (file : NativePath)
  | rejected (report : Report)
deriving Repr, DecidableEq, Inhabited

def ConfigError.message : ConfigError → String
  | .notAnObject kind => s!"config document must be key/value pairs, got {kind}"
  | .duplicateField name => s!"option `{name}` is declared twice in the same schema"
  | .unreadable file => s!"IO error when reading `{file.toPath.text}`"
  | .malformed file => s!"config file parsing error in `{file.toPath.text}`"
  | .rejected report => report.render

namespace Report

/-- Any error rejects the configuration; warnings alone do not. -/
def toResult (report : Report) : Except ConfigError Report :=
  if report.hasErrors then .error (.rejected report) else .ok report

/-- A heading and the warnings, or nothing if there are none. -/
def renderWarnings (report : Report) : String :=
  if report.warnings.isEmpty then ""
  else (LogEntry.mk "warning" "config warnings:").render ++ report.warningLines

end Report

end SiteSettings
