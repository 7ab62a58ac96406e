import SiteSettings.Style

/-! Reports: the errors and warnings of one validation, in order. -/

namespace SiteSettings

/-- One problem of one field. -/
structure Diagnostic where
  field : String
  message : String
  hint : Option String
deriving Repr, BEq, DecidableEq

namespace Diagnostic

/-- The field in brackets, the message after an arrow, and the hint if there is one. -/
def render (diagnostic : Diagnostic) : String :=
  let field := Style.dimmed.apply "[" ++ Style.cyan.apply diagnostic.field ++ Style.dimmed.apply "]"
  let message := Style.red.apply "→" ++ " " ++ diagnostic.message
  let hint :=
    match diagnostic.hint with
    | some hint => "\n  " ++ Style.yellow.apply "hint:" ++ " " ++ hint
    | none => ""
  field ++ "\n" ++ message ++ hint

end Diagnostic

/-- The name of a field by itself, as messages show it. -/
def renderField (field : String) : String := Style.brightBlue.apply ("`" ++ field ++ "`")

structure Report where
  errors : List Diagnostic
  warnings : List Diagnostic
deriving Repr, BEq, DecidableEq, Inhabited

namespace Report

def empty : Report := ⟨[], []⟩

def hasErrors (report : Report) : Bool := !report.errors.isEmpty

def isEmpty (report : Report) : Bool := report.errors.isEmpty && report.warnings.isEmpty

def addError (report : Report) (field message : String) (hint : Option String) : Report :=
  { report with errors := report.errors ++ [⟨field, message, hint⟩] }

def addWarning (report : Report) (field message : String) : Report :=
  { report with warnings := report.warnings ++ [⟨field, message, none⟩] }

def addWarnings (report : Report) (field : String) (messages : List String) : Report :=
  { report with warnings := report.warnings ++ messages.map fun message => ⟨field, message, none⟩ }

/-- The errors with a headline, and their number if there is more than one. -/
def render (report : Report) : String :=
  let headline := Style.bold.apply (Style.red.apply "config validation failed:")
  let errors := String.intercalate "\n\n" (report.errors.map Diagnostic.render)
  let count := String.ofList (Nat.toDigits 10 report.errors.length)
  let footer :=
    if report.errors.length ≤ 1 then ""
    else "\n\n" ++ Style.dimmed.apply "found" ++ " " ++ Style.bold.apply (Style.red.apply count) ++
      " " ++ Style.dimmed.apply "errors"
  headline ++ "\n\n" ++ errors ++ footer

/-- The plain lines that list the warnings. -/
def warningLines (report : Report) : String :=
  String.join (report.warnings.map fun warning =>
    "- " ++ warning.field ++ ": " ++ warning.message ++ "\n")

/-- Fields and messages without hints. -/
def pairs (diagnostics : List Diagnostic) : List (String × String) :=
  diagnostics.map fun diagnostic => (diagnostic.field, diagnostic.message)

end Report

end SiteSettings
