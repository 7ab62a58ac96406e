import SiteSettings.FileSystem
import SiteSettings.Nav
import SiteSettings.Rule
import SiteSettings.Url.Reader

/-! Rules that look at one value by itself, or at the paths it names. Each returns
the coerced value, and coercing that again changes nothing. -/

namespace SiteSettings.Rule

/-- A text, for the rules that ask for one. -/
def expectText (setting : Setting) : Except Problem String :=
  match setting.text? with
  | some text => .ok text
  | none => .error (.wrongKind Kind.text.name setting.kindName)

/-- The length that a rule may fix: characters of a text, items of a list. -/
def lengthOf? : Value → Option Nat
  | .text text => some text.length
  | .list items => some items.length
  | _ => none

def coerceType (kind : Kind) (length : Option Nat) (setting : Setting) : Except Problem Setting :=
  match setting.value?.filter kind.matches with
  | none => .error (.wrongKind kind.name setting.kindName)
  | some value =>
    match length, lengthOf? value with
    | some expected, some actual =>
      if actual = expected then .ok setting
      else .error (.wrongLength kind.name expected value actual)
    | _, _ => .ok setting

def coerceChoice (choices : List String) (setting : Setting) : Except Problem Setting := do
  let text ← expectText setting
  if text ∈ choices then return setting else throw (.notAChoice choices text)

def coerceDirectory (environment : Environment) (base : Path) (mustExist : Bool)
    (setting : Setting) : Except Problem Setting := do
  let path := environment.locate base (← expectText setting)
  if mustExist && !environment.files.isDirectory path then throw (.noDirectory path)
  return .data (.text path.text)

def coerceFile (environment : Environment) (base : Path) (mustExist : Bool)
    (setting : Setting) : Except Problem Setting := do
  let path := environment.locate base (← expectText setting)
  if mustExist && !environment.files.isFile path then throw (.noFile path)
  return .data (.text path.text)

def coerceUrl (directory : Bool) (setting : Setting) : Except Problem Setting := do
  let text ← expectText setting
  if text.isEmpty then return setting
  match Url.parse text with
  | .error error => throw (.badUrl error)
  | .ok parsed =>
    if parsed.host?.isNone then throw .urlWithoutHost
    return .data (.text (if directory then parsed.asDirectory else parsed).print)

def parseAddress (setting : Setting) : Except Problem SocketAddress := do
  match SocketAddress.ofText? (← expectText setting) with
  | some address => return address
  | none => throw .badAddress

def allInterfacesWarning (address : SocketAddress) : String :=
  s!"The server will listen on all interfaces ({address.toText}); use 127.0.0.1 to restrict it " ++
    "to this machine."

def coerceNav (setting : Setting) : Except Problem Setting :=
  match setting with
  | .theme _ => .error (.wrongKind Kind.list.name setting.kindName)
  | .data value =>
    match Nav.check value with
    | .ok () => .ok setting
    | .error problem => .error (.badNav problem)

end SiteSettings.Rule
