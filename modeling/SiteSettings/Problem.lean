import SiteSettings.Network.SocketAddress
import SiteSettings.Report
import SiteSettings.Json.Printer
import SiteSettings.Theme
import SiteSettings.Url

/-! The reasons for which a rule rejects a setting, and their wording. -/

namespace SiteSettings

/-- What is wrong in a navigation tree. -/
inductive NavProblem where
  | notAList (value : Value)
  | badItem (item : Value)
  | notOneKey (keys : List String)
  | badTarget (title : String) (target : Value)

def NavProblem.message : NavProblem → String
  | .notAList value => s!"Expected nav to be a list, got a {value.kindName}: {Json.print value}"
  | .badItem item =>
    s!"Expected nav item to be a string or dict, got a {item.kindName}: {Json.print item}"
  | .notOneKey keys =>
    "Expected nav item to be a dict of size 1, got a dict with keys (" ++
      String.intercalate ", " keys ++ ")"
  | .badTarget title target =>
    s!"Expected nav item '{title}' to be a string or a list, got a {target.kindName}: " ++
      Json.print target

/-- Keys and directories of an output directory that clashes with an input directory. -/
structure Clash where
  site : String
  sitePath : Path
  docs : String
  docsPath : Path
deriving Repr, DecidableEq

def Clash.paths (clash : Clash) : String :=
  s!"({clash.site}: '{clash.sitePath.text}', {clash.docs}: '{clash.docsPath.text}')"

inductive Problem where
  | required
  | wrongKind (expected found : String)
  | wrongLength (expected : String) (length : Nat) (value : Value) (actual : Nat)
  | notAChoice (choices : List String) (found : String)
  | removed (notice : String)
  | noDirectory (path : Path)
  | noFile (path : Path)
  | sourcesOverwritten (clash : Clash)
  | copiedIntoItself (clash : Clash)
  | badUrl (error : UrlError)
  | urlWithoutHost
  | badAddress
  | badNav (problem : NavProblem)
  | item (index : Nat) (problem : Problem)
  /-- Errors of a nested configuration, folded into one. -/
  | nested (errors : List Diagnostic)
  | themeShape (found : String)
  | noThemeName
  | theme (error : ThemeError)

namespace Problem

/-- How a nested diagnostic shows in the field around it. -/
def nestedMessage (diagnostic : Diagnostic) : String :=
  s!"Sub-option '{diagnostic.field}': {diagnostic.message}"

def message : Problem → String
  | .required => "Required configuration not provided."
  | .wrongKind expected found => s!"Expected type: {expected} but received: {found}"
  | .wrongLength expected length value actual =>
    s!"Expected type: {expected} with length {length} but received: " ++
      s!"{Json.print value} with length {actual}"
  | .notAChoice choices found =>
    "Expected one of: [" ++ String.intercalate ", " choices ++ s!"] but received: {found}"
  | .removed notice => notice
  | .noDirectory path => s!"The path '{path.text}' isn't an existing directory."
  | .noFile path => s!"The path '{path.text}' isn't an existing file."
  | .sourcesOverwritten clash =>
    s!"The '{clash.docs}' should not be within the '{clash.site}' as this can mean the source " ++
      "files are overwritten by the output or it will be deleted if --clean is passed. " ++
      clash.paths
  | .copiedIntoItself clash =>
    s!"The '{clash.site}' should not be within the '{clash.docs}' as this leads to the build " ++
      s!"directory being copied into itself and duplicate nested files in the '{clash.site}'. " ++
      clash.paths
  | .badUrl error => s!"Unable to parse the URL: {error.message}"
  | .urlWithoutHost => "The URL isn't valid, it should include the http:// (scheme)"
  | .badAddress => "Must be a string of format 'IP:PORT'"
  | .badNav problem => problem.message
  | .item index problem => s!"[{index}] {problem.message}"
  | .nested errors => String.intercalate "; " (errors.map nestedMessage)
  | .themeShape found =>
    "Invalid type \"" ++ found ++ "\". Expected a string or key/value pairs."
  | .noThemeName => "No theme name set."
  | .theme error => error.message

/-- Advice on how to mend the problem; nested problems pass on the first there is. -/
def hint? : Problem → Option String
  | .badUrl _ => some "include the scheme, e.g. https://example.com/"
  | .item _ problem => problem.hint?
  | .nested errors => errors.findSome? Diagnostic.hint
  | .theme error => error.hint?
  | _ => none

def toDiagnostic (field : String) (problem : Problem) : Diagnostic :=
  ⟨field, problem.message, problem.hint?⟩

end Problem

end SiteSettings
