import SiteSettings.Rule.Scalar

/-! The phases around coercion. Before it, legacy fields look at what the user staged
and may move it; after it, an output directory is compared with an input directory. -/

namespace SiteSettings.Rule

/-- What a legacy field leaves behind. -/
structure Preparation where
  slots : OrderedMap Setting
  warnings : List String
  problem : Option Problem

def removedText (notice : Notice) (key : String) : String :=
  notice.describe s!"The configuration option '{key}' was removed."

def deprecatedText (notice : Notice) (key : String) : String :=
  notice.describe
    (s!"The configuration option '{key}' has been deprecated and will be removed " ++
      "in a future release.")

/-- The value of a deprecated field goes to its successor unless that has one already. -/
def moveValue (target : Option String) (key : String) (value : Setting)
    (slots : OrderedMap Setting) : OrderedMap Setting :=
  let vacated := slots.erase key
  match target with
  | some target =>
    if vacated.contains target then vacated.insert key value else vacated.insert target value
  | none => vacated.insert key value

/-- Any value counts for a removed field, even null; for a deprecated one null does not. -/
def prepare (rule : Rule) (key : String) (slots : OrderedMap Setting) : Preparation :=
  match rule with
  | .removed notice =>
    if slots.contains key then ⟨slots, [], some (.removed (removedText notice key))⟩
    else ⟨slots, [], none⟩
  | .deprecated notice _ =>
    match slots.get? key with
    | none => ⟨slots, [], none⟩
    | some value =>
      if value.isNull then ⟨slots, [], none⟩
      else ⟨moveValue notice.movedTo key value slots, [deprecatedText notice key], none⟩
  | _ => ⟨slots, [], none⟩

/-- The two directories may not contain each other nor be the same. -/
def clash? (environment : Environment) (base : Path) (siteKey docsKey site docs : String) :
    Option Problem :=
  let sitePath := environment.locate base site
  let docsPath := environment.locate base docs
  let clash : Clash := ⟨siteKey, sitePath, docsKey, docsPath⟩
  if Path.isSameOrAncestor sitePath docsPath then some (.sourcesOverwritten clash)
  else if Path.isSameOrAncestor docsPath sitePath then some (.copiedIntoItself clash)
  else none

def textAt? (slots : OrderedMap Setting) (key : String) : Option String :=
  (slots.get? key).bind Setting.text?

/-- Fields whose own rule failed are compared too, as the user wrote them. -/
def crossCheck (environment : Environment) (base : Path) (key : String)
    (slots : OrderedMap Setting) (rule : Rule) : Option Problem :=
  match rule with
  | .siteDirectory docsKey =>
    match textAt? slots key, textAt? slots docsKey with
    | some site, some docs => clash? environment base key docsKey site docs
    | _, _ => none
  | _ => none

end SiteSettings.Rule
