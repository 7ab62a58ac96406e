import SiteSettings.Theme

/-! What a field holds: data as the user wrote or a rule coerced it, or a theme
once it is resolved. -/

namespace SiteSettings

inductive Setting where
  | data (value : Value)
  | theme (theme : Theme)

namespace Setting

def isNull : Setting → Bool
  | .data .null => true
  | _ => false

def value? : Setting → Option Value
  | .data value => some value
  | .theme _ => none

def text? (setting : Setting) : Option String := setting.value?.bind Value.text?

def boolean? (setting : Setting) : Option Bool := setting.value?.bind Value.boolean?

def theme? : Setting → Option Theme
  | .data _ => none
  | .theme resolved => some resolved

def kindName : Setting → String
  | .data value => value.kindName
  | .theme _ => "theme"

/-- Plain data again; a theme is lowered to its variables. -/
def toValue : Setting → Value
  | .data value => value
  | .theme resolved => .object resolved.vars

end Setting

end SiteSettings
