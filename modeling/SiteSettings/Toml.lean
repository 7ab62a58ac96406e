import SiteSettings.Toml.Moment
import SiteSettings.Value

/-! Values of TOML documents, and the plain data they stand for. -/

namespace SiteSettings

inductive Toml where
  | text (value : String)
  | integer (value : Int)
  | float (value : Binary64)
  | boolean (value : Bool)
  | moment (value : Toml.Moment)
  | array (items : List Toml)
  | table (members : OrderedMap Toml)
deriving Inhabited

namespace Toml

mutual

/-- Dates and times become texts, and a float that is not finite becomes null. -/
def toValue : Toml → Value
  | .text value => .text value
  | .integer value => .number (.integer value)
  | .float value => if value.isFinite then .number (.float value) else .null
  | .boolean value => .boolean value
  | .moment value => .text value.print
  | .array items => .list (toValues items)
  | .table ⟨members⟩ => .object ⟨toMembers members⟩

def toValues : List Toml → List Value
  | [] => []
  | item :: rest => item.toValue :: toValues rest

def toMembers : List (String × Toml) → List (String × Value)
  | [] => []
  | (key, item) :: rest => (key, item.toValue) :: toMembers rest

end

end Toml

end SiteSettings
