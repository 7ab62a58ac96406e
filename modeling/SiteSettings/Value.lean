import SiteSettings.Binary64
import SiteSettings.OrderedMap

/-! Plain data: what a configuration document holds before and after validation. -/

namespace SiteSettings

/-- Integers fit in 64 bits, signed or unsigned; every other number is a float. -/
inductive Number where
  | integer (value : Int)
  | float (value : Binary64)
deriving Repr, BEq, DecidableEq

inductive Value where
  | null
  | boolean (value : Bool)
  | number (value : Number)
  | text (value : String)
  | list (items : List Value)
  | object (members : OrderedMap Value)
deriving Inhabited

namespace Value

/-- The name diagnostics give to a value's shape. -/
def kindName : Value → String
  | .null => "null"
  | .boolean _ => "bool"
  | .number (.integer _) => "int"
  | .number (.float _) => "float"
  | .text _ => "str"
  | .list _ => "list"
  | .object _ => "dict"

def isNull : Value → Bool
  | .null => true
  | _ => false

def text? : Value → Option String
  | .text value => some value
  | _ => none

def boolean? : Value → Option Bool
  | .boolean value => some value
  | _ => none

def list? : Value → Option (List Value)
  | .list items => some items
  | _ => none

def object? : Value → Option (OrderedMap Value)
  | .object members => some members
  | _ => none

def ofInt (n : Int) : Value := .number (.integer n)

/-- An object of known members. -/
def ofMembers (members : List (String × Value)) : Value := .object (.ofList members)

end Value

end SiteSettings
