import SiteSettings.Binary64.Shortest
import SiteSettings.Value

/-! Compact JSON text of a value: no spaces, members in their order, floats by
their shortest digits. -/

namespace SiteSettings.Json

/-- Where a float is written without an exponent: from `lowest` to `highest`,
the places of the first digit. -/
structure FloatLayout where
  lowest : Int
  highest : Int

/-- Between `0.00001` and `1000000000000000.0` a float is written out. -/
def floatLayout : FloatLayout := ⟨-5, 15⟩

def digits (n : Nat) : List Char := Nat.toDigits 10 n

private def zeros (n : Nat) : List Char := List.replicate n '0'

/-- A fraction always follows the point. -/
def positional (decimal : Decimal) : List Char :=
  let shown := digits decimal.digits
  if 0 ≤ decimal.exponent then shown ++ zeros decimal.exponent.toNat ++ ['.', '0']
  else
    let places := (-decimal.exponent).toNat
    if places < shown.length then
      shown.take (shown.length - places) ++ '.' :: shown.drop (shown.length - places)
    else '0' :: '.' :: zeros (places - shown.length) ++ shown

/-- One digit, the others after a point, and the exponent with its sign. -/
def scientific (decimal : Decimal) (place : Int) : List Char :=
  let exponent := (if place < 0 then '-' else '+') :: digits place.natAbs
  match digits decimal.digits with
  | [] => []
  | [first] => first :: 'e' :: exponent
  | first :: rest => first :: '.' :: rest ++ 'e' :: exponent

def printFloat (layout : FloatLayout) (x : Binary64) : String :=
  let decimal := x.shortest
  let place : Int := (digits decimal.digits).length - 1 + decimal.exponent
  let unsigned :=
    if layout.lowest ≤ place ∧ place ≤ layout.highest then positional decimal
    else scientific decimal place
  String.ofList (if x.isNegative then '-' :: unsigned else unsigned)

def printInt (n : Int) : String :=
  String.ofList (if n < 0 then '-' :: digits n.natAbs else digits n.natAbs)

/-- A float that is not finite has no number in JSON. -/
def printNumber : Number → String
  | .integer n => printInt n
  | .float x => if x.isFinite then printFloat floatLayout x else "null"

private def lowerHexDigit (n : Nat) : Char := (Nat.toDigits 16 n).headD '0'

/-- Quotes, backslashes and control characters are escaped, all else stands for itself. -/
def escapeChar (c : Char) : List Char :=
  if c = '"' then ['\\', '"']
  else if c = '\\' then ['\\', '\\']
  else if 0x20 ≤ c.toNat then [c]
  else if c = '\x08' then ['\\', 'b']
  else if c = '\t' then ['\\', 't']
  else if c = '\n' then ['\\', 'n']
  else if c = '\x0c' then ['\\', 'f']
  else if c = '\r' then ['\\', 'r']
  else ['\\', 'u', '0', '0', lowerHexDigit (c.toNat / 16), lowerHexDigit (c.toNat % 16)]

def printText (text : String) : String :=
  String.ofList ('"' :: text.toList.flatMap escapeChar ++ ['"'])

mutual

def print : Value → String
  | .null => "null"
  | .boolean true => "true"
  | .boolean false => "false"
  | .number n => printNumber n
  | .text text => printText text
  | .list items => "[" ++ String.intercalate "," (printItems items) ++ "]"
  | .object ⟨members⟩ => "\x7b" ++ String.intercalate "," (printMembers members) ++ "\x7d"

def printItems : List Value → List String
  | [] => []
  | item :: rest => print item :: printItems rest

def printMembers : List (String × Value) → List String
  | [] => []
  | (key, value) :: rest => (printText key ++ ":" ++ print value) :: printMembers rest

end

end SiteSettings.Json
