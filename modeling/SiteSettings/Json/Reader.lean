import SiteSettings.Text.Digits
import SiteSettings.Value

/-! Reading JSON text. Objects keep the order of their members, a repeated key
keeps its first place and last value, and a number outside the 64-bit integers
becomes a float. -/

namespace SiteSettings.Json

/-- A run of digits being read: the digits that fit in 64 bits, and the power of
ten by which those read since have shifted them. -/
structure Significand where
  value : Nat
  exponent : Int
  full : Bool

namespace Significand

/-- Once the digits no longer fit, later digits of the same part count for their
place only: an integer digit as a zero, a decimal not at all. -/
def push (s : Significand) (decimal : Bool) (digit : Nat) : Significand :=
  let grown := s.value * 10 + digit
  if s.full ∨ UInt64.size ≤ grown then
    { s with full := true, exponent := if decimal then s.exponent else s.exponent + 1 }
  else { s with value := grown, exponent := if decimal then s.exponent - 1 else s.exponent }

/-- Scales by `10 ^ exponent` in steps that keep the power of ten finite, rounding at each. -/
def scaleBy (x : Binary64) (exponent : Int) : Option Binary64 :=
  if exponent.natAbs ≤ 308 then
    let power := Binary64.ofDecimal false 1 exponent.natAbs
    if 0 ≤ exponent then
      let scaled := x.mul power
      if scaled.isFinite then some scaled else none
    else some (x.div power)
  else if x.isZero then some x
  else if 0 ≤ exponent then none
  else scaleBy (x.div (Binary64.ofDecimal false 1 308)) (exponent + 308)
termination_by exponent.natAbs
decreasing_by omega

/-- Rounded to a float first and scaled afterwards; `none` when it is too large. -/
def toFloat? (s : Significand) (negative : Bool) : Option Binary64 :=
  scaleBy (Binary64.ofRatio negative s.value 1) s.exponent

end Significand

def pushDigits (decimal : Bool) : Significand → List Char → Significand × List Char
  | s, [] => (s, [])
  | s, c :: rest =>
    match Text.digitValue? 10 c with
    | some digit => pushDigits decimal (s.push decimal digit) rest
    | none => (s, c :: rest)

private def startsWithDigit : List Char → Bool
  | c :: _ => c.isDigit
  | [] => false

/-- The exponent after `e`, with an optional sign. -/
def readExponent (cs : List Char) : Option (Int × List Char) :=
  let (negative, cs) : Bool × List Char :=
    match cs with
    | '-' :: rest => (true, rest)
    | '+' :: rest => (false, rest)
    | _ => (false, cs)
  match Text.spanDigits 10 cs with
  | ([], _) => none
  | (digits, rest) =>
    let size : Int := Text.ofDigits 10 digits
    some (if negative then -size else size, rest)

/-- A number after its sign. -/
def readUnsigned (negative : Bool) (cs : List Char) : Option (Number × List Char) := do
  guard (startsWithDigit cs)
  let (whole, cs) ←
    match cs with
    | '0' :: rest => if startsWithDigit rest then none else some (⟨0, 0, false⟩, rest)
    | _ => some (pushDigits false ⟨0, 0, false⟩ cs)
  let (significand, fractional, cs) ←
    match cs with
    | '.' :: rest =>
      if startsWithDigit rest then
        let (s, rest) := pushDigits true { whole with full := false } rest
        some (s, true, rest)
      else none
    | _ => some (whole, false, cs)
  let (exponent, scientific, cs) ←
    match cs with
    | 'e' :: rest | 'E' :: rest => (readExponent rest).map fun (e, rest) => (e, true, rest)
    | _ => some (0, false, cs)
  if fractional ∨ scientific ∨ significand.full then
    let s := { significand with exponent := significand.exponent + exponent }
    return (.float (← s.toFloat? negative), cs)
  else if negative ∧ (significand.value = 0 ∨ 0x8000000000000000 < significand.value) then
    return (.float (← significand.toFloat? negative), cs)
  else return (.integer (if negative then -(significand.value : Int) else significand.value), cs)

def readNumber : List Char → Option (Number × List Char)
  | '-' :: rest => readUnsigned true rest
  | cs => readUnsigned false cs

/-- Four hexadecimal digits. -/
def readUnit : List Char → Option (Nat × List Char)
  | a :: b :: c :: d :: rest => do
    let a ← Text.digitValue? 16 a
    let b ← Text.digitValue? 16 b
    let c ← Text.digitValue? 16 c
    let d ← Text.digitValue? 16 d
    return (((a * 16 + b) * 16 + c) * 16 + d, rest)
  | _ => none

/-- The character of a `\u` escape; one beyond the first plane takes two of them. -/
def readCodePoint (cs : List Char) : Option (Char × List Char) := do
  let (high, rest) ← readUnit cs
  if 0xD800 ≤ high ∧ high < 0xDC00 then
    match rest with
    | '\\' :: 'u' :: rest =>
      let (low, rest) ← readUnit rest
      guard (0xDC00 ≤ low ∧ low < 0xE000)
      return (Char.ofNat (0x10000 + (high - 0xD800) * 0x400 + (low - 0xDC00)), rest)
    | _ => none
  else
    guard ¬(0xDC00 ≤ high ∧ high < 0xE000)
    return (Char.ofNat high, rest)

def simpleEscape? : Char → Option Char
  | '"' => some '"'
  | '\\' => some '\\'
  | '/' => some '/'
  | 'b' => some '\x08'
  | 'f' => some '\x0c'
  | 'n' => some '\n'
  | 'r' => some '\r'
  | 't' => some '\t'
  | _ => none

/-- The rest of a text after its opening quote; `fuel` bounds its characters. -/
def readText : Nat → List Char → List Char → Option (String × List Char)
  | 0, _, _ => none
  | _ + 1, _, [] => none
  | fuel + 1, done, c :: rest =>
    if c = '"' then some (String.ofList done.reverse, rest)
    else if c = '\\' then
      match rest with
      | 'u' :: rest =>
        match readCodePoint rest with
        | some (c, rest) => readText fuel (c :: done) rest
        | none => none
      | e :: rest =>
        match simpleEscape? e with
        | some c => readText fuel (c :: done) rest
        | none => none
      | [] => none
    else if c.toNat < 0x20 then none
    else readText fuel (c :: done) rest

def skipBlanks (cs : List Char) : List Char :=
  cs.dropWhile fun c => c = ' ' ∨ c = '\n' ∨ c = '\t' ∨ c = '\r'

private def expect : List Char → List Char → Option (List Char)
  | [], cs => some cs
  | w :: word, c :: cs => if w = c then expect word cs else none
  | _ :: _, [] => none

mutual

/-- One value; `fuel` bounds the steps and the length of the text is enough. -/
def readValue : Nat → List Char → Option (Value × List Char)
  | 0, _ => none
  | fuel + 1, cs =>
    match skipBlanks cs with
    | 'n' :: rest => (expect "ull".toList rest).map fun rest => (.null, rest)
    | 't' :: rest => (expect "rue".toList rest).map fun rest => (.boolean true, rest)
    | 'f' :: rest => (expect "alse".toList rest).map fun rest => (.boolean false, rest)
    | '"' :: rest => (readText (rest.length + 1) [] rest).map fun (text, rest) => (.text text, rest)
    | '[' :: rest =>
      match skipBlanks rest with
      | ']' :: rest => some (.list [], rest)
      | rest => (readItems fuel rest).map fun (items, rest) => (.list items, rest)
    | '\x7b' :: rest =>
      match skipBlanks rest with
      | '\x7d' :: rest => some (.object .empty, rest)
      | rest => (readMembers fuel rest).map fun (members, rest) => (.ofMembers members, rest)
    | rest => (readNumber rest).map fun (n, rest) => (.number n, rest)

def readItems : Nat → List Char → Option (List Value × List Char)
  | 0, _ => none
  | fuel + 1, cs =>
    match readValue fuel cs with
    | none => none
    | some (item, rest) =>
      match skipBlanks rest with
      | ',' :: rest => (readItems fuel rest).map fun (items, rest) => (item :: items, rest)
      | ']' :: rest => some ([item], rest)
      | _ => none

def readMembers : Nat → List Char → Option (List (String × Value) × List Char)
  | 0, _ => none
  | fuel + 1, cs =>
    match skipBlanks cs with
    | '"' :: rest =>
      match readText (rest.length + 1) [] rest with
      | none => none
      | some (key, rest) =>
        match skipBlanks rest with
        | ':' :: rest =>
          match readValue fuel rest with
          | none => none
          | some (value, rest) =>
            match skipBlanks rest with
            | ',' :: rest =>
              (readMembers fuel rest).map fun (members, rest) => ((key, value) :: members, rest)
            | '\x7d' :: rest => some ([(key, value)], rest)
            | _ => none
        | _ => none
    | _ => none

end

/-- The value that a whole text denotes. -/
def read? (text : String) : Option Value :=
  let cs := text.toList
  match readValue (cs.length + 1) cs with
  | some (value, rest) => if (skipBlanks rest).isEmpty then some value else none
  | none => none

end SiteSettings.Json
