import SiteSettings.Text.Digits
import SiteSettings.Text.Split

/-! IPv4 addresses in dotted notation: four decimal numbers below 256 without
leading zeros. -/

namespace SiteSettings

structure Ipv4 where
  first : UInt8
  second : UInt8
  third : UInt8
  fourth : UInt8
deriving Repr, BEq, DecidableEq

namespace Ipv4

def localhost : Ipv4 := ⟨127, 0, 0, 1⟩

def unspecified : Ipv4 := ⟨0, 0, 0, 0⟩

def print (ip : Ipv4) : List Char :=
  Text.join '.' ([ip.first, ip.second, ip.third, ip.fourth].map fun octet =>
    Nat.toDigits 10 octet.toNat)

/-- One number in front of the text: at most three digits, no zero before others. -/
def readOctet? (cs : List Char) : Option (UInt8 × List Char) :=
  match Text.spanDigits 10 cs with
  | (digit :: digits, rest) =>
    let value := Text.ofDigits 10 (digit :: digits)
    if 2 < digits.length ∨ (digit = 0 ∧ digits ≠ []) ∨ 255 < value then none
    else some (UInt8.ofNat value, rest)
  | ([], _) => none

/-- A number with a dot before it. -/
def readDotted? : List Char → Option (UInt8 × List Char)
  | '.' :: rest => readOctet? rest
  | _ => none

/-- An address in front of the text, and what follows it. -/
def read? (cs : List Char) : Option (Ipv4 × List Char) := do
  let (first, cs) ← readOctet? cs
  let (second, cs) ← readDotted? cs
  let (third, cs) ← readDotted? cs
  let (fourth, cs) ← readDotted? cs
  return (⟨first, second, third, fourth⟩, cs)

def parse? (cs : List Char) : Option Ipv4 :=
  match read? cs with
  | some (ip, []) => some ip
  | _ => none

end Ipv4

end SiteSettings
