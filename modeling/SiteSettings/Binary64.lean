/-! Binary floating-point numbers of 64 bits, kept as their bits. A finite one is
`significand * 2 ^ scale` up to its sign, and every operation rounds an exact
quotient of natural numbers once. -/

namespace SiteSettings

structure Binary64 where
  bits : UInt64
deriving Repr, BEq, DecidableEq

/-- The integer nearest to `num / den`; a tie goes to the even one. -/
def roundDiv (num den : Nat) : Nat :=
  let floor := num / den
  let rest := num % den
  if 2 * rest > den ∨ (2 * rest = den ∧ floor % 2 = 1) then floor + 1 else floor

namespace Binary64

/-- The weight of the bit that holds the sign. -/
def signWeight : Nat := 0x8000000000000000

/-- The weight of the lowest bit of the exponent, and of a significand's leading bit. -/
def leadingWeight : Nat := 0x10000000000000

def isNegative (x : Binary64) : Bool := signWeight ≤ x.bits.toNat

def exponentField (x : Binary64) : Nat := x.bits.toNat / leadingWeight % 2048

def fractionField (x : Binary64) : Nat := x.bits.toNat % leadingWeight

/-- Neither an infinity nor a NaN. -/
def isFinite (x : Binary64) : Bool := x.exponentField != 2047

/-- The leading bit is implicit unless the exponent field is zero. -/
def significand (x : Binary64) : Nat :=
  if x.exponentField = 0 then x.fractionField else x.fractionField + leadingWeight

def scale (x : Binary64) : Int :=
  if x.exponentField = 0 then -1074 else (x.exponentField : Int) - 1075

def isZero (x : Binary64) : Bool := x.bits.toNat % signWeight = 0

/-- Sign and magnitude put together; a magnitude is the bits without the sign. -/
def ofMagnitude (negative : Bool) (magnitude : Nat) : Binary64 :=
  ⟨UInt64.ofNat (if negative then magnitude + signWeight else magnitude)⟩

def zero (negative : Bool) : Binary64 := ofMagnitude negative 0

def infinity (negative : Bool) : Binary64 := ofMagnitude negative (2047 * leadingWeight)

def nan : Binary64 := ofMagnitude false (2047 * leadingWeight + leadingWeight / 2)

/-- `num * 2 ^ shift / den` as a quotient of natural numbers. -/
def shiftRatio (num den : Nat) (shift : Int) : Nat × Nat :=
  if 0 ≤ shift then (num <<< shift.toNat, den) else (num, den <<< (-shift).toNat)

/-- The number nearest to `num / den`, with ties to the even significand and
too large a quotient to infinity. The unit in the last place is `2 ^ unit`,
chosen so that 53 bits remain or the least unit is reached. -/
def ofRatio (negative : Bool) (num den : Nat) : Binary64 :=
  if num = 0 then zero negative
  else
    let guess : Int := max ((num.log2 : Int) - den.log2 - 53) (-1074)
    let (top, bottom) := shiftRatio num den (-guess)
    let unit := if 2 * leadingWeight ≤ top / bottom then guess + 1 else guess
    let (top, bottom) := shiftRatio num den (-unit)
    let magnitude := (unit + 1074).toNat * leadingWeight + roundDiv top bottom
    if 2047 * leadingWeight ≤ magnitude then infinity negative else ofMagnitude negative magnitude

/-- The exact magnitude of a finite number as a quotient. -/
def toRatio (x : Binary64) : Nat × Nat := shiftRatio x.significand 1 x.scale

def countDigits (n : Nat) : Nat := (Nat.toDigits 10 n).length

/-- The number nearest to `digits * 10 ^ exponent`. Beyond 310 decimal places
above the point everything is infinite, and below 330 after it zero. -/
def ofDecimal (negative : Bool) (digits : Nat) (exponent : Int) : Binary64 :=
  let places : Int := countDigits digits + exponent
  if digits = 0 ∨ places < -330 then zero negative
  else if places > 310 then infinity negative
  else if 0 ≤ exponent then ofRatio negative (digits * Nat.pow 10 exponent.toNat) 1
  else ofRatio negative digits (Nat.pow 10 (-exponent).toNat)

/-- Product of finite numbers, rounded once. -/
def mul (x y : Binary64) : Binary64 :=
  let (a, b) := x.toRatio
  let (c, d) := y.toRatio
  ofRatio (x.isNegative != y.isNegative) (a * c) (b * d)

/-- Quotient of finite numbers by a nonzero one, rounded once. -/
def div (x y : Binary64) : Binary64 :=
  let (a, b) := x.toRatio
  let (c, d) := y.toRatio
  ofRatio (x.isNegative != y.isNegative) (a * d) (b * c)

end Binary64

end SiteSettings
