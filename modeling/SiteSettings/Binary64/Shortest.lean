import SiteSettings.Binary64

/-! The shortest decimal that reads back as a given number. A decimal reads back
when it lies in the interval of reals that round to the number; among the
shortest such decimals the nearest to the number is taken. -/

namespace SiteSettings

/-- `digits * 10 ^ exponent`, where `digits` has no trailing zero unless it is zero. -/
structure Decimal where
  digits : Nat
  exponent : Int
deriving Repr, DecidableEq

namespace Decimal

/-- Drops trailing zeros; the fuel is the number of digits. -/
def trimZeros : Nat → Nat → Int → Decimal
  | 0, digits, exponent => ⟨digits, exponent⟩
  | fuel + 1, digits, exponent =>
    if digits % 10 = 0 then trimZeros fuel (digits / 10) (exponent + 1) else ⟨digits, exponent⟩

end Decimal

namespace Binary64

/-- A decimal grid against a value and its rounding interval, all in quarters of
the unit in the last place: the step `10 ^ exponent` is `step` and the unit
`quarter` on one integer scale. -/
structure Grid where
  exponent : Int
  step : Nat
  quarter : Nat

def Grid.of (unit exponent : Int) : Grid where
  exponent := exponent
  step := Nat.pow 10 exponent.toNat <<< (2 - unit).toNat
  quarter := Nat.pow 10 (-exponent).toNat <<< (unit - 2).toNat

/-- The decimal exponent of a positive finite number: the place of its first digit.
No positive number is below `10 ^ (-330)`, so shifted by that much its integer part shows it. -/
def leadingPlace (x : Binary64) : Int :=
  let (num, den) := x.toRatio
  (countDigits (num * Nat.pow 10 330 / den) : Int) - 331

/-- A neighbour of the number on the grid that reads back, the nearer one if both do. -/
def readBack? (x : Binary64) (grid : Grid) : Option Decimal :=
  let middle := 4 * x.significand
  let below := if x.significand = leadingWeight ∧ 1 < x.exponentField then 1 else 2
  let closed := x.significand % 2 = 0
  let inside (digits : Nat) : Bool :=
    let point := digits * grid.step
    let low := (middle - below) * grid.quarter
    let high := (middle + 2) * grid.quarter
    if closed then low ≤ point ∧ point ≤ high else low < point ∧ point < high
  let floor := middle * grid.quarter / grid.step
  let rest := middle * grid.quarter % grid.step
  let upper := 2 * rest > grid.step ∨ (2 * rest = grid.step ∧ floor % 2 = 1)
  let nearer := if upper then floor + 1 else floor
  let farther := if upper then floor else floor + 1
  if inside nearer then some ⟨nearer, grid.exponent⟩
  else if inside farther then some ⟨farther, grid.exponent⟩
  else none

/-- The shortest decimal of a finite number's magnitude. Seventeen digits always read back. -/
def shortest (x : Binary64) : Decimal :=
  if x.isZero then ⟨0, 0⟩
  else
    let place := x.leadingPlace
    let grids := (List.range 17).map fun (digits : Nat) => Grid.of x.scale (place - digits)
    match grids.findSome? x.readBack? with
    | some ⟨digits, exponent⟩ => Decimal.trimZeros 17 digits exponent
    | none => ⟨0, 0⟩

end Binary64

end SiteSettings
