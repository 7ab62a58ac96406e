/-! Digits of numbers in texts, up to radix sixteen. Only ASCII digits count. -/

namespace SiteSettings.Text

def digitValue? (radix : Nat) (c : Char) : Option Nat :=
  let value? : Option Nat :=
    if '0' ≤ c ∧ c ≤ '9' then some (c.toNat - '0'.toNat)
    else if 'a' ≤ c ∧ c ≤ 'f' then some (c.toNat - 'a'.toNat + 10)
    else if 'A' ≤ c ∧ c ≤ 'F' then some (c.toNat - 'A'.toNat + 10)
    else none
  value?.filter (· < radix)

/-- The longest run of digits in front, and what follows it. -/
def spanDigits (radix : Nat) : List Char → List Nat × List Char
  | [] => ([], [])
  | c :: rest =>
    match digitValue? radix c with
    | some digit => let (digits, rest) := spanDigits radix rest; (digit :: digits, rest)
    | none => ([], c :: rest)

def ofDigits (radix : Nat) (digits : List Nat) : Nat :=
  digits.foldl (fun n digit => n * radix + digit) 0

/-- A whole text of digits, at least one. -/
def parseDigits? (radix : Nat) (cs : List Char) : Option Nat :=
  match spanDigits radix cs with
  | (digit :: digits, []) => some (ofDigits radix (digit :: digits))
  | _ => none

end SiteSettings.Text
