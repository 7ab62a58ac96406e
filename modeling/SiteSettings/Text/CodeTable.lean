import SiteSettings.Text.Digits
import SiteSettings.Text.Split

/-! Tables of characters. A table is a text, so that it can be read and compared as one:
code points stand in hexadecimal, and characters for themselves. -/

namespace SiteSettings.Text

def words (cs : List Char) : List (List Char) :=
  (splitOn ' ' cs).filter fun word => !word.isEmpty

/-- The words of each line. -/
def tableLines (table : String) : List (List (List Char)) :=
  (splitOn '\n' table.toList).map words

/-- Code points from `first` to `last`. -/
structure CodeRange where
  first : Nat
  last : Nat
deriving Repr, DecidableEq

namespace CodeRange

/-- A range is written `41-5A`, a single code point `B5`. -/
def parse? (word : List Char) : Option CodeRange :=
  match splitOn '-' word with
  | [code] => (parseDigits? 16 code).map fun code => ⟨code, code⟩
  | [first, last] => do return ⟨← parseDigits? 16 first, ← parseDigits? 16 last⟩
  | _ => none

def ofTable (table : String) : List CodeRange := (tableLines table).flatten.filterMap parse?

def contains (range : CodeRange) (code : Nat) : Bool := range.first ≤ code && code ≤ range.last

end CodeRange

def inRanges (ranges : List CodeRange) (c : Char) : Bool :=
  ranges.any fun range => range.contains c.toNat

/-- Texts for code points that are `step` apart, beginning at `first`. -/
structure CodeRow where
  first : Nat
  step : Nat
  texts : List (List Char)

namespace CodeRow

/-- A line begins with its first code point, as `C0` or, with a step, as `100/2`. -/
def parse? : List (List Char) → Option CodeRow
  | [] => none
  | head :: texts =>
    match splitOn '/' head with
    | [first] => (parseDigits? 16 first).map fun first => ⟨first, 1, texts⟩
    | [first, step] => do return ⟨← parseDigits? 16 first, ← parseDigits? 10 step, texts⟩
    | _ => none

def ofTable (table : String) : List CodeRow := (tableLines table).filterMap parse?

def find? (row : CodeRow) (code : Nat) : Option (List Char) :=
  if row.first ≤ code ∧ (code - row.first) % row.step = 0 then
    row.texts[(code - row.first) / row.step]?
  else none

end CodeRow

def findInRows? (rows : List CodeRow) (c : Char) : Option (List Char) :=
  rows.findSome? fun row => row.find? c.toNat

end SiteSettings.Text
