import SiteSettings.Text.Digits

/-! Dates and times of TOML, with and without an offset. They are kept only to be
printed in one spelling. -/

namespace SiteSettings.Toml

structure Date where
  year : Nat
  month : Nat
  day : Nat
deriving Repr, DecidableEq

structure Time where
  hour : Nat
  minute : Nat
  second : Nat
  nanosecond : Nat
deriving Repr, DecidableEq

/-- Minutes east of Greenwich, or Greenwich itself by name. -/
inductive Offset where
  | zulu
  | minutes (east : Int)
deriving Repr, DecidableEq

inductive Moment where
  | date (date : Date)
  | time (time : Time)
  | dateTime (date : Date) (time : Time) (offset : Option Offset)
deriving Repr, DecidableEq

private def padded (width n : Nat) : List Char :=
  let shown := Nat.toDigits 10 n
  List.replicate (width - shown.length) '0' ++ shown

def Date.print (date : Date) : List Char :=
  padded 4 date.year ++ '-' :: padded 2 date.month ++ '-' :: padded 2 date.day

/-- A fraction shows as far as it is not zero. -/
def Time.print (time : Time) : List Char :=
  let fraction :=
    if time.nanosecond = 0 then []
    else '.' :: ((padded 9 time.nanosecond).reverse.dropWhile (· = '0')).reverse
  padded 2 time.hour ++ ':' :: padded 2 time.minute ++ ':' :: padded 2 time.second ++ fraction

def Offset.print : Offset → List Char
  | .zulu => ['Z']
  | .minutes east =>
    (if east < 0 then '-' else '+') :: padded 2 (east.natAbs / 60) ++
      ':' :: padded 2 (east.natAbs % 60)

def Moment.print : Moment → String
  | .date day => String.ofList day.print
  | .time clock => String.ofList clock.print
  | .dateTime day clock offset =>
    String.ofList (day.print ++ 'T' :: clock.print ++ (offset.map Offset.print).getD [])

/-- Exactly `count` digits in front, as a number. -/
def readFixed? (count : Nat) (cs : List Char) : Option (Nat × List Char) :=
  let digits := cs.take count
  if digits.length = count then (Text.parseDigits? 10 digits).map (·, cs.drop count) else none

private def skip? (mark : Char) : List Char → Option (List Char)
  | c :: rest => if c = mark then some rest else none
  | [] => none

def daysIn (year month : Nat) : Nat :=
  if month = 2 then
    if year % 4 = 0 ∧ (year % 100 ≠ 0 ∨ year % 400 = 0) then 29 else 28
  else if month = 4 ∨ month = 6 ∨ month = 9 ∨ month = 11 then 30
  else 31

def readDate? (cs : List Char) : Option (Date × List Char) := do
  let (year, cs) ← readFixed? 4 cs
  let (month, cs) ← readFixed? 2 (← skip? '-' cs)
  let (day, cs) ← readFixed? 2 (← skip? '-' cs)
  guard (1 ≤ month ∧ month ≤ 12 ∧ 1 ≤ day ∧ day ≤ daysIn year month)
  return (⟨year, month, day⟩, cs)

/-- Digits beyond the nanosecond are dropped. -/
def readFraction? : List Char → Option (Nat × List Char)
  | '.' :: rest =>
    match Text.spanDigits 10 rest with
    | ([], _) => none
    | (digits, rest) =>
      let digits := digits.take 9
      some (Text.ofDigits 10 digits * Nat.pow 10 (9 - digits.length), rest)
  | rest => some (0, rest)

/-- A leap second is let through. -/
def readTime? (cs : List Char) : Option (Time × List Char) := do
  let (hour, cs) ← readFixed? 2 cs
  let (minute, cs) ← readFixed? 2 (← skip? ':' cs)
  let (second, cs) ← readFixed? 2 (← skip? ':' cs)
  guard (hour ≤ 23 ∧ minute ≤ 59 ∧ second ≤ 60)
  let (nanosecond, cs) ← readFraction? cs
  return (⟨hour, minute, second, nanosecond⟩, cs)

def readOffset? : List Char → Option (Option Offset)
  | [] => some none
  | ['Z'] | ['z'] => some (some .zulu)
  | sign :: cs => do
    guard (sign = '+' ∨ sign = '-')
    let (hour, cs) ← readFixed? 2 cs
    let (minute, cs) ← readFixed? 2 (← skip? ':' cs)
    guard (hour ≤ 23 ∧ minute ≤ 59 ∧ cs.isEmpty)
    let size : Int := hour * 60 + minute
    return some (.minutes (if sign = '-' then -size else size))

/-- A whole text as a date, a time or both. Between them stands a `T` or one blank. -/
def Moment.parse? (cs : List Char) : Option Moment :=
  match readDate? cs with
  | some (day, []) => some (.date day)
  | some (day, mark :: rest) => do
    guard (mark = 'T' ∨ mark = 't' ∨ mark = ' ')
    let (clock, rest) ← readTime? rest
    return .dateTime day clock (← readOffset? rest)
  | none =>
    match readTime? cs with
    | some (clock, []) => some (.time clock)
    | _ => none

end SiteSettings.Toml
