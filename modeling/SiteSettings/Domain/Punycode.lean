import SiteSettings.Text.Split

/-! Punycode: a text over ASCII for a text over all characters. The ASCII characters come
first; the others follow as steps through all pairs of a code point and a position, each
step a number in base 36 whose digits shift their meaning with the sizes seen before. -/

namespace SiteSettings.Domain.Punycode

/-- Letters stand for the digits below 26, and then come the decimal digits. -/
def digitChar (n : Nat) : Char :=
  if n < 26 then Char.ofNat (0x61 + n) else Char.ofNat (0x30 + n - 26)

def digitValue? (c : Char) : Option Nat :=
  if 'a' ≤ c ∧ c ≤ 'z' then some (c.toNat - 0x61)
  else if 'A' ≤ c ∧ c ≤ 'Z' then some (c.toNat - 0x41)
  else if '0' ≤ c ∧ c ≤ '9' then some (c.toNat - 0x30 + 26)
  else none

/-- Digits below the threshold of their place end a number. -/
def threshold (place bias : Nat) : Nat := max 1 (min 26 (place - bias))

theorem threshold_pos (place bias : Nat) : 0 < threshold place bias := by
  unfold threshold
  omega

/-- Splits off a factor of 35 for every place that numbers of this size need. -/
def shrink (delta place : Nat) : Nat :=
  if 455 < delta then shrink (delta / 35) (place + 36) else place + 36 * delta / (delta + 38)
termination_by delta
decreasing_by omega

/-- The bias after a step of the given size, to what is now `size` characters. The first
step is larger than the others. -/
def adapt (delta size : Nat) (first : Bool) : Nat :=
  let scaled := if first then delta / 700 else delta / 2
  shrink (scaled + scaled / size) 0

/-- The digits of a number, lowest place first. -/
def encodeNumber (bias place n : Nat) : List Char :=
  let least := threshold place bias
  if n < least then [digitChar n]
  else
    digitChar (least + (n - least) % (36 - least)) ::
      encodeNumber bias (place + 36) ((n - least) / (36 - least))
termination_by n
decreasing_by
  have := threshold_pos place bias
  have := Nat.div_le_self (n - threshold place bias) (36 - threshold place bias)
  omega

/-- A writer between two characters: how many pairs it has passed since the last step,
the bias, and how many characters are done. -/
structure Writer where
  output : List Char
  delta : Nat
  bias : Nat
  done : Nat

/-- Passes one position at code point `code`. -/
def Writer.pass (basic code : Nat) (writer : Writer) (c : Char) : Writer :=
  if c.toNat < code then { writer with delta := writer.delta + 1 }
  else if c.toNat = code then
    { output := writer.output ++ encodeNumber writer.bias 36 writer.delta
      delta := 0
      bias := adapt writer.delta (writer.done + 1) (writer.done = basic)
      done := writer.done + 1 }
  else writer

/-- Goes through the code points that occur, in order. `start` is the first one not passed. -/
def encodeCodes (text : List Char) (basic : Nat) : Nat → List Nat → Writer → Writer
  | _, [], writer => writer
  | start, code :: rest, writer =>
    let writer := { writer with delta := writer.delta + (code - start) * (writer.done + 1) }
    let writer := text.foldl (Writer.pass basic code) writer
    encodeCodes text basic (code + 1) rest { writer with delta := writer.delta + 1 }

def encode (text : List Char) : List Char :=
  let basic := text.filter fun c => c.toNat < 0x80
  let codes := ((text.map Char.toNat).filter fun code => 0x80 ≤ code).eraseDups.mergeSort
  let start : Writer := ⟨if basic.isEmpty then [] else basic ++ ['-'], 0, 72, basic.length⟩
  (encodeCodes text basic.length 0x80 codes start).output

/-- Reads one number: its value and what follows it. -/
def decodeNumber (bias : Nat) : Nat → Nat → Nat → List Char → Option (Nat × List Char)
  | _, _, _, [] => none
  | place, weight, sum, c :: rest => do
    let digit ← digitValue? c
    let sum := sum + digit * weight
    let least := threshold place bias
    if digit < least then return (sum, rest)
    else decodeNumber bias (place + 36) (weight * (36 - least)) sum rest

theorem length_of_decodeNumber {bias place weight sum n : Nat} {cs rest : List Char}
    (read : decodeNumber bias place weight sum cs = some (n, rest)) : rest.length < cs.length := by
  induction cs generalizing place weight sum with
  | nil => simp [decodeNumber] at read
  | cons c cs ih =>
    cases value : digitValue? c with
    | none => simp [decodeNumber, value] at read
    | some digit =>
      simp only [decodeNumber, value, bind, Option.bind] at read
      split at read
      · obtain ⟨_, rfl⟩ := Prod.mk.inj (Option.some.inj read)
        simp
      · have := ih read
        simp only [List.length_cons]
        omega

/-- Inserts characters into `text`; `code` and `position` are where the last step ended. -/
def decodeSteps (text : List Char) (code position bias : Nat) (first : Bool) (cs : List Char) :
    Option (List Char) :=
  if cs.isEmpty then some text
  else
    match read : decodeNumber bias 36 1 0 cs with
    | none => none
    | some (delta, rest) =>
      let size := text.length + 1
      let code := code + (position + delta) / size
      let position := (position + delta) % size
      if code.isValidChar then
        decodeSteps (text.insertIdx position (Char.ofNat code)) code (position + 1)
          (adapt delta size first) false rest
      else none
termination_by cs.length
decreasing_by exact length_of_decodeNumber read

/-- The part before the last hyphen stands for itself. -/
def decode (cs : List Char) : Option (List Char) :=
  match Text.splitLast? '-' cs with
  | some (basic, rest) => decodeSteps basic 0x80 0 72 true rest
  | none => decodeSteps [] 0x80 0 72 true cs

end SiteSettings.Domain.Punycode
