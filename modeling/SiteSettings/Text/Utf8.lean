/-! Bytes read as UTF-8. What is not text there becomes replacement characters: one for a byte that
begins nothing, and one for a character that was begun and does not go on. -/

namespace SiteSettings.Text

/-- What stands for bytes that are not text. -/
def replacement : Char := '\uFFFD'

/-- A character that was begun: how many bytes come behind the next one, between which bounds the
next one has to be, and the code so far. -/
structure Begun where
  later : Nat
  least : Nat
  most : Nat
  code : Nat

/-- What a first byte says or begins. The bounds of the second byte leave out the codes that have a
shorter spelling and those that no character has. -/
def begin (byte : Nat) : List Char × Option Begun :=
  if byte < 0x80 then ([Char.ofNat byte], none)
  else if 0xC2 ≤ byte ∧ byte ≤ 0xDF then ([], some ⟨0, 0x80, 0xBF, byte - 0xC0⟩)
  else if 0xE0 ≤ byte ∧ byte ≤ 0xEF then
    let least := if byte = 0xE0 then 0xA0 else 0x80
    let most := if byte = 0xED then 0x9F else 0xBF
    ([], some ⟨1, least, most, byte - 0xE0⟩)
  else if 0xF0 ≤ byte ∧ byte ≤ 0xF4 then
    let least := if byte = 0xF0 then 0x90 else 0x80
    let most := if byte = 0xF4 then 0x8F else 0xBF
    ([], some ⟨2, least, most, byte - 0xF0⟩)
  else ([replacement], none)

/-- Takes the next byte. If what was begun does not go on with it, it is a first byte again. -/
def next : Option Begun → Nat → List Char × Option Begun
  | none, byte => begin byte
  | some ⟨later, least, most, code⟩, byte =>
    if least ≤ byte ∧ byte ≤ most then
      let code := code * 64 + (byte - 0x80)
      match later with
      | 0 => ([Char.ofNat code], none)
      | later + 1 => ([], some ⟨later, 0x80, 0xBF, code⟩)
    else
      let (text, begun) := begin byte
      (replacement :: text, begun)

def readOn : Option Begun → List UInt8 → List Char
  | none, [] => []
  | some _, [] => [replacement]
  | begun, byte :: rest =>
    let (text, begun) := next begun byte.toNat
    text ++ readOn begun rest

/-- Reads all bytes, whether or not they are text. -/
def readLossy (bytes : List UInt8) : List Char := readOn none bytes

end SiteSettings.Text
