import SiteSettings.Domain.Mapping
import SiteSettings.Domain.Punycode
import SiteSettings.Text.Composition
import SiteSettings.Text.Direction
import SiteSettings.Text.Joining

/-! Labels of domains: the parts between dots. One that holds other characters than ASCII
is written in ASCII after a mark of its own. -/

namespace SiteSettings.Domain

def encodedMark : List Char := ['x', 'n', '-', '-']

def isAscii (label : List Char) : Bool := label.all fun c => c.toNat < 0x80

/-- The longest label that is encoded, and the longest one that is decoded. -/
def maxEncoded : Nat := 1000
def maxDecoded : Nat := 2000

/-- Only plain characters, no mark in front, and joiners only where they have an effect. -/
def isSoundLabel (label : List Char) : Bool :=
  label.all isPlain && !label.head?.any Text.isMark && Text.joinersFit [] label

/-- An encoded label must have needed the encoding. -/
def decodeLabel? (encoded : List Char) : Option (List Char) := do
  guard (encoded.length ≤ maxDecoded)
  let label ← Punycode.decode encoded
  guard (!isAscii label && Text.compose label == label)
  return label

/-- The label that a mapped and composed text spells. -/
def readLabel? (text : List Char) : Option (List Char) := do
  let label ←
    if encodedMark.isPrefixOf text then decodeLabel? (text.drop encodedMark.length)
    else if isAscii text || text.length ≤ maxEncoded then some text
    else none
  guard (isSoundLabel label && !encodedMark.isPrefixOf label)
  return label

def printLabel (label : List Char) : List Char :=
  if isAscii label then label else encodedMark ++ Punycode.encode label

/-- Whether a label makes its domain one that is written in two directions. -/
def holdsRight (label : List Char) : Bool :=
  label.any fun c => Text.direction c = .right || Text.direction c = .arabicNumber

/-- A label runs in the direction of its first character, which must be a letter, and
ends in a letter or a number, marks aside. One that runs to the right end may not
mix both kinds of numbers. -/
def runsOneWay (label : List Char) : Bool :=
  let directions := label.map Text.direction
  let last? := (directions.reverse.dropWhile (· = .mark)).head?
  match directions with
  | [] => true
  | .left :: _ =>
    !directions.contains .right && !directions.contains .arabicNumber &&
      last?.any fun last => last = .left || last = .europeanNumber
  | .right :: _ =>
    !directions.contains .left &&
      !(directions.contains .europeanNumber && directions.contains .arabicNumber) &&
      last?.any fun last => last ≠ .neutral
  | _ => false

end SiteSettings.Domain
