import SiteSettings.Domain
import SiteSettings.Url
import SiteSettings.Url.Percent

/-! Reading hosts. Special schemes have domains or IP addresses in every spelling
that browsers take; other schemes keep any text that is safe to keep. -/

namespace SiteSettings.Url

/-- A part of a numeric host: decimal, octal after `0`, hexadecimal after `0x`.
A prefix alone is zero. -/
def readIpv4Number? : List Char → Option Nat
  | [] => none
  | '0' :: 'x' :: rest | '0' :: 'X' :: rest =>
    if rest.isEmpty then some 0 else Text.parseDigits? 16 rest
  | ['0'] => some 0
  | '0' :: rest => Text.parseDigits? 8 rest
  | cs => Text.parseDigits? 10 cs

private def withoutEmptyLast (parts : List (List Char)) : List (List Char) :=
  if parts.getLast? = some [] then parts.dropLast else parts

/-- Whether a domain is to be read as an IPv4 address: its last label, a final
empty one aside, is a number. -/
def endsInNumber (domain : List Char) : Bool :=
  match (withoutEmptyLast (Text.splitOn '.' domain)).getLast? with
  | some label => (!label.isEmpty && label.all Char.isDigit) || (readIpv4Number? label).isSome
  | none => false

/-- The last number fills all the bytes that the ones before it leave. -/
def readIpv4? (domain : List Char) : Option Ipv4 := do
  let parts := withoutEmptyLast (Text.splitOn '.' domain)
  guard (parts.length ≤ 4)
  let numbers ← parts.mapM readIpv4Number?
  let last ← numbers.getLast?
  let octets := numbers.dropLast
  guard (octets.all (· ≤ 255))
  let room := Nat.pow 256 (4 - octets.length)
  guard (last < room)
  let value := Text.ofDigits 256 octets * room + last
  let byte (i : Nat) : UInt8 := UInt8.ofNat (value / Nat.pow 256 i)
  return ⟨byte 3, byte 2, byte 1, byte 0⟩

/-- Pieces of an IPv6 host up to the end, with where `::` stood if it did. An
address in dotted notation may end them and counts as two. -/
structure Pieces where
  before : List UInt16
  after : Option (List UInt16)

namespace Pieces

/-- The number of pieces, counting `::` as one. -/
def count (pieces : Pieces) : Nat :=
  pieces.before.length + (pieces.after.map (·.length + 1)).getD 0

def push (pieces : Pieces) (more : List UInt16) : Pieces :=
  match pieces.after with
  | none => { pieces with before := pieces.before ++ more }
  | some after => { pieces with after := some (after ++ more) }

def toIpv6? (pieces : Pieces) : Option Ipv6 :=
  match pieces.after with
  | none => Ipv6.ofGroups? pieces.before
  | some after =>
    let zeros := List.replicate (8 - pieces.before.length - after.length) 0
    Ipv6.ofGroups? (pieces.before ++ zeros ++ after)

end Pieces

/-- Each round reads one piece or the second colon of `::`; `fuel` bounds the rounds. -/
def readPieces : Nat → Pieces → List Char → Option Pieces
  | 0, _, _ => none
  | _ + 1, pieces, [] => some pieces
  | fuel + 1, pieces, ':' :: rest =>
    if pieces.count = 8 ∨ pieces.after.isSome then none
    else readPieces fuel { pieces with after := some [] } rest
  | fuel + 1, pieces, cs =>
    if pieces.count = 8 then none
    else
      let size := min 4 (Text.spanDigits 16 cs).1.length
      let group := UInt16.ofNat (Text.ofDigits 16 ((Text.spanDigits 16 cs).1.take size))
      match cs.drop size with
      | [] => some (pieces.push [group])
      | ':' :: rest => if rest.isEmpty then none else readPieces fuel (pieces.push [group]) rest
      | '.' :: _ =>
        if size = 0 ∨ 6 < pieces.count then none
        else
          (Ipv4.parse? cs).map fun ip =>
            pieces.push [ip.first.toUInt16 * 256 + ip.second.toUInt16,
              ip.third.toUInt16 * 256 + ip.fourth.toUInt16]
      | _ => none

/-- The inside of square brackets. -/
def readIpv6? (cs : List Char) : Option Ipv6 :=
  match cs with
  | ':' :: ':' :: rest => (readPieces (cs.length + 1) ⟨[], some []⟩ rest).bind Pieces.toIpv6?
  | ':' :: _ => none
  | _ => (readPieces (cs.length + 1) ⟨[], none⟩ cs).bind Pieces.toIpv6?

private def readBracketed (cs : List Char) : Except UrlError Host :=
  if cs.getLast? = some ']' then
    match readIpv6? cs.dropLast with
    | some ip => .ok (.ipv6 ip)
    | none => .error .invalidIpv6
  else .error .invalidIpv6

/-- The host of a special scheme. -/
def readHost (cs : List Char) : Except UrlError Host :=
  match cs with
  | '[' :: rest => readBracketed rest
  | _ =>
    match (String.fromUTF8? ⟨(Percent.decode cs).toArray⟩).bind (Domain.toAscii? ·.toList) with
    | none => .error .invalidDomain
    | some [] => .error .emptyHost
    | some domain =>
      if endsInNumber domain then
        match readIpv4? domain with
        | some ip => .ok (.ipv4 ip)
        | none => .error .invalidIpv4
      else .ok (.domain (String.ofList domain))

private def isUnsafe (c : Char) : Bool := "\x00\t\n\r #/:<>?@[\\]^|".toList.contains c

/-- The host of any other scheme; it may be empty. -/
def readPlainHost (cs : List Char) : Except UrlError (Option Host) :=
  match cs with
  | [] => .ok none
  | '[' :: rest => (readBracketed rest).map some
  | _ =>
    if cs.any isUnsafe then .error .invalidDomainCharacter
    else .ok (some (.domain (String.ofList (Percent.encode Percent.control cs))))

end SiteSettings.Url
