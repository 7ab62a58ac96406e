import SiteSettings.Network.Ipv4

/-! IPv6 addresses: eight groups in hexadecimal, where one run of zero groups may
be left out as `::` and the last two groups may be written as an IPv4 address. -/

namespace SiteSettings

structure Ipv6 where
  groups : List UInt16
  length_eq : groups.length = 8
deriving Repr, DecidableEq

namespace Ipv6

instance : BEq Ipv6 := ⟨fun a b => a.groups == b.groups⟩

def ofGroups? (groups : List UInt16) : Option Ipv6 :=
  if length_eq : groups.length = 8 then some ⟨groups, length_eq⟩ else none

def unspecified : Ipv6 := ⟨List.replicate 8 0, rfl⟩

/-- The IPv4 address in the last two groups of `::ffff:0:0`. -/
def mappedIpv4? (ip : Ipv6) : Option Ipv4 :=
  match ip.groups with
  | [0, 0, 0, 0, 0, 0xffff, high, low] =>
    some ⟨(high / 256).toUInt8, high.toUInt8, (low / 256).toUInt8, low.toUInt8⟩
  | _ => none

/-- Start and length of the longest run of zero groups, the first of equals. -/
def longestZeros (groups : List UInt16) : Nat × Nat :=
  (List.range groups.length).foldl
    (fun best start =>
      let length := ((groups.drop start).takeWhile (· = 0)).length
      if best.2 < length then (start, length) else best)
    (0, 0)

def printGroups (groups : List UInt16) : List Char :=
  Text.join ':' (groups.map fun group => Nat.toDigits 16 group.toNat)

/-- Leaves out the longest run of zeros if it has two groups or more. -/
def printCompressed (ip : Ipv6) : List Char :=
  let (start, length) := longestZeros ip.groups
  if length < 2 then printGroups ip.groups
  else
    printGroups (ip.groups.take start) ++ ':' :: ':' :: printGroups (ip.groups.drop (start + length))

/-- As `printCompressed`, but a mapped IPv4 address keeps its dots. -/
def print (ip : Ipv6) : List Char :=
  match ip.mappedIpv4? with
  | some embedded => "::ffff:".toList ++ embedded.print
  | none => ip.printCompressed

/-- What a reader of groups found: the groups, whether an IPv4 address ended
them, and the text that follows. -/
structure Groups where
  found : List UInt16
  embedded : Bool
  rest : List Char

/-- At most four hexadecimal digits. -/
def readGroup? (cs : List Char) : Option (UInt16 × List Char) :=
  match Text.spanDigits 16 cs with
  | ([], _) => none
  | (digits, rest) =>
    if 4 < digits.length then none else some (UInt16.ofNat (Text.ofDigits 16 digits), rest)

/-- Every group but the first follows a colon. -/
def afterColon? (first : Bool) (cs : List Char) : Option (List Char) :=
  if first then some cs
  else
    match cs with
    | ':' :: rest => some rest
    | _ => none

/-- At most `room` groups. Two groups of room let an IPv4 address stand for them. -/
def readGroups (room : Nat) (first : Bool) (cs : List Char) : Groups :=
  match room with
  | 0 => ⟨[], false, cs⟩
  | room + 1 =>
    match afterColon? first cs with
    | none => ⟨[], false, cs⟩
    | some start =>
      match if room = 0 then none else Ipv4.read? start with
      | some (ip, rest) =>
        let high := ip.first.toUInt16 * 256 + ip.second.toUInt16
        let low := ip.third.toUInt16 * 256 + ip.fourth.toUInt16
        ⟨[high, low], true, rest⟩
      | none =>
        match readGroup? start with
        | none => ⟨[], false, cs⟩
        | some (group, rest) =>
          let more := readGroups room false rest
          { more with found := group :: more.found }

/-- An address in front of the text. An IPv4 address may not stand before `::`,
and `::` stands for at least one group. -/
def read? (cs : List Char) : Option (Ipv6 × List Char) :=
  let head := readGroups 8 true cs
  match ofGroups? head.found with
  | some ip => some (ip, head.rest)
  | none =>
    if head.embedded then none
    else
      match head.rest with
      | ':' :: ':' :: rest =>
        let tail := readGroups (7 - head.found.length) true rest
        let zeros := List.replicate (8 - head.found.length - tail.found.length) 0
        (ofGroups? (head.found ++ zeros ++ tail.found)).map (·, tail.rest)
      | _ => none

def parse? (cs : List Char) : Option Ipv6 :=
  match read? cs with
  | some (ip, []) => some ip
  | _ => none

end Ipv6

end SiteSettings
