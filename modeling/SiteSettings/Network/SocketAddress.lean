import SiteSettings.Network.Ipv6

/-! Socket addresses: an IP address and a port. An IPv6 address stands in square
brackets, with its scope after a percent sign unless the scope is zero. -/

namespace SiteSettings

inductive SocketAddress where
  | v4 (ip : Ipv4) (port : UInt16)
  | v6 (ip : Ipv6) (scope : UInt32) (port : UInt16)
deriving Repr, DecidableEq

namespace SocketAddress

def port : SocketAddress → UInt16
  | .v4 _ port => port
  | .v6 _ _ port => port

/-- All interfaces of the machine. -/
def isUnspecified : SocketAddress → Bool
  | .v4 ip _ => ip = Ipv4.unspecified
  | .v6 ip _ _ => ip = Ipv6.unspecified

def printNat (n : Nat) : List Char := Nat.toDigits 10 n

def print : SocketAddress → List Char
  | .v4 ip port => ip.print ++ ':' :: printNat port.toNat
  | .v6 ip scope port =>
    let zone := if scope = 0 then [] else '%' :: printNat scope.toNat
    '[' :: ip.print ++ zone ++ ']' :: ':' :: printNat port.toNat

/-- Digits after a mark, below `bound`. -/
def readAfter? (mark : Char) (bound : Nat) : List Char → Option (Nat × List Char)
  | [] => none
  | c :: rest =>
    match Text.spanDigits 10 rest with
    | (digit :: digits, rest) =>
      let value := Text.ofDigits 10 (digit :: digits)
      if c = mark ∧ value < bound then some (value, rest) else none
    | ([], _) => none

def parsePort? (cs : List Char) : Option UInt16 :=
  match readAfter? ':' UInt16.size cs with
  | some (port, []) => some (UInt16.ofNat port)
  | _ => none

/-- The notation that `print` writes, with any spelling of the address and with
leading zeros in the port and the scope. -/
def parse? (cs : List Char) : Option SocketAddress :=
  match Ipv4.read? cs with
  | some (ip, rest) => (parsePort? rest).map (.v4 ip)
  | none =>
    match cs with
    | '[' :: rest => do
      let (ip, rest) ← Ipv6.read? rest
      let (scope, rest) := (readAfter? '%' UInt32.size rest).getD (0, rest)
      match rest with
      | ']' :: rest => (parsePort? rest).map (.v6 ip (UInt32.ofNat scope))
      | _ => none
    | _ => none

/-- A port by itself; one plus sign is let through. -/
def parseBarePort? (cs : List Char) : Option UInt16 :=
  let digits :=
    match cs with
    | '+' :: rest => rest
    | _ => cs
  match Text.parseDigits? 10 digits with
  | some port => if port < UInt16.size then some (UInt16.ofNat port) else none
  | none => none

private def isLocalhost (host : List Char) : Bool := host.map Char.toLower = "localhost".toList

/-- `host:port`, more freely: any brackets around the host are dropped, and the
host may be an address of either kind or the local machine's name. -/
def parseHostPort? (cs : List Char) : Option SocketAddress := do
  let (host, port) ← Text.splitLast? ':' cs
  let port ← parseBarePort? port
  let host := ((host.dropWhile (· = '[')).reverse.dropWhile (· = ']')).reverse
  if isLocalhost host then return .v4 Ipv4.localhost port
  match Ipv4.parse? host with
  | some ip => return .v4 ip port
  | none =>
    let ip ← Ipv6.parse? host
    return .v6 ip 0 port

/-- An address to listen on: the strict notation first, the free one otherwise. -/
def ofText? (text : String) : Option SocketAddress :=
  let cs := text.toList
  (parse? cs).or (parseHostPort? cs)

def toText (address : SocketAddress) : String := String.ofList address.print

end SocketAddress

end SiteSettings
