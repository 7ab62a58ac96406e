import SiteSettings.Network.Ipv6

/-! Absolute URLs in their parts. The parts hold what the text shows, percent-encoded
already, so that printing only puts them together. -/

namespace SiteSettings

namespace Url

inductive Host where
  | domain (name : String)
  | ipv4 (ip : Ipv4)
  | ipv6 (ip : Ipv6)
deriving DecidableEq

def Host.print : Host → String
  | .domain name => name
  | .ipv4 ip => String.ofList ip.print
  | .ipv6 ip => "[" ++ String.ofList ip.printCompressed ++ "]"

/-- What follows the two slashes. The host may be left empty. -/
structure Authority where
  username : String
  password : Option String
  host : Option Host
  port : Option UInt16
deriving DecidableEq

namespace Authority

def userInfo (authority : Authority) : String :=
  match authority.password with
  | some password => authority.username ++ ":" ++ password ++ "@"
  | none => if authority.username.isEmpty then "" else authority.username ++ "@"

def print (authority : Authority) : String :=
  let host := (authority.host.map Host.print).getD ""
  let port :=
    match authority.port with
    | some port => ":" ++ String.ofList (Nat.toDigits 10 port.toNat)
    | none => ""
  authority.userInfo ++ host ++ port

end Authority

/-- How a scheme's URLs are read. Special ones always have a host and a rooted path. -/
inductive SchemeKind where
  | special (defaultPort : UInt16)
  | file
  | plain
deriving DecidableEq

def SchemeKind.of : String → SchemeKind
  | "http" | "ws" => .special 80
  | "https" | "wss" => .special 443
  | "ftp" => .special 21
  | "file" => .file
  | _ => .plain

def SchemeKind.isSpecial : SchemeKind → Bool
  | .plain => false
  | _ => true

def SchemeKind.defaultPort? : SchemeKind → Option UInt16
  | .special port => some port
  | _ => none

end Url

structure Url where
  scheme : String
  authority : Option Url.Authority
  path : String
  query : Option String
  fragment : Option String
deriving DecidableEq

namespace Url

def host? (url : Url) : Option Host := url.authority.bind Authority.host

/-- A path that looks like an authority is kept from being read as one. -/
def print (url : Url) : String :=
  let authority :=
    match url.authority with
    | some authority => "//" ++ authority.print
    | none => if url.path.startsWith "//" then "/." else ""
  let query := (url.query.map ("?" ++ ·)).getD ""
  let fragment := (url.fragment.map ("#" ++ ·)).getD ""
  url.scheme ++ ":" ++ authority ++ url.path ++ query ++ fragment

/-- The URL of a directory: its path ends in a slash. -/
def asDirectory (url : Url) : Url :=
  if url.path.toList.getLast? = some '/' then url else { url with path := url.path ++ "/" }

/-- The path without the slashes at its ends. -/
def trimmedPath (url : Url) : String :=
  let cs := url.path.toList.dropWhile (· = '/')
  String.ofList (cs.reverse.dropWhile (· = '/')).reverse

end Url

inductive UrlError where
  | relativeWithoutBase
  | emptyHost
  | invalidPort
  | invalidIpv4
  | invalidIpv6
  | invalidDomainCharacter
  | invalidDomain
deriving Repr, DecidableEq

def UrlError.message : UrlError → String
  | .relativeWithoutBase => "relative URL without a base"
  | .emptyHost => "empty host"
  | .invalidPort => "invalid port number"
  | .invalidIpv4 => "invalid IPv4 address"
  | .invalidIpv6 => "invalid IPv6 address"
  | .invalidDomainCharacter => "invalid domain character"
  | .invalidDomain => "invalid international domain name"

end SiteSettings
