import SiteSettings.Text.Blank
import SiteSettings.Url.HostReader

/-! Reading URLs as browsers do: blanks around the text and line breaks inside it
do not count, backslashes are slashes in special schemes, and dot segments are
resolved. -/

namespace SiteSettings.Url

private def isSlash (kind : SchemeKind) (c : Char) : Bool := c = '/' || (c = '\\' && kind.isSpecial)

/-- Ends a path. -/
private def startsQueryOrFragment (c : Char) : Bool := c = '?' || c = '#'

/-- Ends an authority. -/
private def endsAuthority (kind : SchemeKind) (c : Char) : Bool :=
  isSlash kind c || startsQueryOrFragment c

def prepare (text : String) : List Char :=
  (Text.trimBy (fun c => c.toNat ≤ 0x20) text.toList).filter fun c =>
    !(c = '\t' || c = '\n' || c = '\r')

private def isSchemeChar (c : Char) : Bool := c.isAlphanum || c = '+' || c = '-' || c = '.'

def readScheme? (cs : List Char) : Option (String × List Char) :=
  let scheme := cs.takeWhile isSchemeChar
  match scheme, cs.drop scheme.length with
  | first :: _, ':' :: rest =>
    if first.isAlpha then some (String.ofList (scheme.map Char.toLower), rest) else none
  | _, _ => none

/-- A letter and a colon or a bar, as a drive letter is written. -/
def isDriveLetter : List Char → Bool
  | [letter, mark] => letter.isAlpha && (mark = ':' || mark = '|')
  | _ => false

private def asciiLower (cs : List Char) : List Char := cs.map Char.toLower

def isSingleDot (segment : List Char) : Bool := segment = ['.'] || asciiLower segment = "%2e".toList

def isDoubleDot (segment : List Char) : Bool :=
  let segment := asciiLower segment
  segment = ['.', '.'] || segment = "%2e.".toList || segment = ".%2e".toList ||
    segment = "%2e%2e".toList

/-- The segments read so far, and whether a drive letter made the host pointless. -/
structure Segments where
  done : List (List Char)
  dropsHost : Bool

namespace Segments

/-- Takes back the last segment, except one that looks like a drive letter. -/
def shorten (segments : Segments) : Segments :=
  match segments.done.getLast? with
  | some last =>
    if isDriveLetter last then segments else { segments with done := segments.done.dropLast }
  | none => segments

/-- A file path starting with a drive letter spells it with a colon, and splits
off whatever is glued to it. -/
def pushFirst (segments : Segments) (segment : List Char) : Segments :=
  match segment with
  | [letter, mark] =>
    if isDriveLetter segment then ⟨[[letter, ':']], true⟩
    else { segments with done := [[letter, mark]] }
  | letter :: ':' :: rest =>
    if letter.isAlpha then { segments with done := [[letter, ':'], rest] }
    else { segments with done := [segment] }
  | _ => { segments with done := [segment] }

def push (file : Bool) (segments : Segments) (segment : List Char) : Segments :=
  if file ∧ segments.done.isEmpty then segments.pushFirst segment
  else { segments with done := segments.done ++ [segment] }

/-- Reads the raw segments in turn. A dot segment at the end leaves an empty one. -/
def read (file : Bool) : Segments → List (List Char) → Segments
  | segments, [] => segments
  | segments, raw :: rest =>
    let segment := Percent.encode Percent.path raw
    let next :=
      if isDoubleDot segment then segments.shorten
      else if isSingleDot segment then segments
      else segments.push file segment
    if rest.isEmpty ∧ (isDoubleDot segment ∨ isSingleDot segment) then
      { next with done := next.done ++ [[]] }
    else read file next rest

end Segments

/-- A rooted path after its first slash. -/
def readRooted (kind : SchemeKind) (cs : List Char) : String × Bool :=
  let plain := cs.map fun c => if isSlash kind c then '/' else c
  let file := kind = .file
  let segments := Segments.read file ⟨[], false⟩ (Text.splitOn '/' plain)
  let path := Text.join '/' segments.done
  let path := if file then path.dropWhile (· = '/') else path
  (String.ofList ('/' :: path), segments.dropsHost)

/-- The path behind an authority. Only plain schemes leave it empty. -/
def readPath (kind : SchemeKind) (cs : List Char) : String × Bool :=
  match cs with
  | [] => if kind.isSpecial then ("/", false) else ("", false)
  | c :: rest => if isSlash kind c then readRooted kind rest else readRooted kind cs

/-- A query and a fragment, whichever are there. -/
def readEnd (kind : SchemeKind) (cs : List Char) : Option String × Option String :=
  let encodedQuery := if kind.isSpecial then Percent.specialQuery else Percent.query
  let fragment (cs : List Char) : String := String.ofList (Percent.encode Percent.fragment cs)
  match cs with
  | '?' :: rest =>
    let query := rest.takeWhile (· ≠ '#')
    let after :=
      match rest.drop query.length with
      | '#' :: rest => some (fragment rest)
      | _ => none
    (some (String.ofList (Percent.encode encodedQuery query)), after)
  | '#' :: rest => (none, some (fragment rest))
  | _ => (none, none)

/-- The length of the host in front: up to a colon outside brackets. -/
private def hostLength (kind : SchemeKind) : Bool → List Char → Nat
  | _, [] => 0
  | bracketed, c :: rest =>
    if (c = ':' && !bracketed) || endsAuthority kind c then 0
    else hostLength kind (c = '[' || (bracketed && c ≠ ']')) rest + 1

/-- Digits after the colon; the scheme's default port counts as none. -/
def readPort (kind : SchemeKind) (cs : List Char) : Except UrlError (Option UInt16 × List Char) :=
  let (digits, rest) := Text.spanDigits 10 cs
  let port := Text.ofDigits 10 digits
  if UInt16.size ≤ port then .error .invalidPort
  else
    let ends :=
      match rest with
      | [] => true
      | c :: _ => c = '/' || c = '\\' || startsQueryOrFragment c
    if !ends then .error .invalidPort
    else if digits.isEmpty ∨ kind.defaultPort? = some (UInt16.ofNat port) then .ok (none, rest)
    else .ok (some (UInt16.ofNat port), rest)

/-- User name and password. An empty password is dropped. -/
def readUserInfo (cs : List Char) : String × Option String :=
  let encode (cs : List Char) : String := String.ofList (Percent.encode Percent.userInfo cs)
  let name := cs.takeWhile (· ≠ ':')
  let password := cs.drop (name.length + 1)
  (encode name, if password.isEmpty then none else some (encode password))

/-- The authority after the two slashes, and what follows it. -/
def readAuthority (kind : SchemeKind) (cs : List Char) :
    Except UrlError (Authority × List Char) := do
  let whole := cs.takeWhile fun c => !endsAuthority kind c
  let rest := cs.drop whole.length
  let (userInfo, hostAndPort) := (Text.splitLast? '@' whole).getD ([], whole)
  if hostAndPort.isEmpty ∧ whole = ['@'] ∧ !rest.isEmpty then throw .emptyHost
  let (username, password) := readUserInfo userInfo
  let hostText := hostAndPort.take (hostLength kind false hostAndPort)
  let afterHost := hostAndPort.drop hostText.length ++ rest
  let host ←
    if kind.isSpecial then
      if hostText.isEmpty then throw .emptyHost else (readHost hostText).map some
    else readPlainHost hostText
  let startsPort := afterHost.head? = some ':'
  if host.isNone ∧ startsPort then throw .emptyHost
  let (port, rest) ← if startsPort then readPort kind (afterHost.drop 1) else pure (none, afterHost)
  if host.isNone ∧ (!username.isEmpty || password.isSome) then throw .emptyHost
  return (⟨username, password, host, port⟩, rest)

/-- Splits off the path, which ends where a query or a fragment starts. -/
private def splitPath (cs : List Char) : List Char × List Char :=
  let path := cs.takeWhile fun c => !startsQueryOrFragment c
  (path, cs.drop path.length)

private def build (scheme : String) (kind : SchemeKind) (authority : Option Authority)
    (path : String) (rest : List Char) : Url :=
  let (query, fragment) := readEnd kind rest
  { scheme, authority, path, query, fragment }

/-- After `file:`. Without two slashes there is no host, a drive letter is not taken
for one, and the local machine's name is dropped. -/
def readFile (cs : List Char) : Except UrlError Url := do
  let noHost : Authority := ⟨"", none, none, none⟩
  match cs with
  | first :: second :: cs =>
    if isSlash .file first && isSlash .file second then
      let hostText := cs.takeWhile fun c => !endsAuthority .file c
      let local_ := build "file" .file (some noHost)
      if hostText.isEmpty ∨ isDriveLetter hostText then
        let (path, rest) := splitPath cs
        return local_ (readRooted .file path).1 rest
      let host ← readHost hostText
      let (path, rest) := splitPath (cs.drop hostText.length)
      if host = .domain "localhost" then return local_ (readRooted .file path).1 rest
      let (path, dropsHost) := readPath .file path
      let authority := if dropsHost then noHost else { noHost with host := some host }
      return build "file" .file (some authority) path rest
    else
      let (path, rest) := splitPath (first :: second :: cs)
      return build "file" .file (some noHost) (readPath .file path).1 rest
  | _ =>
    let (path, rest) := splitPath cs
    return build "file" .file (some noHost) (readPath .file path).1 rest

def parse (text : String) : Except UrlError Url := do
  let some (scheme, cs) := readScheme? (prepare text) | throw .relativeWithoutBase
  let kind := SchemeKind.of scheme
  let withAuthority (cs : List Char) : Except UrlError Url := do
    let (authority, rest) ← readAuthority kind cs
    let (path, rest) := splitPath rest
    return build scheme kind (some authority) (readPath kind path).1 rest
  match kind with
  | .file => readFile cs
  | .special _ => withAuthority (cs.dropWhile (isSlash kind))
  | .plain =>
    match cs with
    | '/' :: '/' :: rest => withAuthority rest
    | '/' :: rest =>
      let (path, rest) := splitPath rest
      return build scheme kind none (readRooted kind path).1 rest
    | _ =>
      let (path, rest) := splitPath cs
      return build scheme kind none (String.ofList (Percent.encode Percent.control path)) rest

end SiteSettings.Url
