import SiteSettings.Toml.Table

/-! Reading TOML documents. A reader takes characters from the front of the text and
returns what follows; a document that breaks any rule has no value at all. -/

namespace SiteSettings.Toml

/-- Arrays, inline tables and dotted keys may not go deeper than this. -/
def depthLimit : Nat := 80

private def isTextChar (c : Char) : Bool := c = '\t' || (0x20 ≤ c.toNat && c.toNat ≠ 0x7F)

def skipBlanks (cs : List Char) : List Char := cs.dropWhile fun c => c = ' ' || c = '\t'

def newline? : List Char → Option (List Char)
  | '\n' :: rest | '\r' :: '\n' :: rest => some rest
  | _ => none

private def dropComment : List Char → List Char
  | '#' :: rest => rest.dropWhile isTextChar
  | cs => cs

/-- Blanks and a comment up to the end of the line. -/
def endLine? (cs : List Char) : Option (List Char) :=
  match dropComment (skipBlanks cs) with
  | [] => some []
  | rest => newline? rest

/-- Blanks, line ends and comments between the items of an array. `fuel` bounds the lines. -/
def skipLines : Nat → List Char → Option (List Char)
  | 0, _ => none
  | fuel + 1, cs =>
    match skipBlanks cs with
    | '#' :: rest =>
      match rest.dropWhile isTextChar with
      | [] => some []
      | rest => (newline? rest).bind (skipLines fuel)
    | rest =>
      match newline? rest with
      | some rest => skipLines fuel rest
      | none => some rest

/-- The character with a code given by all of the digits; surrogates are none. -/
private def codePoint? (digits : List Char) : Option Char := do
  let n ← Text.parseDigits? 16 digits
  if n.isValidChar then some (Char.ofNat n) else none

/-- What follows a backslash. -/
def readEscape? : List Char → Option (Char × List Char)
  | 'b' :: rest => some ('\x08', rest)
  | 't' :: rest => some ('\t', rest)
  | 'n' :: rest => some ('\n', rest)
  | 'f' :: rest => some ('\x0c', rest)
  | 'r' :: rest => some ('\r', rest)
  | '"' :: rest => some ('"', rest)
  | '\\' :: rest => some ('\\', rest)
  | 'u' :: rest => if rest.length < 4 then none else (codePoint? (rest.take 4)).map (·, rest.drop 4)
  | 'U' :: rest => if rest.length < 8 then none else (codePoint? (rest.take 8)).map (·, rest.drop 8)
  | _ => none

/-- The inside of a quoted text on one line, after its opening quote. -/
def readBasic : Nat → List Char → List Char → Option (String × List Char)
  | 0, _, _ => none
  | _ + 1, _, [] => none
  | _ + 1, done, '"' :: rest => some (String.ofList done.reverse, rest)
  | fuel + 1, done, '\\' :: rest =>
    match readEscape? rest with
    | some (c, rest) => readBasic fuel (c :: done) rest
    | none => none
  | fuel + 1, done, c :: rest => if isTextChar c then readBasic fuel (c :: done) rest else none

/-- A text between single quotes has no escapes. -/
def readLiteral? (cs : List Char) : Option (String × List Char) :=
  let text := cs.takeWhile fun c => isTextChar c && c ≠ '\''
  match cs.drop text.length with
  | '\'' :: rest => some (String.ofList text, rest)
  | _ => none

/-- A backslash at the end of a line drops all blanks and line ends after it. -/
private def continueLine? (cs : List Char) : Option (List Char) :=
  (newline? (skipBlanks cs)).map fun rest =>
    rest.dropWhile fun c => c = ' ' || c = '\t' || c = '\n' || c = '\r'

/-- At three quotes in a row the text ends; up to two more before them belong to it. -/
private def closing? (quote : Char) (cs : List Char) : Option (List Char × List Char) :=
  let quotes := (cs.takeWhile (· = quote)).length
  if quotes < 3 then none
  else
    let inside := min (quotes - 3) 2
    some (List.replicate inside quote, cs.drop (inside + 3))

/-- The inside of a text over several lines, between triple quotes. Only double
quotes know escapes. -/
def readLines (quote : Char) : Nat → List Char → List Char → Option (String × List Char)
  | 0, _, _ => none
  | _ + 1, _, [] => none
  | fuel + 1, done, c :: rest =>
    match closing? quote (c :: rest) with
    | some (inside, after) => some (String.ofList (done.reverse ++ inside), after)
    | none =>
      if c = '\\' ∧ quote = '"' then
        match continueLine? rest with
        | some rest => readLines quote fuel done rest
        | none =>
          match readEscape? rest with
          | some (c, rest) => readLines quote fuel (c :: done) rest
          | none => none
      else
        match newline? (c :: rest) with
        | some rest => readLines quote fuel ('\n' :: done) rest
        | none => if isTextChar c then readLines quote fuel (c :: done) rest else none

/-- A line end right after the opening quotes does not count. -/
private def dropFirstNewline (cs : List Char) : List Char := (newline? cs).getD cs

/-- A text of any kind, if one starts here. -/
def readText? : List Char → Option (String × List Char)
  | '"' :: '"' :: '"' :: rest => readLines '"' (rest.length + 1) [] (dropFirstNewline rest)
  | '\'' :: '\'' :: '\'' :: rest => readLines '\'' (rest.length + 1) [] (dropFirstNewline rest)
  | '"' :: rest => readBasic (rest.length + 1) [] rest
  | '\'' :: rest => readLiteral? rest
  | _ => none

private def isBareChar (c : Char) : Bool := c.isAlphanum || c = '_' || c = '-'

def readSimpleKey? : List Char → Option (String × List Char)
  | '"' :: rest => readBasic (rest.length + 1) [] rest
  | '\'' :: rest => readLiteral? rest
  | cs =>
    let key := cs.takeWhile isBareChar
    if key.isEmpty then none else some (String.ofList key, cs.drop key.length)

/-- Keys with dots between them, as the keys before the last one and the last one. -/
def readKey? : Nat → List Char → Option ((List String × String) × List Char)
  | 0, _ => none
  | fuel + 1, cs => do
    let (key, rest) ← readSimpleKey? (skipBlanks cs)
    match skipBlanks rest with
    | '.' :: rest =>
      let ((path, last), rest) ← readKey? fuel rest
      return ((key :: path, last), rest)
    | rest => return (([], key), rest)

/-- Digits with single underscores between them. -/
private def digitsOf? (radix : Nat) (cs : List Char) : Option (List Nat) :=
  match cs with
  | [] => none
  | '_' :: _ => none
  | c :: rest => do
    let digit ← Text.digitValue? radix c
    let rest :=
      match rest with
      | '_' :: next :: more => next :: more
      | rest => rest
    if rest.isEmpty then return [digit] else return digit :: (← digitsOf? radix rest)
termination_by cs.length
decreasing_by split <;> simp_all

private def signOf : List Char → Bool × List Char
  | '-' :: rest => (true, rest)
  | '+' :: rest => (false, rest)
  | cs => (false, cs)

/-- A decimal number has no zero before other digits. -/
private def decimalDigits? (cs : List Char) : Option (List Nat) := do
  let digits ← digitsOf? 10 cs
  if digits.head? = some 0 ∧ 1 < cs.length then none else return digits

private def fitsInteger (n : Int) : Bool := -0x8000000000000000 ≤ n && n < 0x8000000000000000

def parseInteger? (cs : List Char) : Option Int := do
  let n : Int ←
    match cs with
    | '0' :: 'x' :: rest => (digitsOf? 16 rest).map fun ds => (Text.ofDigits 16 ds : Int)
    | '0' :: 'o' :: rest => (digitsOf? 8 rest).map fun ds => (Text.ofDigits 8 ds : Int)
    | '0' :: 'b' :: rest => (digitsOf? 2 rest).map fun ds => (Text.ofDigits 2 ds : Int)
    | _ =>
      let (negative, rest) := signOf cs
      (decimalDigits? rest).map fun ds =>
        if negative then -(Text.ofDigits 10 ds : Int) else Text.ofDigits 10 ds
  if fitsInteger n then some n else none

/-- A float has a fraction or an exponent or both. One too large is an error when
it is positive, and infinite when it is negative. -/
def parseFloat? (cs : List Char) : Option Binary64 := do
  let (negative, cs) := signOf cs
  if cs = "inf".toList then return .infinity negative
  if cs = "nan".toList then return .nan
  let whole := cs.takeWhile fun c => c ≠ '.' && c ≠ 'e' && c ≠ 'E'
  let digits ← decimalDigits? whole
  let cs := cs.drop whole.length
  guard !cs.isEmpty
  let (decimals, cs) ←
    match cs with
    | '.' :: rest =>
      let fraction := rest.takeWhile fun c => c ≠ 'e' && c ≠ 'E'
      (digitsOf? 10 fraction).map fun ds => (ds, rest.drop fraction.length)
    | _ => some ([], cs)
  let exponent : Int ←
    match cs with
    | [] => some 0
    | _ :: rest =>
      let (below, rest) := signOf rest
      (digitsOf? 10 rest).map fun ds =>
        if below then -(Text.ofDigits 10 ds : Int) else Text.ofDigits 10 ds
  let value := Binary64.ofDecimal negative (Text.ofDigits 10 (digits ++ decimals))
    (exponent - decimals.length)
  if value = .infinity false then none else return value

private def isScalarChar (c : Char) : Bool := isBareChar c || c = '+' || c = '.' || c = ':'

/-- Whether a time follows the one blank that may stand after a date. -/
private def timeFollows : List Char → Bool
  | ' ' :: a :: b :: ':' :: _ => a.isDigit && b.isDigit
  | _ => false

/-- A boolean, number, date or time: a run of characters without blanks, but for
the one between a date and a time. -/
def readScalar? (cs : List Char) : Option (Toml × List Char) := do
  let word := cs.takeWhile isScalarChar
  let rest := cs.drop word.length
  let (word, rest) : List Char × List Char :=
    if timeFollows rest ∧ (readDate? word).isSome then
      let clock := (rest.drop 1).takeWhile isScalarChar
      (word ++ ' ' :: clock, rest.drop (clock.length + 1))
    else (word, rest)
  if word = "true".toList then return (.boolean true, rest)
  if word = "false".toList then return (.boolean false, rest)
  match Moment.parse? word with
  | some stamp => return (.moment stamp, rest)
  | none =>
    match parseInteger? word with
    | some n => return (.integer n, rest)
    | none => return (.float (← parseFloat? word), rest)

private def keyFits (path : List String) : Bool := path.length + 1 < depthLimit

mutual

/-- A value nested in `depth` others. `fuel` bounds the steps. -/
def readValue : Nat → Nat → List Char → Option (Toml × List Char)
  | 0, _, _ => none
  | fuel + 1, depth, cs =>
    match cs with
    | '"' :: _ | '\'' :: _ => (readText? cs).map fun (content, rest) => (.text content, rest)
    | '[' :: rest =>
      if depthLimit ≤ depth + 1 then none
      else (readItems fuel (depth + 1) rest).map fun (items, rest) => (.array items, rest)
    | '\x7b' :: rest =>
      if depthLimit ≤ depth + 1 then none
      else
        match skipBlanks rest with
        | '\x7d' :: rest => some (.table .empty, rest)
        | rest =>
          (readMembers fuel (depth + 1) ⟨.header, .empty⟩ rest).map fun (members, rest) =>
            ((Item.table members).toToml, rest)
    | _ => readScalar? cs

/-- The items of an array after its bracket or a comma. -/
def readItems : Nat → Nat → List Char → Option (List Toml × List Char)
  | 0, _, _ => none
  | fuel + 1, depth, cs =>
    match skipLines (cs.length + 1) cs with
    | none => none
    | some (']' :: rest) => some ([], rest)
    | some cs =>
      match readValue fuel depth cs with
      | none => none
      | some (item, rest) =>
        match skipLines (rest.length + 1) rest with
        | some (',' :: rest) =>
          (readItems fuel depth rest).map fun (items, rest) => (item :: items, rest)
        | some (']' :: rest) => some ([item], rest)
        | _ => none

/-- The members of an inline table; no comma may follow the last. -/
def readMembers : Nat → Nat → Table → List Char → Option (Table × List Char)
  | 0, _, _, _ => none
  | fuel + 1, depth, done, cs =>
    match readKey? (cs.length + 1) cs with
    | some ((path, key), '=' :: rest) =>
      match readValue fuel depth (skipBlanks rest) with
      | none => none
      | some (value, rest) =>
        match if keyFits path then done.addValue path key value else none with
        | none => none
        | some done =>
          match skipBlanks rest with
          | ',' :: rest => readMembers fuel depth done rest
          | '\x7d' :: rest => some (done, rest)
          | _ => none
    | _ => none

end

/-- A document being read: the finished tables, and the one that is open with its
header. The first one has no header. -/
structure Document where
  root : Table
  current : Table
  header : Option (List String × String × Bool)

namespace Document

def start : Document := ⟨⟨.header, .empty⟩, ⟨.header, .empty⟩, none⟩

/-- Puts the open table where its header says. -/
def finish (document : Document) : Option Table :=
  match document.header with
  | none => some document.current
  | some (path, key, repeated) =>
    if repeated then Table.appendTable path key document.current document.root
    else Table.closeTable path key document.current document.root

def openHeader (document : Document) (path : List String) (key : String) (repeated : Bool) :
    Option Document := do
  let root ← document.finish
  guard (keyFits path)
  if repeated then
    guard (Table.canAppend path key root)
    return ⟨root, ⟨.header, .empty⟩, some (path, key, true)⟩
  else
    let (root, current) ← Table.openTable path key root
    return ⟨root, current, some (path, key, false)⟩

/-- One line of a document: a header, a key with its value, or nothing. -/
def readLine (document : Document) (cs : List Char) : Option (Document × List Char) := do
  match skipBlanks cs with
  | '[' :: '[' :: rest =>
    let ((path, key), rest) ← readKey? (rest.length + 1) rest
    match rest with
    | ']' :: ']' :: rest => return (← document.openHeader path key true, ← endLine? rest)
    | _ => none
  | '[' :: rest =>
    let ((path, key), rest) ← readKey? (rest.length + 1) rest
    match rest with
    | ']' :: rest => return (← document.openHeader path key false, ← endLine? rest)
    | _ => none
  | [] => return (document, [])
  | c :: rest =>
    if c = '#' ∨ c = '\n' ∨ c = '\r' then return (document, ← endLine? (c :: rest))
    else
      let ((path, key), rest) ← readKey? (rest.length + 2) (c :: rest)
      match rest with
      | '=' :: rest =>
        let (value, rest) ← readValue (rest.length + 1) 0 (skipBlanks rest)
        guard (keyFits path)
        return ({ document with current := ← document.current.addValue path key value },
          ← endLine? rest)
      | _ => none

def readAll : Nat → Document → List Char → Option Document
  | _, document, [] => some document
  | 0, _, _ :: _ => none
  | fuel + 1, document, cs =>
    match document.readLine cs with
    | some (document, rest) => readAll fuel document rest
    | none => none

end Document

/-- The members of a whole document. A byte order mark in front does not count. -/
def parse? (text : String) : Option (OrderedMap Toml) := do
  let cs := text.toList
  let cs := if cs.head? = some '\uFEFF' then cs.drop 1 else cs
  let document ← Document.readAll (cs.length + 1) .start cs
  let root ← document.finish
  return ⟨Table.toMembers root.entries.entries⟩

end SiteSettings.Toml
