import SiteSettings.Text.Blank
import SiteSettings.Text.Split

/-! Locale identifiers: a language, then optionally a script, then optionally a
territory, kept in their canonical casing. -/

namespace SiteSettings

structure Locale where
  language : String
  script : Option String
  territory : Option String
deriving Repr, BEq, DecidableEq

namespace Locale

def english : Locale := ⟨"en", none, none⟩

def isSeparator (c : Char) : Bool := c = '_' || c = '-'

/-- Two or three letters. -/
def isLanguage (cs : List Char) : Bool :=
  (cs.length = 2 || cs.length = 3) && cs.all Char.isAlpha

/-- Four letters. -/
def isScript (cs : List Char) : Bool := cs.length = 4 && cs.all Char.isAlpha

/-- Two letters or three digits. -/
def isTerritory (cs : List Char) : Bool :=
  (cs.length = 2 && cs.all Char.isAlpha) || (cs.length = 3 && cs.all Char.isDigit)

def lower (cs : List Char) : String := String.ofList (cs.map Char.toLower)

def upper (cs : List Char) : String := String.ofList (cs.map Char.toUpper)

/-- Only the first letter is a capital. -/
def capitalized : List Char → String
  | [] => ""
  | c :: rest => String.ofList (c.toUpper :: rest.map Char.toLower)

/-- Reads the parts between separators. -/
def ofParts? : List (List Char) → Option Locale
  | [language] =>
    if isLanguage language then some ⟨lower language, none, none⟩ else none
  | [language, part] =>
    if !isLanguage language then none
    else if isScript part then some ⟨lower language, some (capitalized part), none⟩
    else if isTerritory part then some ⟨lower language, none, some (upper part)⟩
    else none
  | [language, script, territory] =>
    if isLanguage language && isScript script && isTerritory territory then
      some ⟨lower language, some (capitalized script), some (upper territory)⟩
    else none
  | _ => none

/-- Blanks around the identifier do not matter, nor does case or the choice of separator. -/
def parse? (text : String) : Option Locale :=
  let plain := (Text.trim text.toList).map fun c => if isSeparator c then '_' else c
  ofParts? (Text.splitOn '_' plain)

/-- A text that is no locale is handed back as it was given, blanks included. -/
def parse (text : String) : Except String Locale :=
  match parse? text with
  | some locale => .ok locale
  | none => .error text

def print (locale : Locale) : String :=
  let part (text : Option String) : String :=
    match text with
    | some text => "_" ++ text
    | none => ""
  locale.language ++ part locale.script ++ part locale.territory

end Locale

end SiteSettings
