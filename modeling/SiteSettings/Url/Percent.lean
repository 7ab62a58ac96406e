import SiteSettings.Text.Digits

/-! Percent-encoding: a character outside the allowed ones is written as the bytes
of its UTF-8 form in hexadecimal. -/

namespace SiteSettings.Percent

/-- Control characters and everything beyond ASCII, which every part of a URL encodes. -/
def control (c : Char) : Bool := c.toNat < 0x20 || 0x7E < c.toNat

def fragment (c : Char) : Bool := control c || " \"<>`".toList.contains c

def query (c : Char) : Bool := control c || " \"#<>".toList.contains c

/-- Special schemes also encode the single quote. -/
def specialQuery (c : Char) : Bool := query c || c = '\''

def path (c : Char) : Bool := fragment c || "#?\x7b\x7d".toList.contains c

def userInfo (c : Char) : Bool := path c || "/:;=@[\\]^|".toList.contains c

private def upperHexDigit (n : Nat) : Char := ((Nat.toDigits 16 n).headD '0').toUpper

def encodeByte (byte : UInt8) : List Char :=
  ['%', upperHexDigit (byte.toNat / 16), upperHexDigit (byte.toNat % 16)]

def encode (encoded : Char → Bool) (cs : List Char) : List Char :=
  cs.flatMap fun c => if encoded c then (String.utf8EncodeChar c).flatMap encodeByte else [c]

/-- The bytes a text stands for; a percent sign without two digits stands for itself. -/
def decode : List Char → List UInt8
  | [] => []
  | '%' :: high :: low :: rest =>
    match Text.digitValue? 16 high, Text.digitValue? 16 low with
    | some h, some l => UInt8.ofNat (h * 16 + l) :: decode rest
    | _, _ => '%'.toUInt8 :: decode (high :: low :: rest)
  | c :: rest => String.utf8EncodeChar c ++ decode rest

end SiteSettings.Percent
