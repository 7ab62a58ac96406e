import SiteSettings.Path
import SiteSettings.Text.Utf8

/-! Paths as the system has them. A name is any bytes but a separator there, so a path need not be
text, and a text is made of it only with replacement characters. -/

namespace SiteSettings

structure NativePath where
  bytes : List UInt8
deriving Repr, DecidableEq, Inhabited

namespace NativePath

def ofPath (path : Path) : NativePath := ⟨path.text.toList.flatMap String.utf8EncodeChar⟩

/-- The path as it is shown and as it is stored in a document. -/
def toPath (path : NativePath) : Path := ⟨String.ofList (Text.readLossy path.bytes)⟩

/-- The path if it is text. -/
def text? (path : NativePath) : Option Path :=
  if ofPath path.toPath = path then some path.toPath else none

/-! A path is taken apart at separators and dots, which are bytes, and no other byte matters. So
the operations on paths apply to a path with one character for each byte. -/

def characterOf (byte : UInt8) : Char := Char.ofNat byte.toNat

/-- No byte has a character beyond the last one. -/
def byteOf (c : Char) : UInt8 := UInt8.ofNat (min c.toNat 0xFF)

def spread (path : NativePath) : Path := ⟨String.ofList (path.bytes.map characterOf)⟩

def gather (path : Path) : NativePath := ⟨path.text.toList.map byteOf⟩

def isAbsolute (path : NativePath) : Bool := path.spread.isAbsolute

def fileName? (path : NativePath) : Option NativePath :=
  path.spread.fileName?.map fun name => gather ⟨name⟩

def parent? (path : NativePath) : Option NativePath := path.spread.parent?.map gather

def normalize (path base : NativePath) : NativePath := gather (path.spread.normalize base.spread)

def absolutize (path base : NativePath) : NativePath :=
  gather (path.spread.absolutize base.spread)

end NativePath

end SiteSettings
