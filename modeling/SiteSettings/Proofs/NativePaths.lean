import SiteSettings.Path.Native
import SiteSettings.Proofs.LossyText
import SiteSettings.Proofs.Respelling

/-! Paths that need not be text. Reading one as text is another spelling of its names, so it makes
no difference whether a path is normalised before it is read or afterwards. -/

namespace SiteSettings

namespace Text.Respelling

/-- Character by character, if a separator and a dot stay what they are and nothing else becomes
one of them, nor vanishes. -/
theorem of_flatMap {spell : Char → List Char} (separator : spell '/' = ['/'])
    (dot : spell '.' = ['.'])
    (other : ∀ c, Foreign c → spell c ≠ [] ∧ ∀ spelt ∈ spell c, Foreign spelt) :
    Respelling (List.flatMap spell) where
  separates before after := by simp [separator]
  inside piece inside := by
    intro member
    obtain ⟨c, origin, spelt⟩ := List.mem_flatMap.mp member
    by_cases isDot : c = '.'
    · simp [isDot, dot] at spelt
    · have isSlash : c ≠ '/' := fun same => inside (same ▸ origin)
      exact ((other c ⟨isSlash, isDot⟩).2 _ spelt).1 rfl
  dots piece count := by
    induction piece generalizing count with
    | nil => simp
    | cons c rest ih =>
      rw [List.flatMap_cons]
      by_cases isDot : c = '.'
      · rw [isDot, dot]
        cases count with
        | zero => simp
        | succ count => simp [List.replicate_succ, ih]
      · have first : ∃ spelt more, spell c = spelt :: more ∧ spelt ≠ '.' := by
          by_cases isSlash : c = '/'
          · exact ⟨'/', [], isSlash ▸ separator, by decide⟩
          · obtain ⟨filled, foreign⟩ := other c ⟨isSlash, isDot⟩
            obtain ⟨spelt, more, same⟩ := List.exists_cons_of_ne_nil filled
            exact ⟨spelt, more, same, (foreign spelt (same ▸ List.mem_cons_self)).2⟩
        obtain ⟨spelt, more, same, notDot⟩ := first
        rw [same]
        cases count <;> simp [List.replicate_succ, isDot, notDot]

end Text.Respelling

namespace NativePath

theorem byteOf_characterOf (byte : UInt8) : byteOf (characterOf byte) = byte := by
  have small : byte.toNat < 0x100 := byte.toNat_lt
  rw [byteOf, characterOf, Char.toNat_ofNat, if_pos (.inl (by omega)),
    Nat.min_eq_left (by omega), UInt8.ofNat_toNat]

/-- Nothing but a short character has the byte of a short character. -/
theorem byteOf_inj {c short : Char} (isShort : short.toNat < 0x80) :
    byteOf c = byteOf short ↔ c = short := by
  refine ⟨fun same => ?_, congrArg byteOf⟩
  have codes := congrArg UInt8.toNat same
  rw [byteOf, byteOf, UInt8.toNat_ofNat_of_lt' (show min c.toNat 0xFF < 0x100 by omega),
    UInt8.toNat_ofNat_of_lt' (show min short.toNat 0xFF < 0x100 by omega)] at codes
  exact Char.toNat_inj.mp (by omega)

theorem byteOf_eq_separator_iff {c : Char} : byteOf c = 0x2F ↔ c = '/' :=
  byteOf_inj (show '/'.toNat < 0x80 by decide)

theorem byteOf_eq_dot_iff {c : Char} : byteOf c = 0x2E ↔ c = '.' :=
  byteOf_inj (show '.'.toNat < 0x80 by decide)

theorem foreign_characterOf {byte : UInt8} (separator : byte ≠ 0x2F) (dot : byte ≠ 0x2E) :
    Text.Foreign (characterOf byte) := by
  constructor <;> intro same
  · exact separator (by rw [← byteOf_characterOf byte, same]; rfl)
  · exact dot (by rw [← byteOf_characterOf byte, same]; rfl)

/-- What a path with a character for each byte is read as. -/
def readSpread (cs : List Char) : List Char := Text.readLossy (cs.map byteOf)

def clamp : List Char → List Char := List.flatMap fun c => [characterOf (byteOf c)]

def encode : List Char → List Char :=
  List.flatMap fun c => (String.utf8EncodeChar c).map characterOf

theorem respelling_readSpread : Text.Respelling readSpread where
  separates before after := by
    rw [readSpread, List.map_append, List.map_cons]
    exact Text.readLossy_separator _ _
  inside piece inside := by
    apply Text.not_mem_readLossy
    intro member
    obtain ⟨c, origin, same⟩ := List.mem_map.mp member
    have separator : c = '/' := byteOf_eq_separator_iff.mp same
    exact inside (separator ▸ origin)
  dots piece count := by
    rw [readSpread, Text.readLossy_eq_dots_iff]
    simp [List.eq_replicate_iff, byteOf_eq_dot_iff]

theorem respelling_clamp : Text.Respelling clamp := by
  apply Text.Respelling.of_flatMap (by decide) (by decide)
  intro c foreign
  have separator : byteOf c ≠ 0x2F := fun same => foreign.1 (byteOf_eq_separator_iff.mp same)
  have dot : byteOf c ≠ 0x2E := fun same => foreign.2 (byteOf_eq_dot_iff.mp same)
  have foreign := foreign_characterOf separator dot
  exact ⟨List.cons_ne_nil _ _, fun spelt member => List.mem_singleton.mp member ▸ foreign⟩

theorem respelling_encode : Text.Respelling encode := by
  apply Text.Respelling.of_flatMap (by decide) (by decide)
  intro c foreign
  refine ⟨by simp, fun spelt member => ?_⟩
  obtain ⟨byte, inside, rfl⟩ := List.mem_map.mp member
  apply foreign_characterOf <;> rintro rfl
  · exact foreign.1 (Text.eq_of_mem_utf8EncodeChar (by decide) inside)
  · exact foreign.2 (Text.eq_of_mem_utf8EncodeChar (by decide) inside)

theorem gather_spread (path : NativePath) : gather path.spread = path := by
  simp [gather, spread, Function.comp_def, byteOf_characterOf]

theorem spread_gather (path : Path) : (gather path).spread = path.respell clamp := by
  apply Path.eq_respell
  simp [spread, gather, clamp, List.map_eq_flatMap, List.flatMap_assoc]

theorem toPath_gather (path : Path) : (gather path).toPath = path.respell readSpread := rfl

theorem spread_ofPath (path : Path) : (ofPath path).spread = path.respell encode := by
  apply Path.eq_respell
  simp [spread, ofPath, encode, List.map_flatMap]

theorem toPath_ofPath (path : Path) : (ofPath path).toPath = path := by
  rw [toPath, ofPath, Text.readLossy_flatMap, String.ofList_toList]

theorem gather_respell_clamp (path : Path) : gather (path.respell clamp) = gather path := by
  rw [← spread_gather, gather_spread]

theorem gather_respell_encode (path : Path) : gather (path.respell encode) = ofPath path := by
  rw [← spread_ofPath, gather_spread]

/-! ### Text -/

theorem normalize_ofPath (path base : Path) :
    (ofPath path).normalize (ofPath base) = ofPath (path.normalize base) := by
  rw [normalize, spread_ofPath, spread_ofPath, Path.normalize_respell respelling_encode,
    gather_respell_encode]

theorem parent?_ofPath (path : Path) : (ofPath path).parent? = path.parent?.map ofPath := by
  rw [parent?, spread_ofPath, Path.parent?_respell respelling_encode, Option.map_map]
  exact congrArg (path.parent?.map ·) (funext gather_respell_encode)

/-! ### Reading -/

variable (path base : NativePath)

theorem toPath_eq_respell : path.toPath = path.spread.respell readSpread := by
  rw [← toPath_gather, gather_spread]

theorem isAbsolute_toPath : path.toPath.isAbsolute = path.isAbsolute := by
  rw [toPath_eq_respell, Path.isAbsolute_respell respelling_readSpread, isAbsolute]

/-- It makes no difference whether a path is normalised first or read as text first. -/
theorem toPath_normalize : (path.normalize base).toPath = path.toPath.normalize base.toPath := by
  rw [normalize, toPath_gather, ← Path.normalize_respell respelling_readSpread,
    ← toPath_eq_respell, ← toPath_eq_respell]

theorem parent?_normalize : (path.normalize base).parent? =
    (path.spread.normalize base.spread).parent?.map gather := by
  rw [parent?, normalize, spread_gather, Path.parent?_respell respelling_clamp, Option.map_map]
  exact congrArg (Option.map · _) (funext gather_respell_clamp)

theorem parent?_toPath : path.toPath.parent? = path.parent?.map toPath := by
  rw [toPath_eq_respell, Path.parent?_respell respelling_readSpread, parent?, Option.map_map]
  rfl

/-- What is noted of a path leads where the path leads, both read as text. -/
theorem follows_toPath_absolutize :
    (path.absolutize base).toPath.Follows (base.toPath.join path.toPath) := by
  rw [absolutize, toPath_gather, base.toPath_eq_respell, path.toPath_eq_respell]
  exact ((Path.follows_absolutize ..).respell respelling_readSpread).trans
    (Path.follows_join_respell respelling_readSpread ..)

variable {base} (rooted : base.isAbsolute = true)

include rooted

theorem isAbsolute_toPath_absolutize : (path.absolutize base).toPath.isAbsolute = true := by
  rw [(path.follows_toPath_absolutize base).1, Path.isAbsolute_join, isAbsolute_toPath base, rooted,
    Bool.or_true]

theorem normalize_toPath_absolutize (later : Path) :
    (path.absolutize base).toPath.normalize later = (path.normalize base).toPath := by
  have rooted : base.toPath.isAbsolute = true := (isAbsolute_toPath base).trans rooted
  rw [(path.follows_toPath_absolutize base).normalize_eq rooted, toPath_normalize]

omit rooted

theorem exists_parent_normalize {path name : NativePath} (named : path.fileName? = some name)
    (base : NativePath) : ∃ parent, (path.normalize base).parent? = some parent := by
  obtain ⟨text, named, _⟩ := Option.map_eq_some_iff.mp named
  obtain ⟨parent, found⟩ := Path.exists_parent_normalize named base.spread
  exact ⟨gather parent, by rw [parent?_normalize, found]; rfl⟩

end NativePath

end SiteSettings
