import Mathlib
import SiteSettings.Text.Utf8

/-! Reading bytes that may be no text. A separator or a dot is there if and only if its byte is,
whatever the other bytes are, and what is written as UTF-8 is read back. -/

namespace SiteSettings.Text

def Foreign (c : Char) : Prop := c ≠ '/' ∧ c ≠ '.'

theorem foreign_replacement : Foreign replacement := ⟨by decide, by decide⟩

theorem foreign_ofNat {code : Nat} (long : 0x80 ≤ code) : Foreign (Char.ofNat code) := by
  have read : (Char.ofNat code).toNat = code ∨ (Char.ofNat code).toNat = 0 := by
    rw [Char.toNat_ofNat]
    split
    · exact .inl rfl
    · exact .inr rfl
  constructor <;> intro same <;> rw [same] at read <;> simp at read <;> omega

/-- What was begun comes to no character of a single byte. -/
structure Begun.Long (begun : Begun) : Prop where
  continues : 0x80 ≤ begun.least
  reaches : 0x80 ≤ (begun.code * 64 + (begun.least - 0x80)) * 64 ^ begun.later

theorem begin_of_lt {byte : Nat} (short : byte < 0x80) :
    begin byte = ([Char.ofNat byte], none) := if_pos short

/-- A byte that is no character begins a long one or nothing. -/
theorem begin_of_le {byte : Nat} (high : 0x80 ≤ byte) :
    begin byte = ([replacement], none) ∨ ∃ begun, begun.Long ∧ begin byte = ([], some begun) := by
  rw [begin, if_neg (by omega)]
  split
  · exact .inr ⟨_, ⟨Nat.le_refl _, by simp only; omega⟩, rfl⟩
  split
  · refine .inr ⟨_, ⟨?_, ?_⟩, rfl⟩ <;> simp only <;> split <;> omega
  split
  · refine .inr ⟨_, ⟨?_, ?_⟩, rfl⟩ <;> simp only <;> split <;> omega
  · exact .inl rfl

/-- A character that was begun ends with this byte, or goes on, or breaks off in front of it. -/
theorem next_begun {begun : Begun} (long : begun.Long) (byte : Nat) :
    (0x80 ≤ byte ∧ ∃ c, Foreign c ∧ next (some begun) byte = ([c], none)) ∨
    (0x80 ≤ byte ∧ ∃ other, other.Long ∧ next (some begun) byte = ([], some other)) ∨
    next (some begun) byte = (replacement :: (begin byte).1, (begin byte).2) := by
  obtain ⟨later, least, most, code⟩ := begun
  obtain ⟨continues, reaches⟩ := long
  simp only at continues reaches
  rw [next]
  split
  next fits =>
    have high : 0x80 ≤ byte := continues.trans fits.1
    cases later with
    | zero =>
      have reached : 0x80 ≤ code * 64 + (byte - 0x80) := by omega
      exact .inl ⟨high, _, foreign_ofNat reached, rfl⟩
    | succ later =>
      refine .inr (.inl ⟨high, _, ⟨Nat.le_refl _, ?_⟩, rfl⟩)
      rw [Nat.pow_succ, Nat.mul_comm (64 ^ later), ← Nat.mul_assoc] at reaches
      exact reaches.trans (Nat.mul_le_mul_right _ (by simp only; omega))
  next => exact .inr (.inr rfl)

def Waits (begun : Option Begun) : Prop := ∀ waiting ∈ begun, waiting.Long

theorem waits_none : Waits none := by simp [Waits]

theorem waits_some {begun : Begun} (long : begun.Long) : Waits (some begun) := by
  simpa [Waits] using long

structure Reads (byte : Nat) (result : List Char × Option Begun) : Prop where
  waits : Waits result.2
  text : ∀ c ∈ result.1, Foreign c ∨ byte < 0x80 ∧ c = Char.ofNat byte

theorem reads_begin (byte : Nat) : Reads byte (begin byte) := by
  by_cases short : byte < 0x80
  · rw [begin_of_lt short]
    exact ⟨waits_none, by simp [short]⟩
  · rcases begin_of_le (Nat.le_of_not_lt short) with same | ⟨begun, long, same⟩ <;> rw [same]
    · exact ⟨waits_none, by simp [foreign_replacement]⟩
    · exact ⟨waits_some long, by simp⟩

theorem reads_next {begun : Option Begun} (waits : Waits begun) (byte : Nat) :
    Reads byte (next begun byte) := by
  cases begun with
  | none => exact reads_begin byte
  | some begun =>
    rcases next_begun (waits begun rfl) byte with
      ⟨_, c, foreign, same⟩ | ⟨_, other, long, same⟩ | same <;> rw [same]
    · exact ⟨waits_none, by simp [foreign]⟩
    · exact ⟨waits_some long, by simp⟩
    · obtain ⟨waits, text⟩ := reads_begin byte
      exact ⟨waits, List.forall_mem_cons.mpr ⟨.inl foreign_replacement, text⟩⟩

theorem readOn_cons (begun : Option Begun) (byte : UInt8) (rest : List UInt8) :
    readOn begun (byte :: rest) =
      (next begun byte.toNat).1 ++ readOn (next begun byte.toNat).2 rest := by
  cases begun <;> rfl

/-- A byte of a single character is that character, and reading starts anew behind it. -/
theorem readOn_short {byte : UInt8} (short : byte.toNat < 0x80) {begun : Option Begun}
    (waits : Waits begun) (rest : List UInt8) :
    readOn begun (byte :: rest) = readOn begun [] ++ Char.ofNat byte.toNat :: readLossy rest := by
  rw [readOn_cons]
  cases begun with
  | none =>
    rw [next, begin_of_lt short]
    rfl
  | some begun =>
    rcases next_begun (waits begun rfl) byte.toNat with ⟨high, _⟩ | ⟨high, _⟩ | same
    · omega
    · omega
    · rw [same, begin_of_lt short]
      rfl

theorem readOn_append {byte : UInt8} (short : byte.toNat < 0x80) {begun : Option Begun}
    (waits : Waits begun) (before after : List UInt8) :
    readOn begun (before ++ byte :: after) =
      readOn begun before ++ Char.ofNat byte.toNat :: readLossy after := by
  induction before generalizing begun with
  | nil => exact readOn_short short waits after
  | cons first before ih =>
    rw [List.cons_append, readOn_cons, readOn_cons, ih (reads_next waits _).waits,
      List.append_assoc]

theorem readLossy_separator (before after : List UInt8) :
    readLossy (before ++ 0x2F :: after) = readLossy before ++ '/' :: readLossy after :=
  readOn_append (by decide) waits_none before after

/-- A character that breaks off in front of a separator leaves the separator alone. -/
example : readLossy [0x61, 0xE2, 0x82, 0x2F, 0xFF] = ['a', '\uFFFD', '/', '\uFFFD'] := by decide

theorem mem_readOn {begun : Option Begun} (waits : Waits begun) {bytes : List UInt8} {c : Char}
    (member : c ∈ readOn begun bytes) :
    Foreign c ∨ ∃ byte ∈ bytes, byte.toNat < 0x80 ∧ c = Char.ofNat byte.toNat := by
  induction bytes generalizing begun with
  | nil =>
    cases begun with
    | none => cases member
    | some begun => exact .inl (List.mem_singleton.mp member ▸ foreign_replacement)
  | cons byte rest ih =>
    rw [readOn_cons] at member
    obtain ⟨later, text⟩ := reads_next waits byte.toNat
    rcases List.mem_append.mp member with here | there
    · exact (text c here).imp_right fun read => ⟨byte, List.mem_cons_self, read⟩
    · exact (ih later there).imp_right fun ⟨byte, inside, read⟩ =>
        ⟨byte, List.mem_cons_of_mem _ inside, read⟩

theorem ofNat_toNat_short {byte : UInt8} (short : byte.toNat < 0x80) :
    UInt8.ofNat (Char.ofNat byte.toNat).toNat = byte := by
  rw [Char.toNat_ofNat, if_pos (.inl (by omega)), UInt8.ofNat_toNat]

theorem not_mem_readLossy {bytes : List UInt8} (absent : 0x2F ∉ bytes) : '/' ∉ readLossy bytes := by
  intro member
  rcases mem_readOn waits_none member with foreign | ⟨byte, inside, short, same⟩
  · exact foreign.1 rfl
  · have separator : byte = 0x2F := (ofNat_toNat_short short).symm.trans (same ▸ rfl)
    exact absent (separator ▸ inside)

/-- Something comes of a character that was begun, and no dot. -/
theorem readOn_begun {begun : Begun} (long : begun.Long) (bytes : List UInt8) :
    ∃ c text, Foreign c ∧ readOn (some begun) bytes = c :: text := by
  induction bytes generalizing begun with
  | nil => exact ⟨_, _, foreign_replacement, rfl⟩
  | cons byte rest ih =>
    rw [readOn_cons]
    rcases next_begun long byte.toNat with
      ⟨_, c, foreign, same⟩ | ⟨_, other, longer, same⟩ | same <;> rw [same]
    · exact ⟨c, _, foreign, rfl⟩
    · exact ih longer
    · exact ⟨_, _, foreign_replacement, rfl⟩

theorem readLossy_high {byte : UInt8} (high : 0x80 ≤ byte.toNat) (rest : List UInt8) :
    ∃ c text, Foreign c ∧ readLossy (byte :: rest) = c :: text := by
  rw [readLossy, readOn_cons, next]
  rcases begin_of_le high with same | ⟨begun, long, same⟩ <;> rw [same]
  · exact ⟨_, _, foreign_replacement, rfl⟩
  · exact readOn_begun long rest

theorem readLossy_dots (count : Nat) :
    readLossy (List.replicate count 0x2E) = List.replicate count '.' := by
  induction count with
  | zero => rfl
  | succ count ih =>
    rw [List.replicate_succ, List.replicate_succ, ← ih]
    exact readOn_short (by decide) waits_none _

theorem readLossy_eq_dots_iff {bytes : List UInt8} {count : Nat} :
    readLossy bytes = List.replicate count '.' ↔ bytes = List.replicate count 0x2E := by
  refine ⟨fun read => ?_, fun same => same ▸ readLossy_dots count⟩
  induction bytes generalizing count with
  | nil =>
    cases count with
    | zero => rfl
    | succ count => cases read
  | cons byte rest ih =>
    by_cases short : byte.toNat < 0x80
    · rw [readLossy, readOn_short short waits_none] at read
      cases count with
      | zero => cases read
      | succ count =>
        obtain ⟨dot, read⟩ := List.cons.inj read
        have first := ofNat_toNat_short short
        rw [dot] at first
        rw [List.replicate_succ, ih read, ← first]
        rfl
    · obtain ⟨c, text, foreign, same⟩ := readLossy_high (Nat.le_of_not_lt short) rest
      rw [same] at read
      cases count with
      | zero => cases read
      | succ count => exact absurd (List.cons.inj read).1 foreign.2

section Written

variable {byte : Nat} (small : byte < 0x100) (rest : List UInt8)

include small

theorem readLossy_begins {begun : Begun} (begins : begin byte = ([], some begun)) :
    readLossy (UInt8.ofNat byte :: rest) = readOn (some begun) rest := by
  rw [readLossy, readOn_cons, UInt8.toNat_ofNat_of_lt' small, next, begins]
  rfl

variable {least most : Nat} (fits : least ≤ byte ∧ byte ≤ most)

include fits

theorem readOn_goes_on (later code : Nat) :
    readOn (some ⟨later + 1, least, most, code⟩) (UInt8.ofNat byte :: rest) =
      readOn (some ⟨later, 0x80, 0xBF, code * 64 + (byte - 0x80)⟩) rest := by
  rw [readOn_cons, UInt8.toNat_ofNat_of_lt' small, next, if_pos fits]
  rfl

theorem readOn_ends (code : Nat) :
    readOn (some ⟨0, least, most, code⟩) (UInt8.ofNat byte :: rest) =
      Char.ofNat (code * 64 + (byte - 0x80)) :: readLossy rest := by
  rw [readOn_cons, UInt8.toNat_ofNat_of_lt' small, next, if_pos fits]
  rfl

end Written

theorem begin_two {first : Nat} (small : 2 ≤ first ∧ first < 32) :
    begin (first + 192) = ([], some ⟨0, 0x80, 0xBF, first⟩) := by
  obtain ⟨long, small⟩ := small
  interval_cases first <;> rfl

theorem begin_three {first : Nat} (small : first < 16) :
    begin (first + 224) = ([], some ⟨1, if first = 0 then 0xA0 else 0x80,
      if first = 13 then 0x9F else 0xBF, first⟩) := by
  interval_cases first <;> rfl

theorem begin_four {first : Nat} (small : first < 5) :
    begin (first + 240) = ([], some ⟨2, if first = 0 then 0x90 else 0x80,
      if first = 4 then 0x8F else 0xBF, first⟩) := by
  interval_cases first <;> rfl

/-- What is written as UTF-8 is read back, character by character. -/
theorem readLossy_utf8EncodeChar (c : Char) (rest : List UInt8) :
    readLossy (String.utf8EncodeChar c ++ rest) = c :: readLossy rest := by
  have valid : c.toNat.isValidChar := c.valid
  have again : Char.ofNat c.toNat = c := Char.ofNat_toNat c
  unfold String.utf8EncodeChar
  simp only [Char.toNat_val]
  generalize c.toNat = code at *
  split
  next one =>
    have byte : (UInt8.ofNat code).toNat = code :=
      UInt8.toNat_ofNat_of_lt' (show code < 0x100 by omega)
    rw [List.singleton_append, readLossy, readOn_short (by omega) waits_none, byte, again]
    rfl
  split
  next two =>
    have whole : code / 64 % 32 * 64 + (code % 64 + 128 - 0x80) = code := by omega
    rw [List.cons_append, List.singleton_append,
      readLossy_begins (by omega) _ (begin_two (by omega)),
      readOn_ends (by omega) _ (by omega), whole, again]
  split
  next three =>
    have whole : (code / 4096 % 16 * 64 + (code / 64 % 64 + 128 - 0x80)) * 64 +
        (code % 64 + 128 - 0x80) = code := by omega
    rw [List.cons_append, List.cons_append, List.singleton_append,
      readLossy_begins (by omega) _ (begin_three (by omega)),
      readOn_goes_on (by omega) _ (by split <;> split <;> omega),
      readOn_ends (by omega) _ (by omega), whole, again]
  next four =>
    have whole : ((code / 262144 % 8 * 64 + (code / 4096 % 64 + 128 - 0x80)) * 64 +
        (code / 64 % 64 + 128 - 0x80)) * 64 + (code % 64 + 128 - 0x80) = code := by omega
    rw [List.cons_append, List.cons_append, List.cons_append, List.singleton_append,
      readLossy_begins (by omega) _ (begin_four (by omega)),
      readOn_goes_on (by omega) _ (by split <;> split <;> omega),
      readOn_goes_on (by omega) _ (by omega),
      readOn_ends (by omega) _ (by omega), whole, again]

/-- A short byte is no part of any other character. -/
theorem eq_of_mem_utf8EncodeChar {c : Char} {byte : UInt8} (short : byte.toNat < 0x80)
    (member : byte ∈ String.utf8EncodeChar c) : c = Char.ofNat byte.toNat := by
  obtain ⟨before, after, split⟩ := List.append_of_mem member
  have read := readLossy_utf8EncodeChar c []
  rw [List.append_nil, split, readLossy, readOn_append short waits_none] at read
  have inside : Char.ofNat byte.toNat ∈ [c] := read ▸ by simp
  exact (List.mem_singleton.mp inside).symm

theorem readLossy_flatMap (cs : List Char) : readLossy (cs.flatMap String.utf8EncodeChar) = cs := by
  induction cs with
  | nil => rfl
  | cons c rest ih => rw [List.flatMap_cons, readLossy_utf8EncodeChar, ih]

end SiteSettings.Text
