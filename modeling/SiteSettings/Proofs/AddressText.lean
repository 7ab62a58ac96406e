import SiteSettings.Proofs.HostPorts

/-! The text of an address reads back as that address. What is printed is one of the
spellings that the reader takes, so no property of the reader is needed here. -/

namespace SiteSettings

open Text

namespace Ipv6

def Word.ofGroup (group : UInt16) : Word where
  letters := Nat.toDigits 16 group.toNat
  digits := (toDigits_denotes 16 (by omega) (by omega) group.toNat).1
  nonempty := Nat.toDigits_ne_nil
  short := (Nat.length_toDigits_le_iff (by omega) (by omega)).mpr group.toNat_lt

theorem Word.group_ofGroup (group : UInt16) : (ofGroup group).group = group := by
  have value := (toDigits_denotes 16 (by omega) (by omega) group.toNat).2
  exact (congrArg UInt16.ofNat value).trans UInt16.ofNat_toNat

namespace Row

def ofGroups : List UInt16 → Row
  | [] => .empty
  | next :: groups => .group (.ofGroup next) (ofGroups groups)

theorem groups_ofGroups (groups : List UInt16) : (ofGroups groups).groups = groups := by
  induction groups with
  | nil => rfl
  | cons next groups ih => rw [ofGroups, Row.groups, ih, Word.group_ofGroup]

theorem isMixed_ofGroups (groups : List UInt16) : (ofGroups groups).isMixed = false := by
  induction groups with
  | nil => rfl
  | cons next groups ih => exact ih

theorem text_ofGroups (groups : List UInt16) : (ofGroups groups).text = printGroups groups := by
  induction groups with
  | nil => rfl
  | cons next groups ih =>
    cases groups with
    | nil => exact List.append_nil _
    | cons second more =>
      change Nat.toDigits 16 next.toNat ++ ':' :: (ofGroups (second :: more)).text = _
      rw [ih]
      rfl

end Row

/-- `best.2` zeros stand in the groups from `best.1` on. -/
def ZerosAt (groups : List UInt16) (best : Nat × Nat) : Prop :=
  groups = groups.take best.1 ++ (List.replicate best.2 0 ++ groups.drop (best.1 + best.2))

private theorem leadingZeros (groups : List UInt16) :
    List.replicate (groups.takeWhile (· = 0)).length 0 ++
      groups.drop (groups.takeWhile (· = 0)).length = groups := by
  induction groups with
  | nil => rfl
  | cons group groups ih =>
    by_cases zero : group = 0
    · subst zero
      simpa [List.replicate_succ] using ih
    · simp [zero]

theorem zerosAt_start (groups : List UInt16) (start : Nat) :
    ZerosAt groups (start, ((groups.drop start).takeWhile (· = 0)).length) := by
  unfold ZerosAt
  rw [← List.drop_drop, leadingZeros, List.take_append_drop]

/-- The run that is left out consists of zeros and lies within the groups. -/
theorem zerosAt_longestZeros (groups : List UInt16) : ZerosAt groups (longestZeros groups) := by
  have keeps : ∀ (starts : List Nat) (best : Nat × Nat), ZerosAt groups best →
      ZerosAt groups (starts.foldl (fun best start =>
        let length := ((groups.drop start).takeWhile (· = 0)).length
        if best.2 < length then (start, length) else best) best) := by
    intro starts
    induction starts with
    | nil => exact fun _ run => run
    | cons start starts ih =>
      intro best run
      apply ih
      dsimp only
      split
      · exact zerosAt_start groups start
      · exact run
  exact keeps _ (0, 0) (by simp [ZerosAt])

theorem eq_of_groups {ip other : Ipv6} (same : ip.groups = other.groups) : ip = other := by
  cases ip
  cases other
  simpa using same

theorem exists_spelling_compressed (ip : Ipv6) :
    ∃ spelling : Spelling, spelling.text = ip.printCompressed ∧ spelling.address = ip := by
  have zeros := zerosAt_longestZeros ip.groups
  unfold ZerosAt at zeros
  unfold printCompressed
  generalize longestZeros ip.groups = run at zeros
  obtain ⟨start, length⟩ := run
  simp only at zeros ⊢
  split
  · let row := Row.ofGroups ip.groups
    have groups : row.groups = ip.groups := Row.groups_ofGroups ip.groups
    exact ⟨.full row (by rw [groups, ip.length_eq]), Row.text_ofGroups ip.groups,
      eq_of_groups groups⟩
  next long =>
    let before := Row.ofGroups (ip.groups.take start)
    let after := Row.ofGroups (ip.groups.drop (start + length))
    have front : before.groups = ip.groups.take start := Row.groups_ofGroups _
    have back : after.groups = ip.groups.drop (start + length) := Row.groups_ofGroups _
    have sizes := congrArg List.length zeros
    simp only [List.length_append, List.length_replicate, ← front, ← back, ip.length_eq] at sizes
    refine ⟨.gapped before after (Row.isMixed_ofGroups _) (by omega), ?_, eq_of_groups ?_⟩
    · simp only [Spelling.text, before, after, Row.text_ofGroups]
    · have gap : 8 - before.groups.length - after.groups.length = length := by omega
      simp only [Spelling.address, gap, List.append_assoc]
      rw [front, back]
      exact zeros.symm

theorem halves (group : UInt16) :
    (group / 256).toUInt8.toUInt16 * 256 + group.toUInt8.toUInt16 = group := by
  rw [← UInt16.toNat_inj]
  have small : group.toNat < 65536 := group.toNat_lt
  simp
  omega

theorem groups_of_mapped {ip : Ipv6} {embedded : Ipv4} (mapped : ip.mappedIpv4? = some embedded) :
    ip.groups = [0, 0, 0, 0, 0, 0xffff] ++ embedded.groups := by
  unfold mappedIpv4? at mapped
  split at mapped
  next high low shape =>
    cases mapped
    simp only [Ipv4.groups, halves]
    exact shape
  next => cases mapped

/-- An address is printed in one of its spellings. A mapped IPv4 address keeps its dots. -/
theorem exists_spelling_print (ip : Ipv6) :
    ∃ spelling : Spelling, spelling.text = ip.print ∧ spelling.address = ip := by
  unfold print
  split
  next embedded mapped =>
    let after := Row.group (.ofGroup 0xffff) (.embedded embedded)
    have groups : after.groups = 0xffff :: embedded.groups := rfl
    refine ⟨.gapped .empty after rfl (show 3 < 8 by omega), ?_, eq_of_groups ?_⟩
    · rfl
    · exact (groups_of_mapped mapped).symm
  next => exact exists_spelling_compressed ip

end Ipv6

namespace SocketAddress

theorem exists_zone (scope : UInt32) :
    Zone (if scope = 0 then [] else '%' :: printNat scope.toNat) scope := by
  split
  next zero =>
    subst zero
    exact .absent
  next => exact .number (decimalWord_toDigits scope.toNat)

/-- An address is printed in the strict notation. -/
theorem parse?_print (address : SocketAddress) : parse? address.print = some address := by
  rw [parse?_eq_some_iff]
  cases address with
  | v4 ip port => exact ⟨_, _, _, port, .v4 ip, rfl, decimalWord_toDigits port.toNat, rfl⟩
  | v6 ip scope port =>
    obtain ⟨spelling, text, same⟩ := ip.exists_spelling_print
    have decimal := decimalWord_toDigits port.toNat
    refine ⟨_, _, _, port, .v6 spelling (exists_zone scope), ?_, decimal, ?_⟩
    · simp [print, text, printNat]
    · rw [same]

/-- An address reads back from its text. -/
theorem ofText?_toText (address : SocketAddress) : ofText? address.toText = some address := by
  simp [ofText?, toText, parse?_print]

end SocketAddress

end SiteSettings
