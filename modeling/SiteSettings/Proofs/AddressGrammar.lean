import SiteSettings.Network.SocketAddress
import SiteSettings.Proofs.Numerals

/-! How IP addresses may be written. An IPv4 address has one spelling, the printed one; an IPv6
address has many, and the reader takes exactly those. -/

namespace SiteSettings

open Text

variable {c : Char} {cs rest : List Char}

def AddressChar (c : Char) : Prop := (digitValue? 16 c).isSome = true ∨ c = '.' ∨ c = ':'

theorem addressChar_of_digits {radix : Nat} {word : List Char} (digits : AllDigits radix word)
    (small : radix ≤ 16) (member : c ∈ word) : AddressChar c :=
  .inl (digits.of_le small c member)

namespace Ipv4

variable {octet : UInt8} {ip : Ipv4}

theorem readOctet?_toDigits (octet : UInt8) (ends : EndsNumber 10 rest) :
    readOctet? (Nat.toDigits 10 octet.toNat ++ rest) = some (octet, rest) := by
  obtain ⟨all, value⟩ := toDigits_denotes 10 (by omega) (by omega) octet.toNat
  obtain ⟨digit, digits, shape, length⟩ := exists_cons_digitsOf all Nat.toDigits_ne_nil
  have small : octet.toNat < 256 := octet.toNat_lt
  have short : (Nat.toDigits 10 octet.toNat).length ≤ 3 := by
    rw [Nat.length_toDigits_le_iff (by omega) (by omega)]
    omega
  have leading (positive : octet.toNat ≠ 0) :=
    toDigits_leading (show 2 ≤ 10 by omega) (by omega) positive
  have span := spanDigits_word all ends
  unfold valueOf at value
  rw [shape] at span value leading
  have plain : ¬ (digit = 0 ∧ digits ≠ []) := by
    intro padded
    obtain ⟨rfl, longer⟩ := padded
    have zero : octet.toNat = 0 := by
      by_contra positive
      exact leading positive rfl
    rw [zero] at length
    exact longer (List.length_eq_zero_iff.mp (by simpa using length.symm))
  have fits : ¬ (2 < digits.length ∨ (digit = 0 ∧ digits ≠ []) ∨ 255 < octet.toNat) := by
    intro unfit
    rcases unfit with long | padded | large
    · omega
    · exact plain padded
    · omega
  simp only [readOctet?, span, value, if_neg fits]
  simp

theorem readOctet?_eq_some_iff :
    readOctet? cs = some (octet, rest) ↔
      cs = Nat.toDigits 10 octet.toNat ++ rest ∧ EndsNumber 10 rest := by
  constructor
  · intro read
    unfold readOctet? at read
    split at read
    next digit digits tail span =>
      simp only at read
      split at read
      · cases read
      next fits =>
        obtain ⟨rfl, rfl⟩ := Prod.mk.inj (Option.some.inj read)
        obtain ⟨word, all, ends, rfl, same⟩ := exists_word_of_span span
        have length := length_digitsOf all
        rw [← same, List.length_cons] at length
        have nonempty : word ≠ [] := List.ne_nil_of_length_pos (by omega)
        have leading (zero : word.head? = some '0') : word.length = 1 := by
          have none_more : digits = [] := by
            by_contra longer
            exact fits (.inr (.inl ⟨eq_zero_of_leading same zero (by omega), longer⟩))
          rw [none_more] at length
          exact length.symm
        have small : valueOf 10 word < 256 := by
          rw [same] at fits
          by_contra large
          exact fits (.inr (.inr (Nat.lt_of_not_le (mt Nat.lt_succ_of_le large))))
        have value : (UInt8.ofNat (ofDigits 10 (digit :: digits))).toNat = valueOf 10 word := by
          rw [same]
          exact UInt8.toNat_ofNat_of_lt' small
        rw [value, toDigits_valueOf all nonempty leading]
        exact ⟨rfl, ends⟩
    · cases read
  · intro written
    obtain ⟨rfl, ends⟩ := written
    exact readOctet?_toDigits octet ends

theorem readDotted?_eq_some_iff :
    readDotted? cs = some (octet, rest) ↔
      cs = '.' :: (Nat.toDigits 10 octet.toNat ++ rest) ∧ EndsNumber 10 rest := by
  unfold readDotted?
  split
  next tail => simp [readOctet?_eq_some_iff]
  next undotted =>
    simp only [reduceCtorEq, false_iff, not_and]
    intro shape
    exact absurd shape (undotted _)

theorem endsNumber_dot (rest : List Char) : EndsNumber 10 ('.' :: rest) :=
  endsNumber_cons rfl rest

theorem print_append (ip : Ipv4) (rest : List Char) :
    ip.print ++ rest = Nat.toDigits 10 ip.first.toNat ++ '.' ::
      (Nat.toDigits 10 ip.second.toNat ++ '.' ::
        (Nat.toDigits 10 ip.third.toNat ++ '.' :: (Nat.toDigits 10 ip.fourth.toNat ++ rest))) := by
  simp [print, join]

/-- An address in front of a text stands there as it is printed. -/
theorem read?_eq_some_iff :
    read? cs = some (ip, rest) ↔ cs = ip.print ++ rest ∧ EndsNumber 10 rest := by
  constructor
  · intro read
    simp only [read?, Option.bind_eq_bind, Option.bind_eq_some_iff, Prod.exists,
      readOctet?_eq_some_iff, readDotted?_eq_some_iff] at read
    obtain ⟨first, _, ⟨rfl, -⟩, second, _, ⟨rfl, -⟩, third, _, ⟨rfl, -⟩, fourth, _, ⟨rfl, ends⟩,
      same⟩ := read
    cases same
    exact ⟨(print_append ⟨first, second, third, fourth⟩ rest).symm, ends⟩
  · intro written
    obtain ⟨rfl, ends⟩ := written
    simp [read?, print_append, readDotted?, readOctet?_toDigits, endsNumber_dot, ends]

theorem parse?_eq_some_iff : parse? cs = some ip ↔ cs = ip.print := by
  have whole : parse? cs = some ip ↔ read? cs = some (ip, []) := by
    unfold parse?
    split
    · simp_all
    next other =>
      simp only [reduceCtorEq, false_iff]
      exact other ip
  rw [whole, read?_eq_some_iff, List.append_nil]
  exact and_iff_left (endsNumber_nil 10)

/-- Digits with no dot behind them do not begin an address. -/
theorem read?_eq_none (plain : (spanDigits 16 cs).2.head? ≠ some '.') : read? cs = none := by
  by_contra found
  obtain ⟨⟨ip, rest⟩, read⟩ := Option.ne_none_iff_exists'.mp found
  obtain ⟨rfl, -⟩ := read?_eq_some_iff.mp read
  have digits := (toDigits_denotes 10 (by omega) (by omega) ip.first.toNat).1
  rw [print_append, spanDigits_word (digits.of_le (by omega)) (endsNumber_cons rfl _)] at plain
  exact plain rfl

theorem addressChar_of_mem_print (member : c ∈ ip.print) : AddressChar c := by
  have number (octet : UInt8) (digit : c ∈ Nat.toDigits 10 octet.toNat) : AddressChar c :=
    addressChar_of_digits (toDigits_denotes 10 (by omega) (by omega) octet.toNat).1 (by omega) digit
  rw [← List.append_nil ip.print, print_append] at member
  simp only [List.mem_append, List.mem_cons, List.append_nil] at member
  rcases member with digit | rfl | digit | rfl | digit | rfl | digit
  · exact number _ digit
  · exact .inr (.inl rfl)
  · exact number _ digit
  · exact .inr (.inl rfl)
  · exact number _ digit
  · exact .inr (.inl rfl)
  · exact number _ digit

def groups (ip : Ipv4) : List UInt16 :=
  [ip.first.toUInt16 * 256 + ip.second.toUInt16, ip.third.toUInt16 * 256 + ip.fourth.toUInt16]

end Ipv4

namespace Ipv6

variable {first : Bool}

structure Word where
  letters : List Char
  digits : AllDigits 16 letters
  nonempty : letters ≠ []
  short : letters.length ≤ 4

def Word.group (word : Word) : UInt16 := UInt16.ofNat (valueOf 16 word.letters)

/-- Groups with colons between them. An IPv4 address may stand at the end. -/
inductive Row where
  | empty
  | embedded (ip : Ipv4)
  | group (word : Word) (more : Row)

namespace Row

/-- Every piece of a row but the first has a colon before it. -/
def piece (first : Bool) (cs : List Char) : List Char := if first then cs else ':' :: cs

def textFrom (first : Bool) : Row → List Char
  | .empty => []
  | .embedded ip => piece first ip.print
  | .group word more => piece first (word.letters ++ more.textFrom false)

def text (row : Row) : List Char := row.textFrom true

def groups : Row → List UInt16
  | .empty => []
  | .embedded ip => ip.groups
  | .group word more => word.group :: more.groups

def isMixed : Row → Bool
  | .empty => false
  | .embedded _ => true
  | .group _ more => more.isMixed

theorem addressChar_of_mem_piece {first : Bool} (plain : c ∈ cs → AddressChar c)
    (member : c ∈ piece first cs) : AddressChar c := by
  cases first with
  | true => exact plain member
  | false =>
    rcases List.mem_cons.mp member with rfl | later
    · exact .inr (.inr rfl)
    · exact plain later

theorem addressChar_of_mem_textFrom {row : Row} {first : Bool} (member : c ∈ row.textFrom first) :
    AddressChar c := by
  induction row generalizing first with
  | empty => cases member
  | embedded ip => exact addressChar_of_mem_piece Ipv4.addressChar_of_mem_print member
  | group word more ih =>
    refine addressChar_of_mem_piece ?_ member
    intro inside
    rcases List.mem_append.mp inside with digit | later
    · exact addressChar_of_digits word.digits (Nat.le_refl 16) digit
    · exact ih later

end Row

/-- How an address may be written: in full, or with `::` for one zero group or more. -/
inductive Spelling where
  | full (row : Row) (whole : row.groups.length = 8)
  | gapped (before after : Row) (plain : before.isMixed = false)
      (short : before.groups.length + after.groups.length < 8)

namespace Spelling

def text : Spelling → List Char
  | full row _ => row.text
  | gapped before after _ _ => before.text ++ ':' :: ':' :: after.text

def address : Spelling → Ipv6
  | full row whole => ⟨row.groups, whole⟩
  | gapped before after _ short =>
    { groups := before.groups ++
        List.replicate (8 - before.groups.length - after.groups.length) 0 ++ after.groups
      length_eq := by
        simp only [List.length_append, List.length_replicate]
        omega }

theorem addressChar_of_mem_text {spelling : Spelling} (member : c ∈ spelling.text) :
    AddressChar c := by
  cases spelling with
  | full row whole => exact Row.addressChar_of_mem_textFrom member
  | gapped before after plain short =>
    simp only [text, List.mem_append, List.mem_cons] at member
    rcases member with front | rfl | rfl | back
    · exact Row.addressChar_of_mem_textFrom front
    · exact .inr (.inr rfl)
    · exact .inr (.inr rfl)
    · exact Row.addressChar_of_mem_textFrom back

end Spelling

theorem readGroup?_eq_some {group : UInt16} (read : readGroup? cs = some (group, rest)) :
    ∃ word : Word, cs = word.letters ++ rest ∧ word.group = group := by
  unfold readGroup? at read
  split at read
  · cases read
  next digits tail some_digits span =>
    split at read
    · cases read
    next short =>
      obtain ⟨letters, all, -, rfl, rfl⟩ := exists_word_of_span span
      obtain ⟨rfl, rfl⟩ := Prod.mk.inj (Option.some.inj read)
      rw [length_digitsOf all] at short
      have nonempty : letters ≠ [] := by
        intro empty
        subst empty
        exact some_digits rfl
      exact ⟨⟨letters, all, nonempty, Nat.le_of_not_lt short⟩, rfl, rfl⟩

theorem readGroup?_word (word : Word) (ends : EndsNumber 16 rest) :
    readGroup? (word.letters ++ rest) = some (word.group, rest) := by
  obtain ⟨digit, digits, shape, length⟩ := exists_cons_digitsOf word.digits word.nonempty
  have span := spanDigits_word word.digits ends
  have fits : ¬ 4 < (digit :: digits).length := by
    rw [List.length_cons, ← length]
    exact Nat.not_lt.mpr word.short
  rw [shape] at span
  simp only [readGroup?, span, if_neg fits, Word.group, valueOf, shape]

theorem afterColon?_eq_some_iff {start : List Char} :
    afterColon? first cs = some start ↔ cs = Row.piece first start := by
  cases first with
  | true => simp [afterColon?, Row.piece]
  | false =>
    simp only [afterColon?, Row.piece, Bool.false_eq_true, if_false]
    split
    · simp
    next other =>
      simp only [reduceCtorEq, false_iff]
      exact other start

/-- The groups that are read are a row in front of the text. An address in dots can only be met
where there is room for two groups. -/
theorem exists_row (room : Nat) (first : Bool) (cs : List Char) :
    ∃ row : Row, cs = row.textFrom first ++ (readGroups room first cs).rest ∧
      row.groups = (readGroups room first cs).found ∧
      row.isMixed = (readGroups room first cs).embedded ∧ row.groups.length ≤ room := by
  induction room generalizing first cs with
  | zero => exact ⟨.empty, rfl, rfl, rfl, Nat.le_refl 0⟩
  | succ room ih =>
    have nothing : ∃ row : Row, cs = row.textFrom first ++ cs ∧ row.groups = [] ∧
        row.isMixed = false ∧ row.groups.length ≤ room + 1 := ⟨.empty, rfl, rfl, rfl, Nat.zero_le _⟩
    unfold readGroups
    cases colon : afterColon? first cs with
    | none => exact nothing
    | some start =>
      have shape := afterColon?_eq_some_iff.mp colon
      cases dotted : (if room = 0 then none else Ipv4.read? start) with
      | some found =>
        obtain ⟨ip, rest⟩ := found
        simp only [dotted]
        split at dotted
        · cases dotted
        next roomy =>
          obtain ⟨rfl, -⟩ := Ipv4.read?_eq_some_iff.mp dotted
          refine ⟨.embedded ip, ?_, rfl, rfl, ?_⟩
          · cases first <;> exact shape
          · simp only [Row.groups, Ipv4.groups, List.length_cons, List.length_nil]
            omega
      | none =>
        simp only [dotted]
        cases read : readGroup? start with
        | none => exact nothing
        | some found =>
          obtain ⟨group, rest⟩ := found
          obtain ⟨word, rfl, rfl⟩ := readGroup?_eq_some read
          obtain ⟨row, split, groups, mixed, fits⟩ := ih false rest
          refine ⟨.group word row, ?_, ?_, mixed, Nat.succ_le_succ fits⟩
          · rw [shape]
            conv_lhs => rw [split]
            cases first <;> simp [Row.textFrom, Row.piece]
          · exact congrArg (word.group :: ·) groups

/-- Text behind a row that neither lengthens its last piece nor adds another one. -/
structure EndsRow (rest : List Char) : Prop where
  number : EndsNumber 16 rest
  dot : rest.head? ≠ some '.'
  colon : ∀ start, rest = ':' :: start → EndsNumber 16 start

namespace EndsRow

theorem of_ne {c : Char} (plain : digitValue? 16 c = none) (dot : c ≠ '.') (colon : c ≠ ':')
    (rest : List Char) : EndsRow (c :: rest) where
  number := endsNumber_cons plain rest
  dot := by simpa using dot
  colon := by
    rintro start ⟨⟩
    exact absurd rfl colon

theorem nil : EndsRow [] where
  number := endsNumber_nil 16
  dot := by simp
  colon := nofun

theorem gap (rest : List Char) : EndsRow (':' :: ':' :: rest) where
  number := endsNumber_cons rfl _
  dot := by simp
  colon := by
    rintro _ ⟨⟩
    exact endsNumber_cons rfl rest

theorem behind_word (row : Row) (ends : EndsRow rest) :
    EndsNumber 16 (row.textFrom false ++ rest) ∧ (row.textFrom false ++ rest).head? ≠ some '.' := by
  cases row with
  | empty => exact ⟨ends.number, ends.dot⟩
  | embedded ip => exact ⟨endsNumber_cons rfl _, by simp [Row.textFrom, Row.piece]⟩
  | group word more => exact ⟨endsNumber_cons rfl _, by simp [Row.textFrom, Row.piece]⟩

theorem no_piece (ends : EndsRow rest) {start : List Char}
    (colon : afterColon? first rest = some start) : EndsNumber 16 start := by
  have shape := afterColon?_eq_some_iff.mp colon
  cases first with
  | true =>
    cases shape
    exact ends.number
  | false => exact ends.colon start shape

end EndsRow

theorem readGroups_end (room : Nat) (first : Bool) (ends : EndsRow rest) :
    readGroups room first rest = ⟨[], false, rest⟩ := by
  cases room with
  | zero => rfl
  | succ room =>
    unfold readGroups
    cases colon : afterColon? first rest with
    | none => rfl
    | some start =>
      have number := ends.no_piece colon
      have no_group : readGroup? start = none := by simp only [readGroup?, spanDigits_ends number]
      have no_octet : Ipv4.read? start = none := by
        simp [Ipv4.read?, Ipv4.readOctet?, spanDigits_ends (number.of_le (show 10 ≤ 16 by omega))]
      simp only [no_octet, no_group, ite_self]

/-- A row is read as it stands, whatever room there is for more groups. -/
theorem readGroups_row (row : Row) (more : Nat) (first : Bool) (ends : EndsRow rest) :
    readGroups (row.groups.length + more) first (row.textFrom first ++ rest) =
      ⟨row.groups, row.isMixed, rest⟩ := by
  induction row generalizing first with
  | empty => exact readGroups_end _ first ends
  | embedded ip =>
    have colon : afterColon? first ((Row.embedded ip).textFrom first ++ rest) =
        some (ip.print ++ rest) := by
      rw [afterColon?_eq_some_iff]
      cases first <;> rfl
    have dotted : Ipv4.read? (ip.print ++ rest) = some (ip, rest) :=
      Ipv4.read?_eq_some_iff.mpr ⟨rfl, ends.number.of_le (by omega)⟩
    have room : (Row.embedded ip).groups.length + more = more + 1 + 1 := Nat.add_comm 2 more
    rw [room]
    simp only [readGroups, colon, dotted, Nat.add_eq_zero_iff, Nat.one_ne_zero, and_false, if_false]
    rfl
  | group word row ih =>
    have colon : afterColon? first ((Row.group word row).textFrom first ++ rest) =
        some (word.letters ++ (row.textFrom false ++ rest)) := by
      rw [afterColon?_eq_some_iff]
      cases first <;> simp [Row.textFrom, Row.piece]
    -- What follows the word is a colon or the end of the row, so no dot makes it an octet.
    obtain ⟨number, dot⟩ := ends.behind_word row
    have undotted : Ipv4.read? (word.letters ++ (row.textFrom false ++ rest)) = none := by
      apply Ipv4.read?_eq_none
      rw [spanDigits_word word.digits number]
      exact dot
    have room : (Row.group word row).groups.length + more = row.groups.length + more + 1 :=
      Nat.add_right_comm ..
    rw [room]
    simp only [readGroups, colon, undotted, ite_self, readGroup?_word word number, ih false]
    rfl

theorem ofGroups?_groups (ip : Ipv6) : ofGroups? ip.groups = some ip := dif_pos ip.length_eq

theorem groups_of_ofGroups? {groups : List UInt16} {ip : Ipv6}
    (whole : ofGroups? groups = some ip) : ip.groups = groups := by
  unfold ofGroups? at whole
  split at whole
  · cases whole
    rfl
  · cases whole

/-- An address is read from any of its spellings. -/
theorem read?_spelling (spelling : Spelling) (ends : EndsRow rest) :
    read? (spelling.text ++ rest) = some (spelling.address, rest) := by
  cases spelling with
  | full row whole =>
    have groups := readGroups_row row 0 true ends
    rw [Nat.add_zero, whole] at groups
    have address := ofGroups?_groups ⟨row.groups, whole⟩
    simp only [read?, Spelling.text, Row.text, groups, address, Spelling.address]
  | gapped before after plain short =>
    have head := readGroups_row before (8 - before.groups.length) true
      (EndsRow.gap (after.text ++ rest))
    rw [Nat.add_sub_cancel' (by omega)] at head
    have tail := readGroups_row after (7 - before.groups.length - after.groups.length) true ends
    rw [Nat.add_sub_cancel' (by omega)] at tail
    have incomplete : ofGroups? before.groups = none := dif_neg (by omega)
    have text : (Spelling.gapped before after plain short).text ++ rest =
        before.textFrom true ++ ':' :: ':' :: (after.textFrom true ++ rest) :=
      List.append_assoc ..
    simp only [read?, text, Row.text] at head ⊢
    simp only [head, incomplete, plain, tail, Bool.false_eq_true, if_false]
    exact congrArg (Option.map (·, rest))
      (ofGroups?_groups (Spelling.gapped before after plain short).address)

/-- What is read as an address is a spelling of it. -/
theorem exists_spelling {ip : Ipv6} (read : read? cs = some (ip, rest)) :
    ∃ spelling : Spelling, cs = spelling.text ++ rest ∧ spelling.address = ip := by
  obtain ⟨before, shape, groups, mixed, room⟩ := exists_row 8 true cs
  unfold read? at read
  generalize readGroups 8 true cs = head at read shape groups mixed
  simp only [← groups, ← mixed] at read
  split at read
  next address full =>
    cases read
    have whole : before.groups.length = 8 := by rw [← groups_of_ofGroups? full, ip.length_eq]
    have address := ofGroups?_groups (Spelling.full before whole).address
    exact ⟨.full before whole, shape, Option.some.inj (address.symm.trans full)⟩
  next incomplete =>
    split at read
    · cases read
    next plain =>
      split at read
      next tail gap =>
        obtain ⟨after, split, groups, -, fits⟩ := exists_row (7 - before.groups.length) true tail
        rw [← groups, Option.map_eq_some_iff] at read
        obtain ⟨address, full, same⟩ := read
        cases same
        have unfinished : before.groups.length ≠ 8 := by
          intro whole
          simp [ofGroups?, whole] at incomplete
        let spelling : Spelling := .gapped before after (by simpa using plain) (by omega)
        have address := ofGroups?_groups spelling.address
        refine ⟨spelling, ?_, Option.some.inj (address.symm.trans full)⟩
        rw [shape, gap]
        conv_lhs => rw [split]
        exact (List.append_assoc before.text (':' :: ':' :: after.text) _).symm
      · cases read

theorem parse?_eq_some_iff {ip : Ipv6} :
    parse? cs = some ip ↔ ∃ spelling : Spelling, cs = spelling.text ∧ spelling.address = ip := by
  constructor
  · intro parsed
    unfold parse? at parsed
    split at parsed
    next read =>
      cases parsed
      simpa using exists_spelling read
    · cases parsed
  · intro written
    obtain ⟨spelling, rfl, rfl⟩ := written
    have read := read?_spelling spelling EndsRow.nil
    rw [List.append_nil] at read
    simp only [parse?, read]

/-- No text is an address of both kinds. -/
theorem text_ne_print (spelling : Spelling) (ip : Ipv4) : spelling.text ≠ ip.print := by
  intro same
  have row : readGroups 8 true ip.print = ⟨ip.groups, true, []⟩ := by
    simpa [Row.textFrom, Row.piece, Row.groups, Row.isMixed, Ipv4.groups] using
      readGroups_row (.embedded ip) 6 true EndsRow.nil
  have read := read?_spelling spelling EndsRow.nil
  rw [List.append_nil, same] at read
  have incomplete : ofGroups? ip.groups = none := rfl
  simp [read?, row, incomplete] at read

end Ipv6

end SiteSettings
