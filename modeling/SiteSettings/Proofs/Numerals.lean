import Mathlib
import SiteSettings.Text.Digits

/-! Numbers in texts. Reading the digits of a number gives the number back, and a number
in decimal digits is written in one way only, unless zeros are put in front of it. -/

namespace SiteSettings.Text

variable {radix : Nat} {c : Char} {word rest : List Char}

def AllDigits (radix : Nat) (word : List Char) : Prop :=
  ∀ c ∈ word, (digitValue? radix c).isSome = true

def digitsOf (radix : Nat) (word : List Char) : List Nat := word.filterMap (digitValue? radix)

def valueOf (radix : Nat) (word : List Char) : Nat := ofDigits radix (digitsOf radix word)

theorem length_digitsOf (digits : AllDigits radix word) :
    (digitsOf radix word).length = word.length := by
  rw [digitsOf, List.length_filterMap_eq_countP, List.countP_eq_length]
  exact digits

theorem exists_cons_digitsOf (digits : AllDigits radix word) (nonempty : word ≠ []) :
    ∃ digit more, digitsOf radix word = digit :: more ∧ word.length = more.length + 1 := by
  have length := length_digitsOf digits
  cases shape : digitsOf radix word with
  | nil =>
    rw [shape] at length
    exact absurd (List.length_eq_zero_iff.mp length.symm) nonempty
  | cons digit more =>
    rw [shape] at length
    exact ⟨digit, more, rfl, length.symm⟩

theorem eq_zero_of_leading {digit : Nat} {more : List Nat}
    (shape : digit :: more = digitsOf radix word) (zero : word.head? = some '0')
    (positive : 0 < radix) : digit = 0 := by
  cases word with
  | nil => cases zero
  | cons c word =>
    cases zero
    have value : digitValue? radix '0' = some 0 := by simp [digitValue?, positive]
    obtain ⟨rfl, -⟩ := List.cons.inj (shape.trans (List.filterMap_cons_some value))
    rfl

theorem valueOf_append_singleton {digit : Nat} (last : digitValue? radix c = some digit) :
    valueOf radix (word ++ [c]) = valueOf radix word * radix + digit := by
  simp [valueOf, digitsOf, ofDigits, last]

/-- No digit continues a number in front of the text. -/
def EndsNumber (radix : Nat) (rest : List Char) : Prop :=
  ∀ c ∈ rest.head?, digitValue? radix c = none

theorem endsNumber_nil (radix : Nat) : EndsNumber radix [] := nofun

theorem endsNumber_cons (plain : digitValue? radix c = none) (rest : List Char) :
    EndsNumber radix (c :: rest) := by
  rintro _ ⟨⟩
  exact plain

theorem digitValue?_of_le {small digit : Nat} (wider : small ≤ radix)
    (value : digitValue? small c = some digit) : digitValue? radix c = some digit := by
  simp only [digitValue?, Option.filter_eq_some_iff, decide_eq_true_eq] at value ⊢
  exact ⟨value.1, by omega⟩

theorem AllDigits.of_le {small : Nat} (digits : AllDigits small word) (wider : small ≤ radix) :
    AllDigits radix word := by
  intro c member
  obtain ⟨digit, value⟩ := Option.isSome_iff_exists.mp (digits c member)
  rw [digitValue?_of_le wider value]
  rfl

theorem EndsNumber.of_le {small : Nat} (ends : EndsNumber radix rest) (wider : small ≤ radix) :
    EndsNumber small rest := by
  intro c head
  by_contra digit
  obtain ⟨digit, value⟩ := Option.ne_none_iff_exists'.mp digit
  exact Option.some_ne_none digit ((digitValue?_of_le wider value).symm.trans (ends c head))

theorem spanDigits_ends (ends : EndsNumber radix rest) : spanDigits radix rest = ([], rest) := by
  cases rest with
  | nil => rfl
  | cons c rest => simp [spanDigits, ends c rfl]

theorem spanDigits_word (digits : AllDigits radix word) (ends : EndsNumber radix rest) :
    spanDigits radix (word ++ rest) = (digitsOf radix word, rest) := by
  induction word with
  | nil => exact spanDigits_ends ends
  | cons c word ih =>
    obtain ⟨here, later⟩ := List.forall_mem_cons.mp digits
    obtain ⟨digit, value⟩ := Option.isSome_iff_exists.mp here
    simp [spanDigits, value, ih later, digitsOf]

theorem exists_word_of_span {cs : List Char} {digits : List Nat}
    (span : spanDigits radix cs = (digits, rest)) :
    ∃ word, AllDigits radix word ∧ EndsNumber radix rest ∧ cs = word ++ rest ∧
      digits = digitsOf radix word := by
  induction cs generalizing digits with
  | nil =>
    cases span
    exact ⟨[], nofun, endsNumber_nil radix, rfl, rfl⟩
  | cons c cs ih =>
    rw [spanDigits] at span
    cases value : digitValue? radix c with
    | none =>
      rw [value] at span
      cases span
      exact ⟨[], nofun, endsNumber_cons value cs, rfl, rfl⟩
    | some digit =>
      rw [value] at span
      obtain ⟨rfl, rfl⟩ := Prod.mk.inj span
      obtain ⟨word, all, ends, split, same⟩ := ih rfl
      refine ⟨c :: word, List.forall_mem_cons.mpr ⟨by simp [value], all⟩, ends, ?_, ?_⟩
      · rw [List.cons_append, ← split]
      · simp [digitsOf, value, same]

theorem digitValue?_digitChar {digit : Nat} (small : radix ≤ 16) (below : digit < radix) :
    digitValue? radix digit.digitChar = some digit := by
  have table : ∀ digit : Fin 16, digitValue? 16 digit.val.digitChar = some digit.val := by decide
  have wide := table ⟨digit, by omega⟩
  simp only [digitValue?, Option.filter_eq_some_iff] at wide ⊢
  exact ⟨wide.1, by simpa using below⟩

/-- The digits of a number denote it. -/
theorem toDigits_denotes (radix : Nat) (two : 2 ≤ radix) (small : radix ≤ 16) (n : Nat) :
    AllDigits radix (Nat.toDigits radix n) ∧ valueOf radix (Nat.toDigits radix n) = n := by
  induction n using Nat.strongRecOn with
  | ind n ih =>
    by_cases below : n < radix
    · have digit := digitValue?_digitChar small below
      rw [Nat.toDigits_of_lt_base below]
      exact ⟨by simp [AllDigits, digit], by simp [valueOf, digitsOf, ofDigits, digit]⟩
    · obtain ⟨digits, value⟩ := ih (n / radix) (Nat.div_lt_self (by omega) (by omega))
      have last := digitValue?_digitChar small (Nat.mod_lt n (show 0 < radix by omega))
      rw [Nat.toDigits_of_base_le (by omega) (by omega), valueOf_append_singleton last, value]
      refine ⟨List.forall_mem_append.mpr ⟨digits, by simp [last]⟩, ?_⟩
      rw [Nat.mul_comm]
      exact Nat.div_add_mod n radix

theorem digitsOf_append (front back : List Char) :
    digitsOf radix (front ++ back) = digitsOf radix front ++ digitsOf radix back :=
  List.filterMap_append

/-- A number above zero is not written with a zero in front. -/
theorem toDigits_leading (two : 2 ≤ radix) (small : radix ≤ 16) {n : Nat} (positive : n ≠ 0) :
    (digitsOf radix (Nat.toDigits radix n)).head? ≠ some 0 := by
  induction n using Nat.strongRecOn with
  | ind n ih =>
    by_cases below : n < radix
    · rw [Nat.toDigits_of_lt_base below]
      simp [digitsOf, digitValue?_digitChar small below, positive]
    · have front := ih (n / radix) (Nat.div_lt_self (by omega) (by omega))
        (Nat.div_pos (by omega) (by omega)).ne'
      rw [Nat.toDigits_of_base_le (by omega) (by omega), digitsOf_append, List.head?_append]
      cases head : (digitsOf radix (Nat.toDigits radix (n / radix))).head? with
      | some digit => simpa [head] using front
      | none =>
        have nothing := congrArg List.length (List.head?_eq_none_iff.mp head)
        rw [length_digitsOf (toDigits_denotes radix two small _).1, List.length_nil] at nothing
        exact absurd (List.length_eq_zero_iff.mp nothing) Nat.toDigits_ne_nil

theorem digitValue?_ten (c : Char) :
    digitValue? 10 c = if c.isDigit = true then some (c.toNat - '0'.toNat) else none := by
  have digit : ('0' ≤ c ∧ c ≤ '9') ↔ c.isDigit = true := by
    simp [Char.isDigit, Char.le_def]
  by_cases decimal : c.isDigit = true
  · have range := decimal
    simp only [Char.isDigit, Bool.and_eq_true, decide_eq_true_eq, ge_iff_le,
      UInt32.le_iff_toNat_le] at range
    have below : c.toNat - '0'.toNat < 10 := by
      have top : c.toNat ≤ 57 := range.2
      simp only [Char.reduceToNat]
      omega
    simp only [digitValue?, digit.mpr decimal, decimal, and_self, if_true, Option.filter_some,
      below, decide_true]
  · have no_digit : ¬ ('0' ≤ c ∧ c ≤ '9') := digit.not.mpr decimal
    simp only [digitValue?, no_digit, decimal, if_false, Bool.false_eq_true]
    split
    · simp
    · split <;> simp

theorem allDigits_ten : AllDigits 10 word ↔ ∀ c ∈ word, c.isDigit = true := by
  simp [AllDigits, digitValue?_ten]

theorem valueOf_ten (digits : AllDigits 10 word) :
    valueOf 10 word = Nat.ofDigitChars 10 word 0 := by
  induction word using List.reverseRecOn with
  | nil => rfl
  | append_singleton word c ih =>
    obtain ⟨front, last⟩ := List.forall_mem_append.mp digits
    have decimal := allDigits_ten.mp digits c (by simp)
    rw [valueOf_append_singleton (by rw [digitValue?_ten, if_pos decimal]), ih front,
      Nat.ofDigitChars_append, Nat.ofDigitChars_cons, Nat.ofDigitChars_nil, Nat.mul_comm]

theorem digitChar_of_value {digit : Nat} (value : digitValue? 10 c = some digit) :
    digit < 10 ∧ digit.digitChar = c := by
  rw [digitValue?_ten] at value
  split at value
  next decimal =>
    simp only [Char.isDigit, Bool.and_eq_true, decide_eq_true_eq, ge_iff_le,
      UInt32.le_iff_toNat_le] at decimal
    obtain ⟨bottom, top⟩ : 48 ≤ c.toNat ∧ c.toNat ≤ 57 := decimal
    cases value
    have table : ∀ digit : Fin 10, digit.val.digitChar.toNat = digit.val + 48 := by decide
    have below : c.toNat - '0'.toNat < 10 := by
      simp only [Char.reduceToNat]
      omega
    have written := table ⟨_, below⟩
    refine ⟨below, Char.toNat_inj.mp (written.trans ?_)⟩
    simp only [Char.reduceToNat]
    omega
  next => cases value

/-- Digits without a zero in front of others are those that the number is written with. -/
theorem toDigits_valueOf (digits : AllDigits 10 word) (nonempty : word ≠ [])
    (leading : word.head? = some '0' → word.length = 1) :
    Nat.toDigits 10 (valueOf 10 word) = word := by
  induction word using List.reverseRecOn with
  | nil => exact absurd rfl nonempty
  | append_singleton word c ih =>
    obtain ⟨front, last⟩ := List.forall_mem_append.mp digits
    obtain ⟨digit, value⟩ := Option.isSome_iff_exists.mp (last c (by simp))
    obtain ⟨below, written⟩ := digitChar_of_value value
    have single : Nat.toDigits 10 digit = [c] := by rw [Nat.toDigits_of_lt_base below, written]
    rw [valueOf_append_singleton value]
    by_cases alone : word = []
    · subst alone
      simpa [valueOf, digitsOf, ofDigits] using single
    · have no_zero : word.head? ≠ some '0' := by
        intro zero
        have one := leading (by rw [List.head?_append, zero]; rfl)
        exact alone (List.length_eq_zero_iff.mp (by simpa using one))
      have shape := ih front alone (absurd · no_zero)
      have positive : 0 < valueOf 10 word := by
        refine Nat.pos_of_ne_zero fun zero => no_zero ?_
        rw [← shape, zero]
        rfl
      rw [Nat.mul_comm, ← Nat.toDigits_append_toDigits (by omega) positive below, shape, single]

structure DecimalWord (word : List Char) (n : Nat) : Prop where
  nonempty : word ≠ []
  digits : ∀ c ∈ word, c.isDigit = true
  value : Nat.ofDigitChars 10 word 0 = n

theorem decimalWord_iff {n : Nat} :
    DecimalWord word n ↔ word ≠ [] ∧ AllDigits 10 word ∧ valueOf 10 word = n := by
  constructor
  · intro decimal
    obtain ⟨nonempty, digits, value⟩ := decimal
    have all := allDigits_ten.mpr digits
    exact ⟨nonempty, all, (valueOf_ten all).trans value⟩
  · intro decimal
    obtain ⟨nonempty, all, value⟩ := decimal
    exact ⟨nonempty, allDigits_ten.mp all, (valueOf_ten all).symm.trans value⟩

theorem DecimalWord.exists_cons {n : Nat} (decimal : DecimalWord word n) :
    AllDigits 10 word ∧ ∃ digit more, digitsOf 10 word = digit :: more ∧
      ofDigits 10 (digit :: more) = n := by
  obtain ⟨nonempty, all, value⟩ := decimalWord_iff.mp decimal
  obtain ⟨digit, more, shape, -⟩ := exists_cons_digitsOf all nonempty
  exact ⟨all, digit, more, shape, shape ▸ value⟩

theorem decimalWord_of_cons {digit : Nat} {more : List Nat} (digits : AllDigits 10 word)
    (shape : digit :: more = digitsOf 10 word) :
    DecimalWord word (ofDigits 10 (digit :: more)) := by
  refine decimalWord_iff.mpr ⟨?_, digits, by rw [shape]; rfl⟩
  rintro rfl
  cases shape

theorem parseDigits?_eq_some_iff {n : Nat} :
    parseDigits? 10 word = some n ↔ DecimalWord word n := by
  constructor
  · intro parsed
    unfold parseDigits? at parsed
    split at parsed
    next digit more span =>
      cases parsed
      obtain ⟨digits, all, -, rfl, same⟩ := exists_word_of_span span
      rw [List.append_nil]
      exact decimalWord_of_cons all same
    · cases parsed
  · intro decimal
    obtain ⟨all, digit, more, shape, value⟩ := decimal.exists_cons
    have span := spanDigits_word all (endsNumber_nil 10)
    rw [List.append_nil, shape] at span
    simp only [parseDigits?, span, value]

theorem decimalWord_toDigits (n : Nat) : DecimalWord (Nat.toDigits 10 n) n :=
  decimalWord_iff.mpr ⟨Nat.toDigits_ne_nil, toDigits_denotes 10 (by omega) (by omega) n⟩

end SiteSettings.Text
