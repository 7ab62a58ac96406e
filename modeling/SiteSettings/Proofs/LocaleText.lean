import Mathlib
import SiteSettings.Locale
import SiteSettings.Proofs.NormalPaths

/-! The text of a locale reads back as that locale. -/

namespace SiteSettings

namespace Text

theorem trim_of_not_blank {cs : List Char} (solid : ∀ c ∈ cs, isBlank c = false) : trim cs = cs := by
  have kept {cs : List Char} (solid : ∀ c ∈ cs, isBlank c = false) : cs.dropWhile isBlank = cs := by
    cases cs with
    | nil => rfl
    | cons c rest => simp [solid c List.mem_cons_self]
  rw [trim, trimBy, kept solid, kept fun c member => solid c (List.mem_reverse.mp member),
    List.reverse_reverse]

end Text

namespace Locale

def parts (locale : Locale) : List (List Char) :=
  locale.language.toList ::
    (locale.script.map String.toList).toList ++ (locale.territory.map String.toList).toList

structure Proper (locale : Locale) : Prop where
  ofParts : ofParts? locale.parts = some locale
  words : ∀ part ∈ locale.parts, ∀ c ∈ part, c.isAlphanum = true

theorem isLanguage_lower (cs : List Char) : isLanguage (lower cs).toList = isLanguage cs := by
  simp [isLanguage, lower, Function.comp_def]

theorem isScript_capitalized (cs : List Char) : isScript (capitalized cs).toList = isScript cs := by
  cases cs <;> simp [isScript, capitalized, Function.comp_def]

/-- The digits come before all letters. -/
theorem isDigit_of_isAlpha {c : Char} (letter : c.isAlpha = true) : c.isDigit = false := by
  simp only [Char.isAlpha, Char.isUpper, Char.isLower, Bool.or_eq_true, Bool.and_eq_true,
    decide_eq_true_eq, ge_iff_le, UInt32.le_iff_toNat_le] at letter
  have above : 57 < c.toNat := by
    rcases letter with ⟨upper, _⟩ | ⟨lower, _⟩
    · exact Nat.lt_of_lt_of_le (by decide) upper
    · exact Nat.lt_of_lt_of_le (by decide) lower
  simpa [Char.isDigit, UInt32.le_iff_toNat_le] using fun _ => above

theorem toUpper_of_isDigit {c : Char} (digit : c.isDigit = true) : c.toUpper = c := by
  apply Char.toUpper_eq_of_not_isLower
  intro lower
  have letter : c.isAlpha = true := by simp [Char.isAlpha, lower]
  rw [isDigit_of_isAlpha letter] at digit
  cases digit

theorem isScript_of_isTerritory {cs : List Char} (territory : isTerritory cs = true) :
    isScript cs = false := by
  simp only [isTerritory, Bool.or_eq_true, Bool.and_eq_true, decide_eq_true_eq] at territory
  rcases territory with ⟨two, _⟩ | ⟨three, _⟩
  · simp [isScript, two]
  · simp [isScript, three]

/-- A territory of digits has no case; one of letters keeps its length. -/
theorem isTerritory_upper {cs : List Char} (territory : isTerritory cs = true) :
    isTerritory (upper cs).toList = true := by
  simp only [isTerritory, Bool.or_eq_true, Bool.and_eq_true, decide_eq_true_eq] at territory
  rcases territory with ⟨two, letters⟩ | ⟨three, digits⟩
  · simp only [List.all_eq_true] at letters
    simpa [isTerritory, upper, two] using letters
  · have same : cs.map Char.toUpper = cs := by
      rw [List.map_congr_left fun c member =>
        toUpper_of_isDigit (List.all_eq_true.mp digits c member), List.map_id']
    simp [isTerritory, upper, same, three, digits]

theorem lower_lower (cs : List Char) : lower (lower cs).toList = lower cs := by
  simp [lower, Function.comp_def]

theorem upper_upper (cs : List Char) : upper (upper cs).toList = upper cs := by
  simp [upper, Function.comp_def]

theorem capitalized_capitalized (cs : List Char) :
    capitalized (capitalized cs).toList = capitalized cs := by
  cases cs <;> simp [capitalized, Function.comp_def]

theorem isAlphanum_of_language {cs : List Char} (language : isLanguage cs = true) :
    ∀ c ∈ cs, c.isAlphanum = true := by
  simp only [isLanguage, Bool.and_eq_true, List.all_eq_true] at language
  intro c member
  simp [Char.isAlphanum, language.2 c member]

theorem isAlphanum_of_script {cs : List Char} (script : isScript cs = true) :
    ∀ c ∈ cs, c.isAlphanum = true := by
  simp only [isScript, Bool.and_eq_true, List.all_eq_true] at script
  intro c member
  simp [Char.isAlphanum, script.2 c member]

theorem isAlphanum_of_territory {cs : List Char} (territory : isTerritory cs = true) :
    ∀ c ∈ cs, c.isAlphanum = true := by
  simp only [isTerritory, Bool.or_eq_true, Bool.and_eq_true, List.all_eq_true] at territory
  intro c member
  rcases territory with ⟨_, letters⟩ | ⟨_, digits⟩
  · simp [Char.isAlphanum, letters c member]
  · simp [Char.isAlphanum, digits c member]

/-- The parts are a language, then a script or none, then a territory or none. -/
theorem ofParts?_eq_some_iff {pieces : List (List Char)} {locale : Locale} :
    ofParts? pieces = some locale ↔
      ∃ (language : List Char) (script territory : Option (List Char)),
        pieces = language :: (script.toList ++ territory.toList) ∧ isLanguage language = true ∧
        (∀ word ∈ script, isScript word = true) ∧ (∀ word ∈ territory, isTerritory word = true) ∧
        locale = ⟨lower language, script.map capitalized, territory.map upper⟩ := by
  constructor
  · intro found
    unfold ofParts? at found
    split at found
    next language =>
      split at found
      next first =>
        cases found
        exact ⟨language, none, none, rfl, first, by simp, by simp, rfl⟩
      next => cases found
    next language part =>
      split at found
      next => cases found
      next first =>
        have first : isLanguage language = true := by simpa using first
        split at found
        next script =>
          cases found
          exact ⟨language, some part, none, rfl, first, by simpa using script, by simp, rfl⟩
        next =>
          split at found
          next territory =>
            cases found
            exact ⟨language, none, some part, rfl, first, by simp, by simpa using territory, rfl⟩
          next => cases found
    next language script territory =>
      split at found
      next valid =>
        cases found
        simp only [Bool.and_eq_true] at valid
        obtain ⟨⟨first, second⟩, third⟩ := valid
        exact ⟨language, some script, some territory, rfl, first, by simpa using second,
          by simpa using third, rfl⟩
      next => cases found
    next => cases found
  · rintro ⟨language, script, territory, rfl, first, second, third, rfl⟩
    have apart : ∀ word ∈ territory, isScript word = false := fun word member =>
      isScript_of_isTerritory (third word member)
    cases script <;> cases territory <;> simp_all [ofParts?]

/-- What is read from parts is already in its canonical casing. -/
theorem proper_of_ofParts? {pieces : List (List Char)} {locale : Locale}
    (found : ofParts? pieces = some locale) : Proper locale := by
  obtain ⟨language, script, territory, _, first, second, third, rfl⟩ := ofParts?_eq_some_iff.mp found
  have first := (isLanguage_lower language).trans first
  have second : ∀ word ∈ (script.map capitalized).map String.toList, isScript word = true := by
    simp only [Option.mem_map]
    rintro _ ⟨_, ⟨word, member, rfl⟩, rfl⟩
    exact (isScript_capitalized word).trans (second word member)
  have third : ∀ word ∈ (territory.map upper).map String.toList, isTerritory word = true := by
    simp only [Option.mem_map]
    rintro _ ⟨_, ⟨word, member, rfl⟩, rfl⟩
    exact isTerritory_upper (third word member)
  constructor
  · refine ofParts?_eq_some_iff.mpr ⟨_, _, _, rfl, first, second, third, ?_⟩
    simp [lower_lower, capitalized_capitalized, upper_upper, Function.comp_def]
  · intro part member
    simp only [parts, List.cons_append, List.mem_cons, List.mem_append, Option.mem_toList] at member
    rcases member with rfl | script | territory
    · exact isAlphanum_of_language first
    · exact isAlphanum_of_script (second part script)
    · exact isAlphanum_of_territory (third part territory)

theorem proper_english : Proper english := by
  have parts : ofParts? [['e', 'n']] = some english := by decide
  exact proper_of_ofParts? parts

theorem proper_of_parse? {text : String} {locale : Locale} (found : parse? text = some locale) :
    Proper locale := proper_of_ofParts? found

theorem toList_print (locale : Locale) :
    locale.print.toList = Text.join '_' locale.parts := by
  obtain ⟨language, script, territory⟩ := locale
  cases script <;> cases territory <;> simp [print, parts, Text.join]

private theorem toNat_of_isAlphanum {c : Char} (word : c.isAlphanum = true) :
    (48 ≤ c.toNat ∧ c.toNat ≤ 57) ∨ (65 ≤ c.toNat ∧ c.toNat ≤ 90) ∨
      (97 ≤ c.toNat ∧ c.toNat ≤ 122) := by
  simp only [Char.isAlphanum, Char.isAlpha, Char.isUpper, Char.isLower, Char.isDigit,
    Bool.or_eq_true, Bool.and_eq_true, decide_eq_true_eq, ge_iff_le, UInt32.le_iff_toNat_le] at word
  rcases word with (upper | lower) | digit
  · exact .inr (.inl upper)
  · exact .inr (.inr lower)
  · exact .inl digit

theorem isBlank_of_isAlphanum {c : Char} (word : c.isAlphanum = true) : Text.isBlank c = false := by
  have range := toNat_of_isAlphanum word
  simp only [Text.isBlank, Bool.or_eq_false_iff, Bool.and_eq_false_iff, decide_eq_false_iff_not,
    beq_eq_false_iff_ne]
  omega

theorem isSeparator_of_isAlphanum {c : Char} (word : c.isAlphanum = true) :
    isSeparator c = false := by
  simp only [isSeparator, Bool.or_eq_false_iff, decide_eq_false_iff_not]
  constructor <;> (rintro rfl; revert word; decide)

theorem mem_join {separator c : Char} {pieces : List (List Char)}
    (member : c ∈ Text.join separator pieces) : c = separator ∨ ∃ piece ∈ pieces, c ∈ piece := by
  induction pieces with
  | nil => cases member
  | cons piece rest ih =>
    cases rest with
    | nil => exact .inr ⟨piece, List.mem_cons_self, member⟩
    | cons next more =>
      simp only [Text.join, List.mem_append, List.mem_cons (a := c) (b := separator)] at member
      rcases member with here | same | later
      · exact .inr ⟨piece, List.mem_cons_self, here⟩
      · exact .inl same
      · obtain same | ⟨other, inside, found⟩ := ih later
        · exact .inl same
        · exact .inr ⟨other, List.mem_cons_of_mem _ inside, found⟩

theorem parse?_print {locale : Locale} (proper : Proper locale) :
    parse? locale.print = some locale := by
  have text := toList_print locale
  have chars : ∀ c ∈ locale.print.toList, c = '_' ∨ c.isAlphanum = true := by
    intro c member
    rw [text] at member
    obtain same | ⟨part, inside, found⟩ := mem_join member
    · exact .inl same
    · exact .inr (proper.words part inside c found)
  have solid : Text.trim locale.print.toList = locale.print.toList := by
    apply Text.trim_of_not_blank
    intro c member
    obtain rfl | word := chars c member
    · decide
    · exact isBlank_of_isAlphanum word
  have plain : (locale.print.toList.map fun c => if isSeparator c then '_' else c) =
      locale.print.toList := by
    rw [List.map_congr_left (g := id), List.map_id]
    intro c member
    obtain rfl | word := chars c member
    · decide
    · simp [isSeparator_of_isAlphanum word]
  have pieces : Text.splitOn '_' (Text.join '_' locale.parts) = locale.parts := by
    apply Text.splitOn_join (by simp [parts])
    intro part member absent
    exact absurd (proper.words part member '_' absent) (by decide)
  rw [parse?, solid, plain, text, pieces, proper.ofParts]

end Locale

end SiteSettings
