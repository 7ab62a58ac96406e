import SiteSettings.Proofs.LocaleText

/-! How a locale may be written. A spelling is a language, then a script or none, then a territory
or none, each after a separator. What can be read is exactly what is spelt so, and two texts are
read as the same locale exactly if they differ only in case and in their separators. -/

namespace SiteSettings

theorem Text.map_join (f : Char → Char) (separator : Char) (pieces : List (List Char)) :
    (join separator pieces).map f = join (f separator) (pieces.map (List.map f)) := by
  induction pieces with
  | nil => rfl
  | cons piece rest ih =>
    cases rest with
    | nil => rfl
    | cons next more =>
      simp only [join, List.map_append, List.map_cons] at ih ⊢
      rw [ih]

theorem Text.splitOn_map {f : Char → Char} {separator : Char}
    (fixed : ∀ c, f c = separator ↔ c = separator) (cs : List Char) :
    splitOn separator (cs.map f) = (splitOn separator cs).map (List.map f) := by
  induction cs with
  | nil => rfl
  | cons c rest ih =>
    rw [List.map_cons, splitOn, splitOn, ih]
    by_cases here : c = separator
    · simp [here, (fixed separator).mpr rfl]
    · cases pieces : splitOn separator rest <;> simp [here, (fixed c).not.mpr here]

namespace Locale

def Letters (count : Nat) (word : List Char) : Prop :=
  word.length = count ∧ ∀ c ∈ word, c.isAlpha = true

def Digits (count : Nat) (word : List Char) : Prop :=
  word.length = count ∧ ∀ c ∈ word, c.isDigit = true

structure Part (fits : List Char → Prop) where
  separator : Char
  word : List Char
  separates : separator = '_' ∨ separator = '-'
  fits : fits word

def Part.text {fits : List Char → Prop} (part : Part fits) : List Char :=
  part.separator :: part.word

structure Spelling where
  language : List Char
  script : Option (Part (Letters 4))
  territory : Option (Part fun word => Letters 2 word ∨ Digits 3 word)
  fits : Letters 2 language ∨ Letters 3 language

namespace Spelling

def text (spelling : Spelling) : List Char :=
  spelling.language ++ spelling.script.elim [] Part.text ++ spelling.territory.elim [] Part.text

def locale (spelling : Spelling) : Locale :=
  ⟨lower spelling.language, spelling.script.map fun part => capitalized part.word,
    spelling.territory.map fun part => upper part.word⟩

def words (spelling : Spelling) : List (List Char) :=
  spelling.language ::
    ((spelling.script.map Part.word).toList ++ (spelling.territory.map Part.word).toList)

end Spelling

/-- What is left of a text when case and the choice of separators do not matter. -/
def folded (cs : List Char) : List Char := cs.map fun c => if c = '-' then '_' else c.toLower

theorem isLanguage_iff {word : List Char} :
    isLanguage word = true ↔ Letters 2 word ∨ Letters 3 word := by
  simp [isLanguage, Letters, or_and_right]

theorem isScript_iff {word : List Char} : isScript word = true ↔ Letters 4 word := by
  simp [isScript, Letters]

theorem isTerritory_iff {word : List Char} :
    isTerritory word = true ↔ Letters 2 word ∨ Digits 3 word := by
  simp [isTerritory, Letters, Digits]

def plain (c : Char) : Char := if isSeparator c then '_' else c

def read? (cs : List Char) : Option Locale := ofParts? (Text.splitOn '_' (cs.map plain))

theorem parse?_eq (text : String) : parse? text = read? (Text.trim text.toList) := rfl

theorem isSeparator_iff {c : Char} : isSeparator c = true ↔ c = '_' ∨ c = '-' := by
  simp [isSeparator]

theorem ne_hyphen_of_not_isSeparator {c : Char} (word : isSeparator c = false) : c ≠ '-' := by
  rintro rfl
  exact absurd word (by decide)

theorem plain_eq_iff {c : Char} : plain c = '_' ↔ c = '_' ∨ c = '-' := by
  simp only [plain, isSeparator, Bool.or_eq_true, decide_eq_true_eq]
  split <;> simp_all

theorem plain_of_isAlphanum {c : Char} (word : c.isAlphanum = true) : plain c = c := by
  simp [plain, isSeparator_of_isAlphanum word]

theorem map_plain_of_isAlphanum {word : List Char} (solid : ∀ c ∈ word, c.isAlphanum = true) :
    word.map plain = word := by
  rw [List.map_congr_left fun c member => plain_of_isAlphanum (solid c member), List.map_id']

theorem Letters.isAlphanum {count : Nat} {word : List Char} (letters : Letters count word) :
    ∀ c ∈ word, c.isAlphanum = true := by
  intro c member
  simp [Char.isAlphanum, letters.2 c member]

theorem Digits.isAlphanum {count : Nat} {word : List Char} (digits : Digits count word) :
    ∀ c ∈ word, c.isAlphanum = true := by
  intro c member
  simp [Char.isAlphanum, digits.2 c member]

theorem eq_of_map_plain {cs word : List Char} (solid : ∀ c ∈ word, c.isAlphanum = true)
    (same : cs.map plain = word) : cs = word := by
  have kept : ∀ c ∈ cs, plain c = c := by
    intro c member
    have inside : (plain c).isAlphanum = true := solid _ (same ▸ List.mem_map_of_mem member)
    unfold plain at inside ⊢
    split
    next separates =>
      rw [if_pos separates] at inside
      exact absurd inside (by decide)
    next => rfl
  rw [← same, List.map_congr_left kept, List.map_id']

def after (word? : Option (List Char)) : List Char := word?.elim [] ('_' :: ·)

theorem join_words (language : List Char) (script territory : Option (List Char)) :
    Text.join '_' (language :: (script.toList ++ territory.toList)) =
      language ++ after script ++ after territory := by
  cases script <;> cases territory <;> simp [after, Text.join]

namespace Part

variable {fits : List Char → Prop} (solid : ∀ word, fits word → ∀ c ∈ word, c.isAlphanum = true)

include solid

theorem map_plain (part? : Option (Part fits)) :
    (part?.elim [] text).map plain = after (part?.map word) := by
  cases part? with
  | none => rfl
  | some part =>
    simp [text, after, plain_eq_iff.mpr part.separates,
      map_plain_of_isAlphanum (solid part.word part.fits)]

theorem exists_of_map_plain {word? : Option (List Char)} (valid : ∀ word ∈ word?, fits word)
    {cs : List Char} (same : cs.map plain = after word?) :
    ∃ part? : Option (Part fits), part?.elim [] text = cs ∧ part?.map word = word? := by
  cases word? with
  | none =>
    rw [List.map_eq_nil_iff.mp same]
    exact ⟨none, rfl, rfl⟩
  | some word =>
    have valid := valid word rfl
    obtain ⟨separator, rest, rfl, separates, last⟩ := List.map_eq_cons_iff.mp same
    rw [eq_of_map_plain (solid word valid) last]
    exact ⟨some ⟨separator, word, plain_eq_iff.mp separates, valid⟩, rfl, rfl⟩

end Part

namespace Spelling

variable (spelling : Spelling)

theorem isAlphanum_of_words : ∀ word ∈ spelling.words, ∀ c ∈ word, c.isAlphanum = true := by
  simp only [words, List.mem_cons, List.mem_append, Option.mem_toList,
    Option.map_eq_some_iff]
  rintro _ (rfl | ⟨part, _, rfl⟩ | ⟨part, _, rfl⟩)
  · exact spelling.fits.elim Letters.isAlphanum Letters.isAlphanum
  · exact part.fits.isAlphanum
  · exact part.fits.elim Letters.isAlphanum Digits.isAlphanum

theorem map_plain_text : spelling.text.map plain = Text.join '_' spelling.words := by
  have language : spelling.language.map plain = spelling.language :=
    map_plain_of_isAlphanum (spelling.fits.elim Letters.isAlphanum Letters.isAlphanum)
  rw [text, List.map_append, List.map_append, language, Part.map_plain fun _ => Letters.isAlphanum,
    Part.map_plain fun _ fits => fits.elim Letters.isAlphanum Digits.isAlphanum, words, join_words]

theorem ofParts?_words : ofParts? spelling.words = some spelling.locale := by
  refine ofParts?_eq_some_iff.mpr ⟨_, _, _, rfl, isLanguage_iff.mpr spelling.fits, ?_, ?_, ?_⟩
  · simp only [Option.mem_map]
    rintro _ ⟨part, _, rfl⟩
    exact isScript_iff.mpr part.fits
  · simp only [Option.mem_map]
    rintro _ ⟨part, _, rfl⟩
    exact isTerritory_iff.mpr part.fits
  · simp [locale, Function.comp_def]

theorem read?_text : read? spelling.text = some spelling.locale := by
  have apart : ∀ word ∈ spelling.words, '_' ∉ word := by
    intro word member inside
    exact absurd (spelling.isAlphanum_of_words word member '_' inside) (by decide)
  rw [read?, map_plain_text, Text.splitOn_join (by simp [words]) apart, ofParts?_words]

end Spelling

/-- What is read as a locale is spelt as one. -/
theorem exists_spelling_of_read? {cs : List Char} {locale : Locale}
    (found : read? cs = some locale) :
    ∃ spelling : Spelling, spelling.text = cs ∧ spelling.locale = locale := by
  obtain ⟨language, script, territory, pieces, first, second, third, rfl⟩ :=
    ofParts?_eq_some_iff.mp found
  have joined := Text.join_splitOn '_' (cs.map plain)
  rw [pieces, join_words] at joined
  -- The pieces in a row are the text with its separators made alike, so the text is cut where
  -- they meet.
  obtain ⟨front, back, rfl, joined, last⟩ := List.map_eq_append_iff.mp joined.symm
  obtain ⟨head, middle, rfl, start, next⟩ := List.map_eq_append_iff.mp joined
  have fits := isLanguage_iff.mp first
  obtain ⟨scriptPart, rfl, rfl⟩ := Part.exists_of_map_plain (fun _ => Letters.isAlphanum)
    (fun word member => isScript_iff.mp (second word member)) next
  obtain ⟨territoryPart, rfl, rfl⟩ := Part.exists_of_map_plain
    (fun _ fits => fits.elim Letters.isAlphanum Digits.isAlphanum)
    (fun word member => isTerritory_iff.mp (third word member)) last
  refine ⟨⟨language, scriptPart, territoryPart, fits⟩, ?_, ?_⟩
  · rw [Spelling.text, eq_of_map_plain (isAlphanum_of_language first) start]
  · simp [Spelling.locale, Function.comp_def]

theorem parse?_eq_some_iff {text : String} {locale : Locale} :
    parse? text = some locale ↔
      ∃ spelling : Spelling, spelling.text = Text.trim text.toList ∧ spelling.locale = locale := by
  rw [parse?_eq]
  constructor
  · exact exists_spelling_of_read?
  · rintro ⟨spelling, spelt, rfl⟩
    rw [← spelt, spelling.read?_text]

def small (word : List Char) : List Char := word.map Char.toLower

theorem toLower_of_not_isAlpha {c : Char} (symbol : c.isAlpha = false) : c.toLower = c := by
  apply Char.toLower_eq_of_not_isUpper
  intro upper
  simp [Char.isAlpha, upper] at symbol

theorem isDigit_toLower (c : Char) : c.toLower.isDigit = c.isDigit := by
  by_cases letter : c.isAlpha = true
  · have lowered : c.toLower.isAlpha = true := by simpa using letter
    rw [isDigit_of_isAlpha lowered, isDigit_of_isAlpha letter]
  · rw [toLower_of_not_isAlpha (by simpa using letter)]

theorem ofParts?_map_small (pieces : List (List Char)) :
    ofParts? (pieces.map small) = ofParts? pieces := by
  have isLanguage_small (word : List Char) : isLanguage (small word) = isLanguage word := by
    simp [isLanguage, small, Function.comp_def]
  have isScript_small (word : List Char) : isScript (small word) = isScript word := by
    simp [isScript, small, Function.comp_def]
  have isTerritory_small (word : List Char) : isTerritory (small word) = isTerritory word := by
    simp [isTerritory, small, Function.comp_def, isDigit_toLower]
  have lower_small (word : List Char) : lower (small word) = lower word := by
    simp [lower, small, Function.comp_def]
  have capitalized_small (word : List Char) : capitalized (small word) = capitalized word := by
    cases word <;> simp [capitalized, small, Function.comp_def]
  have upper_small (word : List Char) : upper (small word) = upper word := by
    simp [upper, small, Function.comp_def]
  rcases pieces with _ | ⟨language, _ | ⟨part, _ | ⟨territory, _ | ⟨_, _⟩⟩⟩⟩
  · rfl
  · simp [ofParts?, isLanguage_small, lower_small]
  · simp [ofParts?, isLanguage_small, isScript_small, isTerritory_small, lower_small,
      capitalized_small, upper_small]
  · simp [ofParts?, isLanguage_small, isScript_small, isTerritory_small, lower_small,
      capitalized_small, upper_small]
  · rfl

theorem toLower_eq_iff {c symbol : Char} (caseless : symbol.isAlpha = false) :
    c.toLower = symbol ↔ c = symbol := by
  constructor
  · rintro rfl
    exact (toLower_of_not_isAlpha (by simpa using caseless)).symm
  · rintro rfl
    exact toLower_of_not_isAlpha caseless

theorem isSeparator_toLower (c : Char) : isSeparator c.toLower = isSeparator c := by
  simp only [isSeparator, toLower_eq_iff (by decide : '_'.isAlpha = false),
    toLower_eq_iff (by decide : '-'.isAlpha = false)]

theorem map_plain_folded (cs : List Char) : (folded cs).map plain = small (cs.map plain) := by
  rw [folded, small, List.map_map, List.map_map]
  apply List.map_congr_left
  intro c _
  cases separates : isSeparator c with
  | true =>
    rcases isSeparator_iff.mp separates with rfl | rfl <;> decide
  | false =>
    simp [plain, ne_hyphen_of_not_isSeparator separates, separates, isSeparator_toLower]

/-- Neither case nor the choice of separators matters to reading. -/
theorem read?_folded (cs : List Char) : read? (folded cs) = read? cs := by
  have fixed (c : Char) : c.toLower = '_' ↔ c = '_' := toLower_eq_iff (by decide)
  rw [read?, map_plain_folded, small, Text.splitOn_map fixed]
  exact ofParts?_map_small _

theorem folded_map_plain (cs : List Char) : folded (cs.map plain) = folded cs := by
  rw [folded, List.map_map]
  apply List.map_congr_left
  intro c _
  by_cases separates : isSeparator c = true
  · rcases isSeparator_iff.mp separates with rfl | rfl <;> decide
  · simp [plain, separates]

theorem folded_join {words : List (List Char)}
    (solid : ∀ word ∈ words, ∀ c ∈ word, c.isAlphanum = true) :
    folded (Text.join '_' words) = Text.join '_' (words.map small) := by
  rw [folded, Text.map_join]
  congr 1
  apply List.map_congr_left
  intro word member
  apply List.map_congr_left
  intro c inside
  have word := isSeparator_of_isAlphanum (solid word member c inside)
  rw [if_neg (ne_hyphen_of_not_isSeparator word)]

namespace Spelling

variable (spelling : Spelling)

theorem folded_text : folded spelling.text = Text.join '_' (spelling.words.map small) := by
  rw [← folded_map_plain, map_plain_text, folded_join spelling.isAlphanum_of_words]

theorem parts_locale : spelling.locale.parts.map small = spelling.words.map small := by
  have small_lower (word : List Char) : small (lower word).toList = small word := by
    simp [small, lower, Function.comp_def]
  have small_capitalized (word : List Char) : small (capitalized word).toList = small word := by
    cases word <;> simp [small, capitalized]
  have small_upper (word : List Char) : small (upper word).toList = small word := by
    simp [small, upper, Function.comp_def]
  obtain ⟨language, script, territory, fits⟩ := spelling
  cases script <;> cases territory <;>
    simp [parts, words, locale, small_lower, small_capitalized, small_upper]

theorem locale_eq_iff (other : Spelling) :
    spelling.locale = other.locale ↔ folded spelling.text = folded other.text := by
  constructor
  · intro same
    rw [folded_text, folded_text, ← parts_locale, same, parts_locale]
  · intro same
    apply Option.some.inj
    rw [← read?_text, ← read?_folded, same, read?_folded, read?_text]

end Spelling

theorem parse_eq_ok {text : String} {locale : Locale} :
    parse text = .ok locale ↔ parse? text = some locale := by
  rw [parse]
  cases parse? text <;> simp

theorem parse_eq_ok_iff {text : String} {locale : Locale} :
    parse text = .ok locale ↔
      ∃ spelling : Spelling, spelling.text = Text.trim text.toList ∧ spelling.locale = locale :=
  parse_eq_ok.trans parse?_eq_some_iff

theorem parse_eq_error_iff {text rejected : String} :
    parse text = .error rejected ↔
      rejected = text ∧ ¬ ∃ spelling : Spelling, spelling.text = Text.trim text.toList := by
  have unread : parse? text = none ↔
      ¬ ∃ spelling : Spelling, spelling.text = Text.trim text.toList := by
    simp [Option.eq_none_iff_forall_ne_some, parse?_eq_some_iff]
  rw [← unread, parse]
  cases parse? text <;> simp [eq_comm]

/-- A text is read as a locale exactly if it spells one between its blanks, and is handed back as
it was given otherwise. The printed locale reads as itself, and two texts are read as one locale
exactly if they are the same up to case, separators and the blanks around them. -/
theorem parse_exact (text : String) :
    (∀ locale, parse text = .ok locale ↔
        ∃ spelling : Spelling, spelling.text = Text.trim text.toList ∧ spelling.locale = locale) ∧
      (∀ rejected, parse text = .error rejected ↔
        rejected = text ∧ ¬ ∃ spelling : Spelling, spelling.text = Text.trim text.toList) ∧
      (∀ locale, parse text = .ok locale → parse locale.print = .ok locale) ∧
      ∀ other first second, parse text = .ok first → parse other = .ok second →
        (first = second ↔
          folded (Text.trim text.toList) = folded (Text.trim other.toList)) := by
  refine ⟨fun _ => parse_eq_ok_iff, fun _ => parse_eq_error_iff, fun locale read => ?_,
    fun other first second read again => ?_⟩
  · have proper := proper_of_parse? (parse_eq_ok.mp read)
    exact parse_eq_ok.mpr (parse?_print proper)
  · obtain ⟨spelling, spelt, rfl⟩ := parse_eq_ok_iff.mp read
    obtain ⟨respelling, respelt, rfl⟩ := parse_eq_ok_iff.mp again
    rw [← spelt, ← respelt]
    exact spelling.locale_eq_iff respelling

/-- Another separator, another case and blanks around it; and a separator that nothing follows. -/
theorem taiwan_parsed :
    let taiwan : Locale := ⟨"zh", some "Hant", some "TW"⟩
    parse "\tzh-hant_tw " = .ok taiwan ∧ parse taiwan.print = .ok taiwan ∧
      (∃ spelling : Spelling, spelling.text = "zh-hant_tw".toList ∧ spelling.locale = taiwan) ∧
      folded "zh-hant_tw".toList = folded "ZH_HANT-TW".toList ∧
      parse "ZH_HANT-TW" = .ok taiwan ∧ parse " en_ " = .error " en_ " ∧
      ¬ ∃ spelling : Spelling, spelling.text = "en_".toList := by
  intro taiwan
  have read : parse "\tzh-hant_tw " = .ok taiwan := by decide
  have again : parse "ZH_HANT-TW" = .ok taiwan := by decide
  have rejected : parse " en_ " = .error " en_ " := by decide
  obtain ⟨spelt, _, printed, same⟩ := parse_exact "\tzh-hant_tw "
  obtain ⟨_, unspelt, _⟩ := parse_exact " en_ "
  exact ⟨read, printed taiwan read, (spelt taiwan).mp read,
    (same "ZH_HANT-TW" taiwan taiwan read again).mp rfl, again, rejected,
    ((unspelt " en_ ").mp rejected).2⟩

end Locale

end SiteSettings
