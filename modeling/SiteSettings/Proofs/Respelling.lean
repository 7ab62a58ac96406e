import Mathlib.Data.List.Basic
import SiteSettings.Proofs.AbsolutePaths

/-! Paths in another spelling. An operation on paths looks at separators and at names of dots, so it
does not matter to it how the other names are spelt. -/

namespace SiteSettings

namespace Text

theorem head?_eq_separator_iff {separator : Char} {cs : List Char} :
    cs.head? = some separator ↔ ∃ piece rest, splitOn separator cs = [] :: piece :: rest := by
  cases cs with
  | nil => simp [splitOn]
  | cons c rest =>
    cases pieces : splitOn separator rest with
    | nil => exact absurd pieces (splitOn_ne_nil separator rest)
    | cons piece more => by_cases same : c = separator <;> simp [splitOn, pieces, same]

/-- A spelling that keeps separators, and keeps names of dots apart from all other names. -/
structure Respelling (spell : List Char → List Char) : Prop where
  separates : ∀ before after, spell (before ++ '/' :: after) = spell before ++ '/' :: spell after
  inside : ∀ piece, '/' ∉ piece → '/' ∉ spell piece
  dots : ∀ piece count, spell piece = List.replicate count '.' ↔ piece = List.replicate count '.'

namespace Respelling

variable {spell : List Char → List Char} (spells : Respelling spell)

include spells

theorem spell_eq_nil_iff {piece : List Char} : spell piece = [] ↔ piece = [] := spells.dots piece 0

theorem spell_separator : spell ['/'] = ['/'] := by
  have nothing : spell [] = [] := spells.spell_eq_nil_iff.mpr rfl
  simpa [nothing] using spells.separates [] []

theorem spell_join (pieces : List (List Char)) :
    spell (join '/' pieces) = join '/' (pieces.map spell) := by
  induction pieces with
  | nil => exact spells.spell_eq_nil_iff.mpr rfl
  | cons piece rest ih =>
    cases rest with
    | nil => rfl
    | cons next more =>
      rw [List.map_cons, List.map_cons, join, spells.separates, ih, join]
      · rfl
      · simp
      · simp

theorem splitOn_spell (cs : List Char) : splitOn '/' (spell cs) = (splitOn '/' cs).map spell := by
  have joined : spell cs = join '/' ((splitOn '/' cs).map spell) := by
    rw [← spells.spell_join, join_splitOn]
  rw [joined]
  apply splitOn_join (by simpa using splitOn_ne_nil '/' cs)
  intro piece member
  obtain ⟨origin, inside, rfl⟩ := List.mem_map.mp member
  exact spells.inside origin (not_mem_of_mem_splitOn inside)

end Respelling

end Text

namespace Path

def respell (spell : List Char → List Char) (path : Path) : Path :=
  ⟨String.ofList (spell path.text.toList)⟩

def Component.respell (spell : List Char → List Char) : Component → Component
  | .name text => .name (String.ofList (spell text.toList))
  | component => component

theorem eq_respell {spell : List Char → List Char} {path other : Path}
    (spelt : other.text.toList = spell path.text.toList) : other = path.respell spell := by
  rw [respell, ← spelt, String.ofList_toList]

section Respelling

variable {spell : List Char → List Char}

theorem normalizeStep_respell (kept : List Component) (component : Component) :
    normalizeStep (kept.map (Component.respell spell)) (component.respell spell) =
      (normalizeStep kept component).map (Component.respell spell) := by
  rcases kept with _ | ⟨last, kept⟩
  · cases component <;> rfl
  · cases last <;> cases component <;> rfl

theorem normalComponents_respell (components : List Component) :
    normalComponents (components.map (Component.respell spell)) =
      (normalComponents components).map (Component.respell spell) := by
  have walked (kept : List Component) :
      (components.map (Component.respell spell)).foldl normalizeStep
          (kept.map (Component.respell spell)) =
        (components.foldl normalizeStep kept).map (Component.respell spell) := by
    induction components generalizing kept with
    | nil => rfl
    | cons component rest ih =>
      rw [List.map_cons, List.foldl_cons, normalizeStep_respell, ih, List.foldl_cons]
  rw [normalComponents, normalComponents, List.map_reverse]
  exact congrArg List.reverse (walked [])

variable (spells : Text.Respelling spell)

include spells

theorem pieces_respell (path : Path) : (path.respell spell).pieces = path.pieces.map spell := by
  rw [pieces, respell, String.toList_ofList, spells.splitOn_spell, pieces]

theorem isAbsolute_respell (path : Path) : (path.respell spell).isAbsolute = path.isAbsolute := by
  have same : (∃ piece rest, (path.respell spell).pieces = [] :: piece :: rest) ↔
      ∃ piece rest, path.pieces = [] :: piece :: rest := by
    rw [pieces_respell spells]
    rcases path.pieces with _ | ⟨first, _ | ⟨second, rest⟩⟩ <;> simp [spells.spell_eq_nil_iff]
  rw [isAbsolute, isAbsolute, decide_eq_decide, Text.head?_eq_separator_iff,
    Text.head?_eq_separator_iff]
  exact same

theorem pieceComponent?_spell (piece : List Char) :
    pieceComponent? (spell piece) = (pieceComponent? piece).map (Component.respell spell) := by
  have current : spell piece = ['.'] ↔ piece = ['.'] := spells.dots piece 1
  have parent : spell piece = ['.', '.'] ↔ piece = ['.', '.'] := spells.dots piece 2
  simp only [pieceComponent?, spells.spell_eq_nil_iff, current, parent]
  split
  · rfl
  split
  · rfl
  · simp [Component.respell]

theorem components_respell (path : Path) :
    (path.respell spell).components = path.components.map (Component.respell spell) := by
  have rooted : (path.respell spell).text.toList.head? = some '/' ↔
      path.text.toList.head? = some '/' := by
    simpa [isAbsolute] using isAbsolute_respell spells path
  have dotted : (path.pieces.map spell).head? = some ['.'] ↔ path.pieces.head? = some ['.'] := by
    cases path.pieces with
    | nil => simp
    | cons first rest => simpa using spells.dots first 1
  have named : (path.pieces.map spell).filterMap pieceComponent? =
      (path.pieces.filterMap pieceComponent?).map (Component.respell spell) := by
    rw [List.filterMap_map, List.map_filterMap]
    exact List.filterMap_congr fun piece _ => pieceComponent?_spell spells piece
  simp only [components_eq, rooted, pieces_respell spells, dotted, named, List.map_append]
  congr 1
  split
  · rfl
  split <;> rfl

theorem steps_respell (path : Path) :
    (path.respell spell).steps = path.steps.map (Component.respell spell) := by
  rw [steps, steps, components_respell spells, List.filter_map]
  congr 2
  funext component
  cases component <;> rfl

theorem toList_text_respell (component : Component) :
    (component.respell spell).text.toList = spell component.text.toList := by
  have dot : spell ['.'] = ['.'] := (spells.dots ['.'] 1).mpr rfl
  have dots : spell ['.', '.'] = ['.', '.'] := (spells.dots ['.', '.'] 2).mpr rfl
  cases component <;> simp [Component.respell, Component.text, dot, dots, spells.spell_separator]

theorem ofComponents_respell (components : List Component) :
    ofComponents (components.map (Component.respell spell)) =
      (ofComponents components).respell spell := by
  have joined (components : List Component) :
      (String.intercalate "/" ((components.map (Component.respell spell)).map Component.text)).toList =
        spell (String.intercalate "/" (components.map Component.text)).toList := by
    simp only [Text.toList_intercalate_slash, spells.spell_join, List.map_map, Function.comp_def,
      toList_text_respell spells]
  rcases components with _ | ⟨first, rest⟩
  · exact eq_respell (joined [])
  cases first with
  | root =>
    apply eq_respell
    have behind := spells.separates [] (String.intercalate "/" (rest.map Component.text)).toList
    rw [← joined, spells.spell_eq_nil_iff.mpr rfl] at behind
    simpa [ofComponents, Component.respell] using behind.symm
  | current => exact eq_respell (joined (.current :: rest))
  | parent => exact eq_respell (joined (.parent :: rest))
  | name text => exact eq_respell (joined (.name text :: rest))

theorem Follows.respell {path other : Path} (follows : path.Follows other) :
    (path.respell spell).Follows (other.respell spell) := by
  rw [Follows, isAbsolute_respell spells, isAbsolute_respell spells, steps_respell spells,
    steps_respell spells, follows.1, follows.2]
  exact ⟨rfl, rfl⟩

theorem follows_join_respell (base path : Path) :
    ((base.join path).respell spell).Follows ((base.respell spell).join (path.respell spell)) := by
  rw [Follows, isAbsolute_respell spells, isAbsolute_join, isAbsolute_join,
    isAbsolute_respell spells, isAbsolute_respell spells, steps_respell spells, steps_join,
    steps_join, isAbsolute_respell spells, steps_respell spells, steps_respell spells]
  refine ⟨rfl, ?_⟩
  split
  · rfl
  · exact List.map_append ..

/-- Normalising does not depend on the spelling. -/
theorem normalize_respell (path base : Path) :
    (path.respell spell).normalize (base.respell spell) = (path.normalize base).respell spell := by
  rw [normalize_eq_walk, normalize_eq_walk, ← ofComponents_respell spells,
    ← normalComponents_respell, ← steps_respell spells, (follows_join_respell spells base path).2]

theorem parent?_respell (path : Path) :
    (path.respell spell).parent? = path.parent?.map (respell spell) := by
  rw [parent?, parent?, components_respell spells, List.getLast?_map, ← List.map_dropLast,
    ofComponents_respell spells]
  rcases path.components.getLast? with _ | last
  · rfl
  · cases last <;> rfl

end Respelling

end Path

end SiteSettings
