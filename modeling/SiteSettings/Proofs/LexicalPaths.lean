import SiteSettings.Path

/-! Normal forms of paths. A path is walked step by step, and what a walk has kept is enough to go
on from: so normalising may stop anywhere, and a normal form is its own. -/

namespace SiteSettings

namespace Text

theorem not_mem_of_mem_splitOn {separator : Char} {cs piece : List Char}
    (member : piece ∈ splitOn separator cs) : separator ∉ piece := by
  induction cs generalizing piece with
  | nil =>
    simp only [splitOn, List.mem_singleton] at member
    simp [member]
  | cons c rest ih =>
    by_cases same : c = separator
    · simp only [splitOn, if_pos same, List.mem_cons] at member
      rcases member with rfl | inside
      · simp
      · exact ih inside
    · simp only [splitOn, if_neg same] at member
      cases pieces : splitOn separator rest with
      | nil => exact absurd pieces (splitOn_ne_nil separator rest)
      | cons first more =>
        rw [pieces] at member ih
        rcases List.mem_cons.mp member with rfl | inside
        · simp [Ne.symm same, ih List.mem_cons_self]
        · exact ih (List.mem_cons_of_mem _ inside)

theorem splitOn_of_not_mem {separator : Char} {cs : List Char} (absent : separator ∉ cs) :
    splitOn separator cs = [cs] := by
  induction cs with
  | nil => rfl
  | cons c rest ih =>
    simp only [List.mem_cons, not_or] at absent
    simp only [splitOn, if_neg (Ne.symm absent.1), ih absent.2]

theorem splitOn_append_cons (separator : Char) (before after : List Char) :
    splitOn separator (before ++ separator :: after) =
      splitOn separator before ++ splitOn separator after := by
  induction before with
  | nil => simp [splitOn]
  | cons c before ih =>
    rw [List.cons_append, splitOn, splitOn, ih]
    split
    · rfl
    · cases pieces : splitOn separator before with
      | nil => exact absurd pieces (splitOn_ne_nil separator before)
      | cons first more => rfl

theorem splitOn_join {separator : Char} {pieces : List (List Char)} (some_piece : pieces ≠ [])
    (absent : ∀ piece ∈ pieces, separator ∉ piece) :
    splitOn separator (join separator pieces) = pieces := by
  induction pieces with
  | nil => exact absurd rfl some_piece
  | cons piece rest ih =>
    obtain ⟨here, later⟩ := List.forall_mem_cons.mp absent
    cases rest with
    | nil => exact splitOn_of_not_mem here
    | cons next more =>
      rw [join, splitOn_append_cons, splitOn_of_not_mem here, ih (List.cons_ne_nil next more) later]
      · rfl
      · simp

theorem toList_intercalate_slash (texts : List String) :
    (String.intercalate "/" texts).toList = join '/' (texts.map String.toList) := by
  induction texts with
  | nil => rfl
  | cons text rest ih =>
    cases rest with
    | nil => simp [join]
    | cons next more =>
      rw [String.intercalate_cons_cons, String.toList_append, ih]
      simp [join]

/-- A separator that another one follows, or nothing, leaves an empty piece behind it. -/
theorem nil_mem_tail_splitOn {separator : Char} {before after : List Char}
    (empty : [] ∈ splitOn separator after) :
    [] ∈ (splitOn separator (before ++ separator :: after)).tail := by
  rw [splitOn_append_cons]
  cases pieces : splitOn separator before with
  | nil => exact absurd pieces (splitOn_ne_nil separator before)
  | cons first more => exact List.mem_append_right more empty

end Text

deriving instance ReflBEq, LawfulBEq for Path.Component

namespace Path

/-- What a normal form may have between two separators. -/
structure IsName (text : String) : Prop where
  nonempty : text ≠ ""
  not_current : text ≠ "."
  not_parent : text ≠ ".."
  no_separator : '/' ∉ text.toList

theorem isName_iff {text : String} :
    IsName text ↔ (text ≠ "" ∧ text ≠ "." ∧ text ≠ "..") ∧ '/' ∉ text.toList :=
  ⟨fun valid => ⟨⟨valid.nonempty, valid.not_current, valid.not_parent⟩, valid.no_separator⟩,
    fun ⟨⟨nonempty, not_current, not_parent⟩, inside⟩ =>
      ⟨nonempty, not_current, not_parent, inside⟩⟩

instance (text : String) : Decidable (IsName text) := decidable_of_iff _ isName_iff.symm

/-- A component that leads somewhere from where a walk is: up, or to what is named. -/
inductive Component.IsStep : Component → Prop where
  | parent : IsStep .parent
  | name {text : String} (valid : IsName text) : IsStep (.name text)

theorem IsName.pieceComponent?_eq {text : String} (valid : IsName text) :
    pieceComponent? text.toList = some (.name text) := by
  have nonempty : text.toList ≠ [] := fun same => valid.nonempty (String.toList_inj.mp same)
  have not_current : text.toList ≠ ['.'] := fun same => valid.not_current (String.toList_inj.mp same)
  have not_parent : text.toList ≠ ['.', '.'] :=
    fun same => valid.not_parent (String.toList_inj.mp same)
  simp [pieceComponent?, nonempty, not_current, not_parent]

theorem isName_of_piece {piece : List Char} (inside : '/' ∉ piece) (nonempty : piece ≠ [])
    (not_current : piece ≠ ['.']) (not_parent : piece ≠ ['.', '.']) :
    IsName (String.ofList piece) where
  nonempty same := nonempty (by simpa using congrArg String.toList same)
  not_current same := not_current (by simpa using congrArg String.toList same)
  not_parent same := not_parent (by simpa using congrArg String.toList same)
  no_separator := by simpa using inside

/-- A piece between separators steps up or names something, or it does not count. -/
theorem isStep_of_piece {piece : List Char} (inside : '/' ∉ piece) {component : Component}
    (found : pieceComponent? piece = some component) : component.IsStep := by
  simp only [pieceComponent?] at found
  split at found
  · cases found
  next counts =>
    simp only [not_or] at counts
    split at found
    · exact Option.some.inj found ▸ .parent
    next names => exact Option.some.inj found ▸ .name (isName_of_piece inside counts.1 counts.2 names)

namespace Component.IsStep

variable {component : Component} (step : component.IsStep)

include step

theorem pieceComponent?_eq : pieceComponent? component.text.toList = some component := by
  cases step with
  | parent => rfl
  | name valid => exact valid.pieceComponent?_eq

theorem no_separator : '/' ∉ component.text.toList := by
  cases step with
  | parent => decide
  | name valid => exact valid.no_separator

theorem counts : component.text.toList ≠ [] ∧ component.text.toList ≠ ['.'] := by
  have read := step.pieceComponent?_eq
  constructor <;> intro same <;> simp [same, pieceComponent?] at read

end Component.IsStep

def pieces (path : Path) : List (List Char) := Text.splitOn '/' path.text.toList

/-- The components without a leading `.`, which leads nowhere. -/
def steps (path : Path) : List Component := path.components.filter (· ≠ .current)

def start (rooted : Bool) : List Component := if rooted then [.root] else []

theorem isStep_of_mem_pieces (path : Path) :
    ∀ component ∈ path.pieces.filterMap pieceComponent?, component.IsStep := by
  intro component member
  obtain ⟨piece, inside, found⟩ := List.mem_filterMap.mp member
  exact isStep_of_piece (Text.not_mem_of_mem_splitOn inside) found

/-- What the separators leave, behind the root or a leading `.`. -/
theorem components_eq (path : Path) :
    path.components = (if path.text.toList.head? = some '/' then [.root]
      else if path.pieces.head? = some ['.'] then [.current] else []) ++
        path.pieces.filterMap pieceComponent? := rfl

theorem steps_eq (path : Path) :
    path.steps = start path.isAbsolute ++ path.pieces.filterMap pieceComponent? := by
  have kept : (path.pieces.filterMap pieceComponent?).filter (· ≠ .current) =
      path.pieces.filterMap pieceComponent? := by
    apply List.filter_eq_self.mpr
    intro component member
    cases isStep_of_mem_pieces path component member <;> rfl
  rw [steps, components_eq, List.filter_append, kept, start, isAbsolute]
  congr 1
  by_cases rooted : path.text.toList.head? = some '/'
  · simp [rooted]
  · by_cases current : path.pieces.head? = some ['.'] <;> simp [rooted, current]

/-- Only in front of a relative path a `.` counts as a component. -/
theorem components_eq_or (path : Path) :
    path.components = path.steps ∨
      path.isAbsolute = false ∧ path.components = .current :: path.steps := by
  rw [steps_eq, components_eq, isAbsolute, start]
  by_cases rooted : path.text.toList.head? = some '/'
  · simp [rooted]
  · by_cases dotted : path.pieces.head? = some ['.'] <;> simp [rooted, dotted]

theorem components_of_isAbsolute {path : Path} (absolute : path.isAbsolute = true) :
    path.components = path.steps :=
  path.components_eq_or.resolve_right fun relative => by simp [absolute] at relative

theorem fileName?_eq_some_iff {path : Path} {name : String} :
    path.fileName? = some name ↔ path.steps.getLast? = some (.name name) := by
  have last : path.components.getLast? = some (.name name) ↔
      path.steps.getLast? = some (.name name) := by
    rcases path.components_eq_or with same | ⟨_, dotted⟩
    · rw [same]
    · rw [dotted]
      cases path.steps with
      | nil => simp
      | cons component rest => rw [List.getLast?_cons_cons]
  rw [← last, fileName?]
  split <;> simp_all

namespace Component.IsStep

variable {component : Component} (step : component.IsStep)

include step

theorem isAbsolute_text : (⟨component.text⟩ : Path).isAbsolute = false := by
  simp only [isAbsolute, decide_eq_false_iff_not]
  exact fun slash => step.no_separator (List.mem_of_head? slash)

/-- The text of a single step leads nowhere else. -/
theorem steps_text : (⟨component.text⟩ : Path).steps = [component] := by
  rw [steps_eq, step.isAbsolute_text, pieces, Text.splitOn_of_not_mem step.no_separator]
  simp [start, step.pieceComponent?_eq]

end Component.IsStep

/-- Onto a base that is not empty a relative path is joined behind exactly one separator. -/
theorem join_relative {path : Path} (relative : path.isAbsolute = false) (base : Path) :
    (base.text.toList = [] ∧ base.join path = path) ∨
      ∃ front, (base.text.toList = front ++ ['/'] ∨ base.text.toList = front ∧ front ≠ []) ∧
        (base.join path).text.toList = front ++ '/' :: path.text.toList := by
  rw [join, if_neg (relative ▸ Bool.false_ne_true)]
  by_cases empty : base.text = ""
  · exact .inl ⟨by simp [empty], by simp [empty]⟩
  right
  split
  next ended =>
    have last : base.text.toList.getLast? = some '/' := by simpa [empty] using ended
    obtain ⟨front, ends⟩ := List.getLast?_eq_some_iff.mp last
    exact ⟨front, .inl ends, by simp [ends]⟩
  next => exact ⟨base.text.toList, .inr ⟨rfl, by simpa using empty⟩, by simp⟩

theorem isAbsolute_join (base path : Path) :
    (base.join path).isAbsolute = (path.isAbsolute || base.isAbsolute) := by
  cases absolute : path.isAbsolute with
  | true => simp [join, absolute]
  | false =>
    rw [Bool.false_or]
    rcases join_relative absolute base with ⟨empty, same⟩ | ⟨front, ends, joined⟩
    · rw [same, absolute]
      simp [isAbsolute, empty]
    · rw [isAbsolute, isAbsolute, joined]
      rcases ends with ends | ⟨ends, filled⟩
      · rw [ends]
        cases front <;> rfl
      · rw [ends]
        cases front with
        | nil => exact absurd rfl filled
        | cons c rest => rfl

/-- Joining goes on from the base, unless the path starts at the root itself. -/
theorem steps_join (base path : Path) :
    (base.join path).steps = if path.isAbsolute then path.steps else base.steps ++ path.steps := by
  cases absolute : path.isAbsolute with
  | true => simp [join, absolute]
  | false =>
    rcases join_relative absolute base with ⟨empty, same⟩ | ⟨front, ends, joined⟩
    · have nowhere : base.steps = [] := by
        simp [steps, components, componentsOf, empty, Text.splitOn, pieceComponent?]
      rw [same, nowhere]
      rfl
    · have base_pieces : base.pieces.filterMap pieceComponent? =
          (Text.splitOn '/' front).filterMap pieceComponent? := by
        rcases ends with ends | ⟨ends, _⟩
        · rw [pieces, ends, Text.splitOn_append_cons, List.filterMap_append]
          exact List.append_nil _
        · rw [pieces, ends]
      rw [steps_eq, steps_eq base, steps_eq path, isAbsolute_join, absolute, base_pieces, pieces,
        joined, Text.splitOn_append_cons, List.filterMap_append, Bool.false_or]
      simp [start, pieces]

/-! ### Walks -/

theorem normalizeStep_current (kept : List Component) : normalizeStep kept .current = kept := by
  cases kept with
  | nil => rfl
  | cons last kept => cases last <;> rfl

theorem normalComponents_steps (path : Path) :
    normalComponents path.steps = normalComponents path.components := by
  simp only [normalComponents, steps, List.foldl_filter]
  congr 2
  funext kept component
  cases component <;> simp [normalizeStep_current]

/-- Up so many times, and from there along the names. -/
def detour (up : Nat) (names : List String) : List Component :=
  List.replicate up .parent ++ names.map .name

/-- The components of a normal form. From the root no step leads up. -/
def Reduced (rooted : Bool) (components : List Component) : Prop :=
  ∃ up names, (rooted = true → up = 0) ∧ (∀ name ∈ names, IsName name) ∧
    components = start rooted ++ detour up names

theorem isStep_of_mem_detour {names : List String} (valid : ∀ name ∈ names, IsName name) (up : Nat) :
    ∀ component ∈ detour up names, component.IsStep := by
  intro component member
  rcases List.mem_append.mp member with above | below
  · exact List.eq_of_mem_replicate above ▸ .parent
  · obtain ⟨name, inside, rfl⟩ := List.mem_map.mp below
    exact .name (valid name inside)

theorem normalizeStep_name (kept : List Component) (text : String) :
    normalizeStep kept (.name text) = .name text :: kept := by
  unfold normalizeStep
  split <;> simp_all

theorem normalizeStep_parents (up : Nat) :
    normalizeStep (List.replicate up .parent) .parent = List.replicate (up + 1) .parent := by
  cases up <;> rfl

theorem foldl_normalizeStep_parents (up : Nat) :
    (List.replicate up Component.parent).foldl normalizeStep [] = List.replicate up .parent := by
  induction up with
  | zero => rfl
  | succ up ih =>
    rw [List.replicate_succ', List.foldl_append, ih, ← List.replicate_succ', List.foldl_cons,
      List.foldl_nil, normalizeStep_parents]

theorem foldl_normalizeStep_names (names : List String) (kept : List Component) :
    (names.map Component.name).foldl normalizeStep kept =
      (names.map Component.name).reverse ++ kept := by
  induction names generalizing kept with
  | nil => rfl
  | cons name rest ih => simp [normalizeStep_name, ih]

/-- A walk keeps a normal form at every step: a name goes to its end, and a step up takes back the
last name, or stays at the root, or leads further up. -/
theorem foldl_normalizeStep {rooted : Bool} {up : Nat} {names : List String}
    {rest : List Component} (level : rooted = true → up = 0) (valid : ∀ name ∈ names, IsName name)
    (steps : ∀ component ∈ rest, component.IsStep) :
    ∃ kept, Reduced rooted kept ∧
      rest.foldl normalizeStep (start rooted ++ detour up names).reverse = kept.reverse := by
  induction rest generalizing up names with
  | nil => exact ⟨_, ⟨up, names, level, valid, rfl⟩, rfl⟩
  | cons component rest ih =>
    obtain ⟨here, later⟩ := List.forall_mem_cons.mp steps
    rw [List.foldl_cons]
    cases here with
    | @name text named =>
      have pushed : normalizeStep (start rooted ++ detour up names).reverse (.name text) =
          (start rooted ++ detour up (names ++ [text])).reverse := by
        simp [normalizeStep_name, detour]
      rw [pushed]
      exact ih level (by simpa [or_imp, forall_and] using ⟨valid, named⟩) later
    | parent =>
      rcases List.eq_nil_or_concat names with rfl | ⟨front, last, rfl⟩
      · cases rooted with
        | true =>
          obtain rfl := level rfl
          exact ih level valid later
        | false =>
          have raised : normalizeStep (start false ++ detour up []).reverse .parent =
              (start false ++ detour (up + 1) []).reverse := by
            simp only [start, detour, List.map_nil, List.append_nil, Bool.false_eq_true, if_false,
              List.nil_append, List.reverse_replicate, normalizeStep_parents]
          rw [raised]
          exact ih (by simp) valid later
      · have taken : normalizeStep (start rooted ++ detour up (front ++ [last])).reverse .parent =
            (start rooted ++ detour up front).reverse := by
          simp [detour, normalizeStep]
        rw [List.concat_eq_append] at valid ⊢
        rw [taken]
        exact ih level (fun name member => valid name (List.mem_append_left _ member)) later

theorem reduced_normalComponents (path : Path) :
    Reduced path.isAbsolute (normalComponents path.steps) := by
  have walk : ∃ kept, Reduced path.isAbsolute kept ∧
      (path.pieces.filterMap pieceComponent?).foldl normalizeStep
        (start path.isAbsolute ++ detour 0 []).reverse = kept.reverse :=
    foldl_normalizeStep (fun _ => rfl) (List.forall_mem_nil IsName) (isStep_of_mem_pieces path)
  obtain ⟨kept, reduced, walked⟩ := walk
  have begun : path.steps.foldl normalizeStep [] = kept.reverse := by
    rw [steps_eq, List.foldl_append, ← walked]
    cases path.isAbsolute <;> rfl
  rw [normalComponents, begun, List.reverse_reverse]
  exact reduced

def textOf (rooted : Bool) (steps : List Component) : String :=
  (if rooted then "/" else "") ++ String.intercalate "/" (steps.map Component.text)

def words (steps : List Component) : List (List Char) :=
  if steps = [] then [[]] else steps.map fun component => component.text.toList

section Steps

variable {rest : List Component} (steps : ∀ component ∈ rest, component.IsStep)

include steps

theorem ofComponents_start (rooted : Bool) :
    (ofComponents (start rooted ++ rest)).text = textOf rooted rest := by
  cases rooted with
  | true => rfl
  | false =>
    cases rest with
    | nil => rfl
    | cons first rest => cases steps first List.mem_cons_self <;> simp [ofComponents, start, textOf]

theorem filterMap_words : (words rest).filterMap pieceComponent? = rest := by
  have read : (rest.map fun component => component.text.toList).filterMap pieceComponent? = rest := by
    induction rest with
    | nil => rfl
    | cons component rest ih =>
      obtain ⟨here, later⟩ := List.forall_mem_cons.mp steps
      rw [List.map_cons, List.filterMap_cons_some here.pieceComponent?_eq, ih later]
  unfold words
  split
  next empty => rw [empty]; rfl
  next => exact read

theorem mem_words {piece : List Char} (member : piece ∈ words rest) :
    piece ≠ ['.'] ∧ (rest ≠ [] → piece ≠ []) := by
  unfold words at member
  split at member
  next empty => simp [List.mem_singleton.mp member, empty]
  next =>
    obtain ⟨component, inside, rfl⟩ := List.mem_map.mp member
    exact ⟨(steps component inside).counts.2, fun _ => (steps component inside).counts.1⟩

variable {path : Path} {rooted : Bool} (text : path.text = textOf rooted rest)

include text

theorem pieces_textOf : path.pieces = if rooted then [] :: words rest else words rest := by
  have relative : Text.splitOn '/' (textOf false rest).toList = words rest := by
    rw [textOf, if_neg Bool.false_ne_true, String.empty_append, Text.toList_intercalate_slash,
      List.map_map, words]
    split
    next empty => simp [empty, Text.join, Text.splitOn]
    next filled =>
      apply Text.splitOn_join (by simpa using filled)
      intro piece member
      obtain ⟨component, inside, rfl⟩ := List.mem_map.mp member
      exact (steps component inside).no_separator
  cases rooted with
  | false => rw [pieces, text, relative, if_neg Bool.false_ne_true]
  | true =>
    have chars : path.text.toList = '/' :: (textOf false rest).toList := by simp [text, textOf]
    rw [pieces, chars, Text.splitOn, if_pos rfl, relative, if_pos rfl]

theorem isAbsolute_textOf : path.isAbsolute = rooted := by
  cases rooted with
  | true => simp [isAbsolute, text, textOf]
  | false =>
    have read := pieces_textOf steps text
    simp only [isAbsolute, decide_eq_false_iff_not]
    intro head
    obtain ⟨more, chars⟩ := List.head?_eq_some_iff.mp head
    cases rest with
    | nil => simp [text, textOf] at chars
    | cons first rest =>
      rw [pieces, chars, Text.splitOn, if_pos rfl, if_neg Bool.false_ne_true, words,
        if_neg (List.cons_ne_nil first rest)] at read
      exact (steps first List.mem_cons_self).counts.1 (List.cons.inj read).1.symm

theorem components_textOf : path.components = start rooted ++ rest := by
  have read := pieces_textOf steps text
  have head : path.text.toList.head? = some '/' ↔ rooted = true := by
    simp [← isAbsolute_textOf steps text, isAbsolute]
  cases rooted with
  | true =>
    rw [components_eq, if_pos (head.mpr rfl), read, if_pos rfl, List.filterMap_cons_none rfl,
      filterMap_words steps]
    rfl
  | false =>
    have unmarked : (words rest).head? ≠ some ['.'] := by
      intro marked
      exact (mem_words steps (List.mem_of_head? marked)).1 rfl
    rw [components_eq, if_neg fun rooted => Bool.false_ne_true (head.mp rooted), read,
      if_neg Bool.false_ne_true, if_neg unmarked, filterMap_words steps]
    rfl

/-- Only the root leaves an empty piece behind a separator. -/
theorem separated : path.text = "/" ∨ [] ∉ path.pieces.tail := by
  rw [pieces_textOf steps text]
  by_cases nowhere : rest = []
  · subst nowhere
    cases rooted with
    | true => exact .inl text
    | false => exact .inr List.not_mem_nil
  · right
    intro member
    have inside : [] ∈ words rest := by
      cases rooted with
      | true => exact member
      | false => exact List.mem_of_mem_tail member
    exact (mem_words steps inside).2 nowhere rfl

end Steps

/-- Nothing in the text is superfluous: no piece is `.`, no separator follows another one or ends
the text, the root apart, and `..` only stands in front, in a relative path. -/
structure Plain (path : Path) : Prop where
  no_current : ['.'] ∉ path.pieces
  no_repeated : ¬ ['/', '/'] <:+: path.text.toList
  no_trailing : path.text.toList.getLast? = some '/' → path.text = "/"
  parents_first : ∃ up rest, path.pieces = List.replicate up ['.', '.'] ++ rest ∧
    ['.', '.'] ∉ rest ∧ (path.isAbsolute = true → up = 0)

theorem words_detour {names : List String} (valid : ∀ name ∈ names, IsName name) (up : Nat) :
    ∃ rest, words (detour up names) = List.replicate up ['.', '.'] ++ rest ∧ ['.', '.'] ∉ rest := by
  unfold words
  split
  next empty =>
    have level : up = 0 := by simpa using (List.append_eq_nil_iff.mp empty).1
    exact ⟨[[]], by rw [level]; rfl, by decide⟩
  next =>
    refine ⟨names.map String.toList, by simp [detour, Component.text, Function.comp_def], ?_⟩
    intro member
    obtain ⟨name, inside, same⟩ := List.mem_map.mp member
    exact (valid name inside).not_parent (String.toList_inj.mp same)

namespace Reduced

variable {rooted : Bool} {components : List Component} (reduced : Reduced rooted components)

include reduced

/-- A normal form is its own. -/
theorem normalComponents_eq : normalComponents components = components := by
  obtain ⟨up, names, level, _, rfl⟩ := reduced
  have climbed : (start rooted ++ List.replicate up Component.parent).foldl normalizeStep [] =
      (start rooted ++ List.replicate up Component.parent).reverse := by
    cases rooted with
    | true =>
      obtain rfl := level rfl
      rfl
    | false => exact (foldl_normalizeStep_parents up).trans List.reverse_replicate.symm
  rw [normalComponents, detour, ← List.append_assoc, List.foldl_append, climbed,
    foldl_normalizeStep_names, ← List.reverse_append, List.reverse_reverse]

theorem components_ofComponents : (ofComponents components).components = components := by
  obtain ⟨up, names, _, valid, rfl⟩ := reduced
  have steps := isStep_of_mem_detour valid up
  exact components_textOf steps (ofComponents_start steps rooted)

theorem steps_ofComponents : (ofComponents components).steps = components := by
  rw [steps, reduced.components_ofComponents]
  obtain ⟨up, names, _, valid, rfl⟩ := reduced
  apply List.filter_eq_self.mpr
  intro component member
  rcases List.mem_append.mp member with root | step
  · cases rooted with
    | true => rw [List.mem_singleton.mp root]; rfl
    | false => cases root
  · cases isStep_of_mem_detour valid up component step <;> rfl

theorem isAbsolute_ofComponents : (ofComponents components).isAbsolute = rooted := by
  obtain ⟨up, names, _, valid, rfl⟩ := reduced
  have steps := isStep_of_mem_detour valid up
  exact isAbsolute_textOf steps (ofComponents_start steps rooted)

theorem plain_ofComponents : (ofComponents components).Plain := by
  have absolute := reduced.isAbsolute_ofComponents
  obtain ⟨up, names, level, valid, rfl⟩ := reduced
  have steps := isStep_of_mem_detour valid up
  have text := ofComponents_start steps rooted
  obtain ⟨rest, leading, none_later⟩ := words_detour valid up
  have read := pieces_textOf steps text
  have separated := separated steps text
  generalize ofComponents (start rooted ++ detour up names) = path at *
  refine ⟨?_, ?_, ?_, ?_⟩
  · rw [read]
    cases rooted with
    | true =>
      rintro (_ | ⟨_, inside⟩)
      exact (mem_words steps inside).1 rfl
    | false => exact fun inside => (mem_words steps inside).1 rfl
  · rintro ⟨before, after, chars⟩
    rcases separated with root | apart
    · have size := congrArg List.length chars
      simp [root] at size
      omega
    · apply apart
      rw [pieces, ← chars, List.append_assoc]
      exact Text.nil_mem_tail_splitOn (by simp [Text.splitOn])
  · intro trailing
    obtain ⟨before, chars⟩ := List.getLast?_eq_some_iff.mp trailing
    refine separated.resolve_right fun apart => apart ?_
    rw [pieces, chars]
    exact Text.nil_mem_tail_splitOn (by simp [Text.splitOn])
  · cases rooted with
    | true =>
      obtain rfl := level rfl
      refine ⟨0, [] :: rest, by rw [read, leading]; rfl, by simp [none_later], fun _ => rfl⟩
    | false => exact ⟨up, rest, read.trans leading, none_later, by simp [absolute]⟩

end Reduced

theorem normalize_eq_walk (path base : Path) :
    path.normalize base = ofComponents (normalComponents (base.join path).steps) := by
  rw [normalComponents_steps]
  rfl

/-- The components of a normal form are those that normalising came to. -/
theorem components_normalize (path base : Path) :
    (path.normalize base).components = normalComponents (base.join path).components := by
  rw [normalize_eq_walk, (reduced_normalComponents _).components_ofComponents,
    normalComponents_steps]

theorem steps_normalize (path base : Path) :
    (path.normalize base).steps = normalComponents (base.join path).steps := by
  rw [normalize_eq_walk, (reduced_normalComponents _).steps_ofComponents]

theorem plain_normalize (path base : Path) : (path.normalize base).Plain := by
  rw [normalize_eq_walk]
  exact (reduced_normalComponents _).plain_ofComponents

theorem isAbsolute_normalize (path base : Path) :
    (path.normalize base).isAbsolute = (path.isAbsolute || base.isAbsolute) := by
  rw [normalize_eq_walk, (reduced_normalComponents _).isAbsolute_ofComponents, isAbsolute_join]

theorem isSameOrAncestor_normalize_iff {directory path base origin : Path} :
    isSameOrAncestor (directory.normalize base) (path.normalize origin) = true ↔
      normalComponents (base.join directory).components <+:
        normalComponents (origin.join path).components := by
  rw [isSameOrAncestor, List.isPrefixOf_iff_prefix, components_normalize, components_normalize]

/-- From where it starts, and from nowhere, a normal form leads to itself. -/
theorem Reduced.normalize_eq {rooted : Bool} {components : List Component}
    (reduced : Reduced rooted components) {base : Path} (own : rooted = true ∨ base.steps = []) :
    (ofComponents components).normalize base = ofComponents components := by
  have alone : (base.join (ofComponents components)).steps = components := by
    rw [steps_join, reduced.isAbsolute_ofComponents, reduced.steps_ofComponents]
    rcases own with rooted | nowhere
    · rw [if_pos rooted]
    · rw [nowhere, List.nil_append, ite_self]
  rw [normalize_eq_walk, alone, reduced.normalComponents_eq]

theorem normalize_again (path base other : Path) :
    (path.normalize base).normalize
      (if (path.normalize base).isAbsolute then other else ⟨""⟩) = path.normalize base := by
  have reduced := reduced_normalComponents (base.join path)
  rw [normalize_eq_walk path base, reduced.isAbsolute_ofComponents]
  apply reduced.normalize_eq
  cases (base.join path).isAbsolute with
  | true => exact .inl rfl
  | false => exact .inr rfl

/-- A walk may stop anywhere and go on from the normal form of where it is. -/
theorem normalComponents_append (path : Path) (later : List Component) :
    normalComponents (normalComponents path.steps ++ later) =
      normalComponents (path.steps ++ later) := by
  have again := (reduced_normalComponents path).normalComponents_eq
  have kept : (normalComponents path.steps).foldl normalizeStep [] =
      path.steps.foldl normalizeStep [] := List.reverse_inj.mp again
  rw [normalComponents, List.foldl_append, kept, ← List.foldl_append, normalComponents]

theorem normalize_normalize (path base origin : Path) :
    path.normalize (base.normalize origin) = (base.join path).normalize origin := by
  rw [normalize_eq_walk path, normalize_eq_walk (base.join path), steps_join, steps_join origin,
    isAbsolute_join, steps_join base]
  cases path.isAbsolute with
  | true => simp
  | false =>
    rw [if_neg Bool.false_ne_true, steps_normalize, normalComponents_append, steps_join]
    cases base.isAbsolute <;> simp

/-- Normalising says where a path leads in the plainest text. It changes nothing when done again,
and a path may be normalised onto the normal form of its base. -/
theorem normalize_lawful (path base origin : Path) :
    let result := path.normalize base
    result.Plain ∧ result.isAbsolute = (path.isAbsolute || base.isAbsolute) ∧
      (∀ other, result.normalize (if result.isAbsolute then other else ⟨""⟩) = result) ∧
      path.normalize (base.normalize origin) = (base.join path).normalize origin :=
  ⟨plain_normalize path base, isAbsolute_normalize path base, normalize_again path base,
    normalize_normalize path base origin⟩

example : Path.normalize ⟨"../../docs//./"⟩ ⟨"site"⟩ = ⟨"../docs"⟩ := by decide +kernel

end Path

end SiteSettings
