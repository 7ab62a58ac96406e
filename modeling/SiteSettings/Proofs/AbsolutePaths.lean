import SiteSettings.Proofs.LexicalPaths

/-! Making a path absolute without walking it. However the result is spelt, it leads where the path
leads from its base. -/

namespace SiteSettings

namespace Path

/-- Only in front of a relative path there is anything to skip. -/
theorem dropWhile_components (path : Path) :
    path.components.dropWhile (· = .current) = path.steps := by
  have kept : path.steps.dropWhile (· = .current) = path.steps := by
    cases walked : path.steps with
    | nil => rfl
    | cons component rest =>
      have member : component ∈ path.steps := walked ▸ List.mem_cons_self
      have counts : component ≠ .current := by simpa using (List.mem_filter.mp member).2
      exact List.dropWhile_cons_of_neg (by simpa using counts)
  rcases path.components_eq_or with same | ⟨_, dotted⟩
  · rw [same, kept]
  · rw [dotted, List.dropWhile_cons_of_pos (by simp), kept]

/-- One more separator in front of an absolute path makes no difference. -/
theorem steps_separator_append {path : Path} (absolute : path.isAbsolute = true) :
    (⟨"/" ++ path.text⟩ : Path).steps = path.steps := by
  have still : (⟨"/" ++ path.text⟩ : Path).isAbsolute = true := by simp [isAbsolute]
  have split : (⟨"/" ++ path.text⟩ : Path).pieces = [] :: path.pieces := by
    simp [pieces, Text.splitOn]
  rw [steps_eq, steps_eq, still, absolute, split, List.filterMap_cons_none rfl]

/-- Step by step behind a base, a walk goes on from there. -/
theorem foldl_join {rest : List Component} (steps : ∀ component ∈ rest, component.IsStep)
    (base : Path) :
    let reached := (rest.map Component.text).foldl (fun whole piece => whole.join ⟨piece⟩) base
    reached.isAbsolute = base.isAbsolute ∧ reached.steps = base.steps ++ rest := by
  induction rest generalizing base with
  | nil => exact ⟨rfl, (List.append_nil _).symm⟩
  | cons component rest ih =>
    obtain ⟨here, later⟩ := List.forall_mem_cons.mp steps
    obtain ⟨absolute, reached⟩ := ih later (base.join ⟨component.text⟩)
    rw [isAbsolute_join, here.isAbsolute_text, Bool.false_or] at absolute
    rw [steps_join, here.isAbsolute_text, if_neg Bool.false_ne_true, here.steps_text,
      List.append_assoc] at reached
    exact ⟨absolute, reached⟩

theorem exists_rest_of_isAbsolute {path : Path} (absolute : path.isAbsolute = true) :
    ∃ rest, (∀ component ∈ rest, component.IsStep) ∧ path.steps = start true ++ rest :=
  ⟨_, isStep_of_mem_pieces path, by rw [steps_eq, absolute]⟩

theorem steps_of_textOf {rest : List Component} (steps : ∀ component ∈ rest, component.IsStep)
    {path : Path} (text : path.text = textOf true rest) :
    path.isAbsolute = true ∧ path.steps = start true ++ rest := by
  have absolute := isAbsolute_textOf steps text
  exact ⟨absolute, (components_of_isAbsolute absolute).symm.trans (components_textOf steps text)⟩

/-- Both paths start at the root or neither does, and they take the same steps. -/
def Follows (path other : Path) : Prop :=
  path.isAbsolute = other.isAbsolute ∧ path.steps = other.steps

theorem Follows.trans {path other last : Path} (first : path.Follows other)
    (second : other.Follows last) : path.Follows last :=
  ⟨first.1.trans second.1, first.2.trans second.2⟩

theorem follows_plain {path : Path} (absolute : path.isAbsolute = true) :
    (ofComponents path.components).Follows path := by
  obtain ⟨rest, steps, read⟩ := exists_rest_of_isAbsolute absolute
  rw [components_of_isAbsolute absolute, Follows, absolute, read]
  exact steps_of_textOf steps (ofComponents_start steps true)

theorem follows_doubled {path : Path} (absolute : path.isAbsolute = true) :
    (⟨"//" ++ String.intercalate "/" ((path.steps.map Component.text).drop 1)⟩ : Path).Follows
      path := by
  obtain ⟨rest, steps, read⟩ := exists_rest_of_isAbsolute absolute
  have spelt : (⟨textOf true rest⟩ : Path).text = textOf true rest := rfl
  obtain ⟨rooted, plain⟩ := steps_of_textOf steps spelt
  have text : "//" ++ String.intercalate "/" ((path.steps.map Component.text).drop 1) =
      "/" ++ textOf true rest := by
    rw [read, textOf, if_pos rfl, ← String.append_assoc]
    rfl
  rw [text, Follows, absolute, read]
  exact ⟨by simp [isAbsolute], (steps_separator_append rooted).trans plain⟩

theorem follows_behind {path : Path} (relative : path.isAbsolute = false) (base : Path) :
    ((path.steps.map Component.text).foldl (fun whole piece => whole.join ⟨piece⟩) base).Follows
      (base.join path) := by
  have steps : ∀ component ∈ path.steps, component.IsStep := by
    rw [steps_eq, relative]
    exact isStep_of_mem_pieces path
  rw [Follows, isAbsolute_join, steps_join, relative, Bool.false_or, if_neg Bool.false_ne_true]
  exact foldl_join steps base

theorem Follows.join_empty {path other : Path} (follows : path.Follows other) :
    (path.join ⟨""⟩).Follows other := by
  obtain ⟨absolute, steps⟩ := follows
  have nowhere : (⟨""⟩ : Path).steps = [] := by decide
  refine ⟨(isAbsolute_join path ⟨""⟩).trans absolute, ?_⟩
  rw [steps_join, nowhere, List.append_nil, ← steps]
  rfl

theorem join_of_isAbsolute {path : Path} (absolute : path.isAbsolute = true) (base : Path) :
    base.join path = path := by
  rw [join, if_pos absolute]

/-- However an absolute path is spelt, it leads where the path leads from the base. -/
theorem follows_absolutize (path base : Path) :
    (path.absolutize base).Follows (base.join path) := by
  rw [absolutize, dropWhile_components]
  -- a separator at the end is put back behind what the rest came to
  suffices whole : Follows _ (base.join path) by
    split
    · exact whole.join_empty
    · exact whole
  split
  next doubled =>
    have absolute : path.isAbsolute = true := by
      simpa [isAbsolute, List.head?_take] using congrArg List.head? doubled.1
    rw [join_of_isAbsolute absolute]
    exact follows_doubled absolute
  next =>
    split
    next absolute =>
      rw [join_of_isAbsolute absolute]
      exact follows_plain absolute
    next relative => exact follows_behind (by simpa using relative) base

/-- What leads from the root where a path leads from its base is normalised like the path, wherever
one is later. -/
theorem Follows.normalize_eq {path other base : Path} (follows : other.Follows (base.join path))
    (rooted : base.isAbsolute = true) (later : Path) : other.normalize later = path.normalize base := by
  obtain ⟨absolute, steps⟩ := follows
  rw [isAbsolute_join, rooted, Bool.or_true] at absolute
  rw [normalize_eq_walk, normalize_eq_walk, join_of_isAbsolute absolute, steps]

theorem normalComponents_append_name (front : List Component) (name : String) :
    normalComponents (front ++ [.name name]) = normalComponents front ++ [.name name] := by
  rw [normalComponents, List.foldl_append, List.foldl_cons, List.foldl_nil, normalizeStep_name,
    List.reverse_cons, normalComponents]

/-- A path that ends in a name still ends in it when it is normalised, and so has a parent. -/
theorem exists_parent_normalize {path : Path} {name : String} (named : path.fileName? = some name)
    (base : Path) : ∃ parent, (path.normalize base).parent? = some parent := by
  obtain ⟨front, read⟩ := List.getLast?_eq_some_iff.mp (fileName?_eq_some_iff.mp named)
  have joined : ∃ before, (base.join path).steps = before ++ [.name name] := by
    rw [steps_join, read]
    split
    · exact ⟨front, rfl⟩
    · exact ⟨base.steps ++ front, (List.append_assoc ..).symm⟩
  obtain ⟨before, joined⟩ := joined
  have ends : (path.normalize base).components.getLast? = some (.name name) := by
    rw [components_normalize, ← normalComponents_steps, joined, normalComponents_append_name,
      List.getLast?_concat]
  rw [parent?, ends]
  exact ⟨_, rfl⟩

end Path

end SiteSettings
