import SiteSettings.Proofs.NormalPaths

/-! Ancestry of paths. On absolute paths in normal form it is the order of containment: what lies
below a path is what relative paths without a step up lead to from there. -/

namespace SiteSettings

namespace Path

/-- Absolute, and normalising leaves it as it is. -/
theorem canonical_iff {path : Path} :
    path.Canonical ↔ path.isAbsolute = true ∧ path.normalize path = path := by
  constructor
  · intro canonical
    exact ⟨canonical.isAbsolute, canonical.normalize_eq path⟩
  · rintro ⟨absolute, same⟩
    rw [← same]
    exact canonical_normalize absolute path

instance (path : Path) : Decidable path.Canonical := decidable_of_iff _ canonical_iff.symm

/-- From a normal form names lead on to a normal form. -/
theorem Reduced.append_names {rooted : Bool} {components : List Component}
    (reduced : Reduced rooted components) {names : List String}
    (valid : ∀ name ∈ names, IsName name) :
    Reduced rooted (components ++ names.map .name) := by
  obtain ⟨up, own, level, here, rfl⟩ := reduced
  refine ⟨up, own ++ names, level, ?_, by simp [detour]⟩
  intro name member
  rcases List.mem_append.mp member with before | after
  · exact here name before
  · exact valid name after

namespace Canonical

variable {path other : Path}

theorem components_reduced (canonical : path.Canonical) : Reduced true path.components := by
  obtain ⟨components, reduced, rfl⟩ := canonical.reduced
  rwa [reduced.components_ofComponents]

theorem ofComponents_components (canonical : path.Canonical) :
    ofComponents path.components = path := by
  obtain ⟨components, reduced, rfl⟩ := canonical.reduced
  rw [reduced.components_ofComponents]

theorem eq_of_components (canonical : path.Canonical) (again : other.Canonical)
    (same : path.components = other.components) : path = other := by
  rw [← canonical.ofComponents_components, same, again.ofComponents_components]

end Canonical

/-- A relative path without a step up is a list of names. -/
theorem exists_names_of_parent_not_mem {path : Path} (relative : path.isAbsolute = false)
    (level : .parent ∉ path.components) :
    ∃ names : List String, (∀ name ∈ names, IsName name) ∧ path.steps = names.map .name := by
  have named : ∀ component ∈ path.steps, ∃ name, IsName name ∧ Component.name name = component := by
    intro component member
    have inside : component ∈ path.components := (List.mem_filter.mp member).1
    rw [steps_eq, relative] at member
    cases isStep_of_mem_pieces path component member with
    | parent => exact absurd inside level
    | name valid => exact ⟨_, valid, rfl⟩
  generalize path.steps = steps at named
  induction steps with
  | nil => exact ⟨[], List.forall_mem_nil _, rfl⟩
  | cons component rest ih =>
    obtain ⟨⟨name, valid, rfl⟩, later⟩ := List.forall_mem_cons.mp named
    obtain ⟨names, others, rfl⟩ := ih later
    exact ⟨name :: names, List.forall_mem_cons.mpr ⟨valid, others⟩, rfl⟩

/-- From a normal form a relative path without a step up leads on by its own names. -/
theorem components_normalize_of_relative {way origin : Path} (relative : way.isAbsolute = false)
    (level : .parent ∉ way.components) (canonical : origin.Canonical) :
    (way.normalize origin).components = origin.components ++ way.steps := by
  obtain ⟨names, valid, read⟩ := exists_names_of_parent_not_mem relative level
  rw [components_normalize, ← normalComponents_steps, steps_join, relative,
    if_neg Bool.false_ne_true, ← components_of_isAbsolute canonical.isAbsolute, read]
  exact (canonical.components_reduced.append_names valid).normalComponents_eq

theorem isSameOrAncestor_iff {ancestor path : Path} :
    isSameOrAncestor ancestor path = true ↔ ancestor.components <+: path.components :=
  List.isPrefixOf_iff_prefix

/-- What lies below a normal form is found there by names alone. -/
theorem exists_names_of_prefix {ancestor path : Path} (above : ancestor.Canonical)
    (below : path.Canonical) (within : ancestor.components <+: path.components) :
    ∃ names : List String, (∀ name ∈ names, IsName name) ∧
      path.components = ancestor.components ++ names.map .name := by
  obtain ⟨front, here, text⟩ := above
  obtain ⟨whole, valid, spelt⟩ := below
  obtain ⟨rest, joined⟩ := within
  rw [components_of_names valid spelt] at joined ⊢
  rw [components_of_names here text] at joined ⊢
  have named : whole.map Component.name = front.map .name ++ rest := (List.cons.inj joined).2.symm
  obtain ⟨before, names, rfl, _, rfl⟩ := List.map_eq_append_iff.mp named
  exact ⟨names, fun name member => valid name (List.mem_append_right _ member), joined.symm⟩

/-- A path is the same as another one or above it exactly if a relative path without a step up
leads from it to the other. -/
theorem isSameOrAncestor_iff_exists_way {ancestor path : Path} (above : ancestor.Canonical)
    (below : path.Canonical) :
    isSameOrAncestor ancestor path = true ↔
      ∃ way : Path, way.isAbsolute = false ∧ .parent ∉ way.components ∧
        way.normalize ancestor = path := by
  rw [isSameOrAncestor_iff]
  constructor
  · intro within
    obtain ⟨names, valid, read⟩ := exists_names_of_prefix above below within
    have reduced : Reduced false (names.map .name) := ⟨0, names, by simp, valid, rfl⟩
    have relative := reduced.isAbsolute_ofComponents
    have level : .parent ∉ (ofComponents (names.map .name)).components := by
      simp [reduced.components_ofComponents]
    refine ⟨_, relative, level, ?_⟩
    apply (canonical_normalize above.isAbsolute _).eq_of_components below
    rw [components_normalize_of_relative relative level above, reduced.steps_ofComponents, read]
  · rintro ⟨way, relative, level, rfl⟩
    rw [components_normalize_of_relative relative level above]
    exact List.prefix_append ..

/-- Ancestry orders the absolute normal forms by containment, and what is around one path is
ordered completely. -/
theorem isSameOrAncestor_order {first second path : Path} (one : first.Canonical)
    (two : second.Canonical) (below : path.Canonical) :
    isSameOrAncestor first first = true ∧
      (isSameOrAncestor first second = true → isSameOrAncestor second path = true →
        isSameOrAncestor first path = true) ∧
      (isSameOrAncestor first second = true → isSameOrAncestor second first = true →
        first = second) ∧
      (isSameOrAncestor first path = true ↔
        ∃ way : Path, way.isAbsolute = false ∧ .parent ∉ way.components ∧
          way.normalize first = path) ∧
      (isSameOrAncestor first path = true → isSameOrAncestor second path = true →
        isSameOrAncestor first second = true ∨ isSameOrAncestor second first = true) := by
  refine ⟨?_, ?_, ?_, isSameOrAncestor_iff_exists_way one below, ?_⟩ <;>
    simp only [isSameOrAncestor_iff]
  · exact List.prefix_refl _
  · exact List.IsPrefix.trans
  · intro around inside
    exact one.eq_of_components two (around.eq_of_length_le inside.length_le)
  · exact List.prefix_or_prefix_of_prefix

/-- From the root a path with repeated separators leads to the documentation, which the site
directory contains as well. -/
theorem docs_ordered :
    (⟨"/"⟩ : Path).Canonical ∧ (⟨"/site"⟩ : Path).Canonical ∧ (⟨"/site/docs"⟩ : Path).Canonical ∧
      normalize ⟨".//site/./docs/"⟩ ⟨"/"⟩ = ⟨"/site/docs"⟩ ∧
      isSameOrAncestor ⟨"/"⟩ ⟨"/site/docs"⟩ = true ∧
      (isSameOrAncestor ⟨"/"⟩ ⟨"/site"⟩ = true ∨ isSameOrAncestor ⟨"/site"⟩ ⟨"/"⟩ = true) := by
  have root : (⟨"/"⟩ : Path).Canonical := by decide +kernel
  have site : (⟨"/site"⟩ : Path).Canonical := by decide +kernel
  have docs : (⟨"/site/docs"⟩ : Path).Canonical := by decide +kernel
  have leads : normalize ⟨".//site/./docs/"⟩ ⟨"/"⟩ = ⟨"/site/docs"⟩ := by decide +kernel
  obtain ⟨_, _, _, contains, comparable⟩ := isSameOrAncestor_order root site docs
  have within : isSameOrAncestor ⟨"/"⟩ ⟨"/site/docs"⟩ = true :=
    contains.mpr ⟨⟨".//site/./docs/"⟩, by decide +kernel, by decide +kernel, leads⟩
  exact ⟨root, site, docs, leads, within, comparable within (by decide +kernel)⟩

example : isSameOrAncestor ⟨"/site"⟩ ⟨"/site-docs"⟩ = false := by decide +kernel

end Path

end SiteSettings
