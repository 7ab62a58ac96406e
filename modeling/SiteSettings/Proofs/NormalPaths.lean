import SiteSettings.FileSystem
import SiteSettings.Proofs.LexicalPaths

/-! Absolute paths in normal form. Normalising onto an absolute base always yields one,
and a path in that form is its own normal form from every base. -/

namespace SiteSettings

namespace Path

/-- Absolute, with one separator in front of every name and no other text. -/
def Canonical (path : Path) : Prop :=
  ∃ names : List String, (∀ name ∈ names, IsName name) ∧
    path.text = "/" ++ String.intercalate "/" names

theorem textOf_names (names : List String) :
    textOf true (detour 0 names) = "/" ++ String.intercalate "/" names := by
  simp [textOf, detour, Component.text, Function.comp_def]

theorem canonical_ofComponents {components : List Component} (reduced : Reduced true components) :
    (ofComponents components).Canonical := by
  obtain ⟨up, names, level, valid, rfl⟩ := reduced
  obtain rfl := level rfl
  exact ⟨names, valid, (ofComponents_start (isStep_of_mem_detour valid 0) true).trans
    (textOf_names names)⟩

theorem components_of_names {path : Path} {names : List String}
    (valid : ∀ name ∈ names, IsName name)
    (text : path.text = "/" ++ String.intercalate "/" names) :
    path.components = .root :: names.map Component.name :=
  components_textOf (isStep_of_mem_detour valid 0) (text.trans (textOf_names names).symm)

theorem canonical_normalize {base : Path} (absolute : base.isAbsolute = true) (path : Path) :
    (path.normalize base).Canonical := by
  have reduced := reduced_normalComponents (base.join path)
  rw [isAbsolute_join, absolute, Bool.or_true] at reduced
  rw [normalize_eq_walk]
  exact canonical_ofComponents reduced

/-- No `~` leads an absolute path. -/
theorem expandTilde_of_isAbsolute {path : Path} (absolute : path.isAbsolute = true) (home : Path) :
    expandTilde home path.text = path := by
  obtain ⟨rest, chars⟩ := List.head?_eq_some_iff.mp (by simpa [isAbsolute] using absolute)
  simp [expandTilde, chars]

namespace Canonical

variable {path : Path}

theorem isAbsolute (canonical : path.Canonical) : path.isAbsolute = true := by
  obtain ⟨names, _, text⟩ := canonical
  simp [Path.isAbsolute, text]

theorem reduced (canonical : path.Canonical) :
    ∃ components, Reduced true components ∧ path = ofComponents components := by
  obtain ⟨names, valid, text⟩ := canonical
  have written := ofComponents_start (isStep_of_mem_detour valid 0) true
  refine ⟨_, ⟨0, names, fun _ => rfl, valid, rfl⟩, congrArg Path.mk ?_⟩
  exact text.trans ((written.trans (textOf_names names)).symm)

/-- A normal form is its own normal form, wherever one starts from. -/
theorem normalize_eq (canonical : path.Canonical) (base : Path) : path.normalize base = path := by
  obtain ⟨components, reduced, rfl⟩ := canonical.reduced
  exact reduced.normalize_eq (.inl rfl)

theorem expandTilde_eq (canonical : path.Canonical) (home : Path) :
    expandTilde home path.text = path := expandTilde_of_isAbsolute canonical.isAbsolute home

theorem parent? {parent : Path} (canonical : path.Canonical) (found : path.parent? = some parent) :
    parent.Canonical := by
  obtain ⟨names, valid, text⟩ := canonical
  have shape := components_of_names valid text
  simp only [Path.parent?, shape] at found
  split at found
  · cases found
  · cases found
  next other differs last =>
    cases names with
    | nil => exact (differs (by simpa using last.symm)).elim
    | cons name rest =>
      have dropped : (Component.root :: (name :: rest).map Component.name).dropLast =
          .root :: ((name :: rest).dropLast).map Component.name := by
        simp [List.map_dropLast]
      rw [dropped] at found
      rw [← Option.some.inj found]
      exact canonical_ofComponents ⟨0, (name :: rest).dropLast, fun _ => rfl,
        fun name member => valid name (List.dropLast_subset _ member), rfl⟩

end Canonical

end Path

namespace Environment

variable {environment : Environment}

theorem canonical_absolute (rooted : environment.workingDirectory.isAbsolute = true)
    (path : Path) : (environment.absolute path).Canonical :=
  Path.canonical_normalize rooted path

theorem absolute_eq {path : Path} (canonical : path.Canonical) :
    environment.absolute path = path := canonical.normalize_eq _

theorem canonical_locate {base : Path} (absolute : base.isAbsolute = true) (text : String) :
    (environment.locate base text).Canonical :=
  Path.canonical_normalize absolute _

theorem locate_eq {path : Path} (canonical : path.Canonical) (base : Path) :
    environment.locate base path.text = path := by
  rw [locate, canonical.expandTilde_eq, canonical.normalize_eq]

end Environment

end SiteSettings
