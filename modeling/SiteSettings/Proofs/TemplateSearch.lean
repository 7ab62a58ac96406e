import Mathlib.Data.Set.Finite.Basic
import SiteSettings.FileTree
import SiteSettings.Proofs.NormalPaths
import SiteSettings.Theme

/-! Where a template is found. The search takes the first directory in which the template's path
leads to a file. Only a path that never climbs above its start stays inside that directory. -/

namespace SiteSettings

namespace Path

/-- From so many names below its start, a walk along the components stays there. -/
def StaysBelow : Nat → List Component → Prop
  | _, [] => True
  | depth, .name _ :: rest => StaysBelow (depth + 1) rest
  | depth, .current :: rest => StaysBelow depth rest
  | depth + 1, .parent :: rest => StaysBelow depth rest
  | 0, .parent :: _ => False
  | _, .root :: _ => False

/-- A relative path whose steps up only take back names of its own. -/
def Descends (path : Path) : Prop := StaysBelow 0 path.steps

/-- The path leads to the directory or to something below it, whatever is there. -/
def Within (path directory base : Path) : Prop :=
  isSameOrAncestor (directory.normalize base) (path.normalize base) = true

theorem within_iff {path directory base : Path} :
    path.Within directory base ↔
      normalComponents (base.join directory).steps <+: normalComponents (base.join path).steps := by
  rw [Within, isSameOrAncestor_normalize_iff, normalComponents_steps, normalComponents_steps]

/-- What lies below the start of such a walk stays below. -/
theorem foldl_normalizeStep_below {rest : List Component} (own : List String)
    (kept : List Component) (stays : StaysBelow own.length rest) :
    ∃ more : List String, rest.foldl normalizeStep (own.map Component.name ++ kept) =
      more.map Component.name ++ kept := by
  induction rest generalizing own with
  | nil => exact ⟨own, rfl⟩
  | cons component rest ih =>
    rw [List.foldl_cons]
    cases component with
    | name text =>
      rw [normalizeStep_name]
      exact ih (text :: own) stays
    | current =>
      rw [normalizeStep_current]
      exact ih own (by simpa [StaysBelow] using stays)
    | parent =>
      cases own with
      | nil => exact stays.elim
      | cons last own => exact ih own stays
    | root => cases own <;> exact stays.elim

theorem prefix_of_staysBelow {rest : List Component} (stays : StaysBelow 0 rest)
    (before : List Component) : normalComponents before <+: normalComponents (before ++ rest) := by
  obtain ⟨more, walked⟩ :=
    foldl_normalizeStep_below [] (before.foldl normalizeStep []) stays
  rw [normalComponents, normalComponents, List.foldl_append]
  rw [List.map_nil, List.nil_append] at walked
  rw [walked, List.reverse_append]
  exact List.prefix_append ..

theorem Descends.relative {path : Path} (descends : path.Descends) : path.isAbsolute = false := by
  rw [Descends, steps_eq] at descends
  cases absolute : path.isAbsolute with
  | false => rfl
  | true =>
    rw [absolute] at descends
    exact descends.elim

/-- A path that descends from a directory stays inside it. -/
theorem Descends.within {path : Path} (descends : path.Descends) (directory base : Path) :
    (directory.join path).Within directory base := by
  have relative := descends.relative
  rw [within_iff, steps_join base (directory.join path), isAbsolute_join, relative, Bool.false_or,
    steps_join base directory, steps_join directory path, relative, if_neg Bool.false_ne_true]
  cases directory.isAbsolute with
  | true => exact prefix_of_staysBelow descends _
  | false =>
    simp only [Bool.false_eq_true, if_false]
    rw [← List.append_assoc]
    exact prefix_of_staysBelow descends _

/-- A walk does not come to a name that it is not told. -/
theorem not_mem_foldl_normalizeStep {text : String} {rest kept : List Component}
    (absent : .name text ∉ kept) (untold : .name text ∉ rest) :
    .name text ∉ rest.foldl normalizeStep kept := by
  induction rest generalizing kept with
  | nil => exact absent
  | cons component rest ih =>
    obtain ⟨other, untold⟩ := not_or.mp (mt List.mem_cons.mpr untold)
    refine ih (fun member => ?_) untold
    unfold normalizeStep at member
    split at member <;> simp_all

theorem exists_untold (components : List Component) :
    ∃ text, IsName text ∧ .name text ∉ components := by
  -- a name as long as none of them
  obtain ⟨size, unlike⟩ := Infinite.exists_notMem_finset
    (0 :: components.map fun component => component.text.length).toFinset
  rw [List.mem_toFinset] at unlike
  have only (c : Char) (other : c ≠ 'x') : c ∉ (String.ofList (List.replicate size 'x')).toList := by
    simp [other]
  refine ⟨String.ofList (List.replicate size 'x'), ⟨?_, ?_, ?_, only '/' (by decide)⟩, ?_⟩
  · intro empty
    have none : size = 0 := by simpa using congrArg String.length empty
    exact List.ne_of_not_mem_cons unlike none
  · intro dot
    exact only '.' (by decide) (by rw [dot]; decide)
  · intro dots
    exact only '.' (by decide) (by rw [dots]; decide)
  · intro member
    apply List.not_mem_of_not_mem_cons unlike
    exact List.mem_map.mpr ⟨_, member, by simp [Component.text]⟩

/-- A walk that climbs above its start has left behind whatever name it started from. -/
theorem not_mem_of_not_staysBelow {text : String} {rest : List Component} (own : List String)
    (fresh : text ∉ own) (untold : .name text ∉ rest) (rootless : .root ∉ rest)
    (climbs : ¬ StaysBelow own.length rest) :
    .name text ∉ rest.foldl normalizeStep (own.map .name ++ [.name text, .root]) := by
  induction rest generalizing own with
  | nil => exact absurd trivial climbs
  | cons component rest ih =>
    have later := List.not_mem_of_not_mem_cons untold
    have inside := List.not_mem_of_not_mem_cons rootless
    rw [List.foldl_cons]
    cases component with
    | name next =>
      rw [normalizeStep_name]
      have other : text ≠ next := fun same => List.ne_of_not_mem_cons untold (congrArg _ same)
      exact ih (next :: own) (List.not_mem_cons_of_ne_of_not_mem other fresh) later inside climbs
    | current =>
      rw [normalizeStep_current]
      exact ih own fresh later inside (by simpa [StaysBelow] using climbs)
    | parent =>
      cases own with
      | nil => exact not_mem_foldl_normalizeStep (by simp [normalizeStep]) later
      | cons last own =>
        exact ih own (List.not_mem_of_not_mem_cons fresh) later inside climbs
    | root => exact absurd List.mem_cons_self rootless

theorem exists_named {text : String} (valid : IsName text) :
    ∃ directory : Path, directory.isAbsolute = true ∧
      directory.steps = [.root, .name text] := by
  have read : (⟨"/" ++ String.intercalate "/" [text]⟩ : Path).components =
      .root :: [text].map Component.name :=
    components_of_names (List.forall_mem_singleton.mpr valid) rfl
  refine ⟨_, ?_, by rw [steps, read]; rfl⟩
  simp [isAbsolute]

theorem steps_join_absolute {path : Path} (absolute : path.isAbsolute = true) (base : Path) :
    (base.join path).steps = path.steps := by
  rw [steps_join, if_pos absolute]

theorem root_not_mem_steps {path : Path} (relative : path.isAbsolute = false) :
    .root ∉ path.steps := by
  rw [steps_eq, relative]
  intro member
  cases isStep_of_mem_pieces path _ member

/-- A path that does not descend leads out of some directory. -/
theorem exists_not_within {path : Path} (climbs : ¬ path.Descends) (base : Path) :
    ∃ directory : Path, directory.isAbsolute = true ∧ ¬ (directory.join path).Within directory base := by
  obtain ⟨text, valid, untold⟩ := exists_untold path.steps
  obtain ⟨directory, absolute, named⟩ := exists_named valid
  have joined : (directory.join path).isAbsolute = true := by
    rw [isAbsolute_join, absolute, Bool.or_true]
  refine ⟨directory, absolute, fun within => ?_⟩
  rw [within_iff, steps_join_absolute absolute, steps_join_absolute joined, steps_join,
    named] at within
  have reached := within.subset (show .name text ∈ normalComponents [.root, .name text] by
    simp [normalComponents, normalizeStep])
  rw [normalComponents, List.mem_reverse] at reached
  cases rooted : path.isAbsolute with
  | true =>
    rw [rooted, if_pos rfl] at reached
    exact not_mem_foldl_normalizeStep List.not_mem_nil untold reached
  | false =>
    rw [rooted, if_neg Bool.false_ne_true, List.foldl_append] at reached
    exact not_mem_of_not_staysBelow [] List.not_mem_nil untold (root_not_mem_steps rooted) climbs
      reached

end Path

namespace Theme

structure Contains (isFile : Path → Bool) (base directory : Path) (template : String) : Prop where
  file : isFile (directory.join ⟨template⟩) = true
  inside : (directory.join ⟨template⟩).Within directory base

/-- The path is where the template would be in the directory, which is the first one that has it. -/
structure FirstHit (isFile : Path → Bool) (theme : Theme) (template : String) (directory path : Path) :
    Prop where
  located : path = directory.join ⟨template⟩
  file : isFile path = true
  first : ∃ before after, theme.directories = before ++ directory :: after ∧
    ∀ earlier ∈ before, isFile (earlier.join ⟨template⟩) = false

variable {isFile : Path → Bool} {theme : Theme} {template : String}

theorem findTemplate?_eq_some_iff {path : Path} :
    findTemplate? isFile theme template = some path ↔
      ∃ directory, FirstHit isFile theme template directory path := by
  rw [findTemplate?, List.find?_map, Option.map_eq_some_iff]
  refine exists_congr fun directory => ?_
  simp only [List.find?_eq_some_iff_append, Function.comp_apply, Bool.not_eq_true']
  constructor
  · rintro ⟨⟨file, split⟩, rfl⟩
    exact ⟨rfl, file, split⟩
  · rintro ⟨rfl, file, split⟩
    exact ⟨⟨file, split⟩, rfl⟩

theorem findTemplate?_eq_none_iff :
    findTemplate? isFile theme template = none ↔
      ∀ directory ∈ theme.directories, isFile (directory.join ⟨template⟩) = false := by
  simp [findTemplate?]

/-- What the search finds, and where. For exactly those templates that descend, whatever it finds
in any theme and any file system is inside a directory of the search path. -/
theorem findTemplate?_exact (isFile : Path → Bool) (theme : Theme) (template : String) :
    (∀ path, findTemplate? isFile theme template = some path ↔
      ∃ directory, FirstHit isFile theme template directory path) ∧
    (findTemplate? isFile theme template = none ↔
      ∀ directory ∈ theme.directories, isFile (directory.join ⟨template⟩) = false) ∧
    (Path.Descends ⟨template⟩ → ∀ base,
      (∀ path, findTemplate? isFile theme template = some path →
        ∃ before directory after, theme.directories = before ++ directory :: after ∧
          path = directory.join ⟨template⟩ ∧ Contains isFile base directory template ∧
          ∀ earlier ∈ before, ¬ Contains isFile base earlier template) ∧
      (findTemplate? isFile theme template = none ↔
        ∀ directory ∈ theme.directories, ¬ Contains isFile base directory template)) ∧
    ((∀ (isFile : Path → Bool) (theme : Theme) (base path : Path),
        findTemplate? isFile theme template = some path →
        ∃ directory ∈ theme.directories, path.Within directory base) ↔
      Path.Descends ⟨template⟩) := by
  refine ⟨fun _ => findTemplate?_eq_some_iff, findTemplate?_eq_none_iff, ?_, ?_⟩
  · intro descends base
    have contains_iff (directory : Path) : Contains isFile base directory template ↔
        isFile (directory.join ⟨template⟩) = true :=
      ⟨Contains.file, fun file => ⟨file, descends.within directory base⟩⟩
    simp only [contains_iff, Bool.not_eq_true]
    refine ⟨fun path found => ?_, findTemplate?_eq_none_iff⟩
    obtain ⟨directory, located, file, before, after, split, first⟩ :=
      findTemplate?_eq_some_iff.mp found
    exact ⟨before, directory, after, split, located, located ▸ file, first⟩
  · constructor
    · intro inside
      by_contra climbs
      obtain ⟨directory, _, outside⟩ := Path.exists_not_within climbs ⟨"/"⟩
      let lone : Theme := ⟨none, none, [directory], [], .empty, .english⟩
      have found : findTemplate? (fun _ => true) lone template = some (directory.join ⟨template⟩) :=
        rfl
      obtain ⟨only, member, within⟩ := inside _ lone ⟨"/"⟩ _ found
      rw [List.mem_singleton.mp member] at within
      exact outside within
    · intro descends isFile theme base path found
      obtain ⟨directory, rfl, _, before, after, split, _⟩ := findTemplate?_eq_some_iff.mp found
      exact ⟨directory, by simp [split], descends.within directory base⟩

end Theme

def FileTree.published : FileTree :=
  .directory (.ofList [("srv", .directory (.ofList [
    ("templates", .directory .empty), ("secret.html", .file ByteArray.empty)]))])

/-- A template can lead out of every directory of the search path, by way of the directory above or
from the root on. -/
theorem Theme.secret_found :
    let files := FileTree.published.toFileSystem ⟨"/srv"⟩
    let registry := (InstalledThemes.empty ⟨"/srv/templates"⟩).toRegistry
    ∃ theme, resolve registry ⟨none, none, [], none, .empty⟩ = .ok theme ∧
      findTemplate? files.isFile theme "../secret.html" = some ⟨"/srv/templates/../secret.html"⟩ ∧
      findTemplate? files.isFile theme "/srv/secret.html" = some ⟨"/srv/secret.html"⟩ ∧
      ∀ directory ∈ theme.directories,
        ¬ Path.Within ⟨"/srv/templates/../secret.html"⟩ directory ⟨"/"⟩ ∧
        ¬ Path.Within ⟨"/srv/secret.html"⟩ directory ⟨"/"⟩ := by
  intro files registry
  refine ⟨_, rfl, ?_, ?_, ?_⟩
  · decide +kernel
  · decide +kernel
  · unfold Path.Within
    decide +kernel

end SiteSettings
