import SiteSettings.FileTree
import SiteSettings.Proofs.ThemeDiscovery

/-! What installed themes know. They are registered one after another, by hand or as they are
discovered, and what has been registered so far decides every look-up. -/

namespace SiteSettings

namespace FileSystem

variable {files : FileSystem} {directory : Path} {entry : String}

instance : Decidable (files.Carries directory entry) :=
  inferInstanceAs (Decidable (files.isFile _ = true))

def offer? (files : FileSystem) (directory : Path) (entry : String) : Option Manifest :=
  (Manifest.load files (directory.join ⟨entry⟩)).toOption.map Prod.fst

def leading {α : Type} (items : List (Option α)) : List α :=
  (items.takeWhile Option.isSome).reduceOption

/-- The manifests of those entries that carry a manifest file, up to the first entry that cannot be
read or whose manifest cannot be loaded. -/
def offered (files : FileSystem) (directory : Path) (entries : List (Except String String)) :
    List Manifest :=
  let carrying := (leading (entries.map Except.toOption)).filter (files.Carries directory)
  leading (carrying.map (files.offer? directory))

theorem leading_ok_cons (entry : String) (rest : List (Except String String)) :
    leading ((.ok entry :: rest).map Except.toOption) =
      entry :: leading (rest.map Except.toOption) := rfl

theorem offered_skip (bare : ¬ files.Carries directory entry) (rest : List (Except String String)) :
    files.offered directory (.ok entry :: rest) = files.offered directory rest := by
  rw [offered, leading_ok_cons, List.filter_cons_of_neg (by simpa using bare)]
  rfl

theorem offered_stop (carries : files.Carries directory entry)
    (failed : files.offer? directory entry = none) (rest : List (Except String String)) :
    files.offered directory (.ok entry :: rest) = [] := by
  rw [offered, leading_ok_cons, List.filter_cons_of_pos (by simpa using carries), List.map_cons, failed]
  rfl

theorem offered_take (carries : files.Carries directory entry) {manifest : Manifest}
    (offers : files.offer? directory entry = some manifest) (rest : List (Except String String)) :
    files.offered directory (.ok entry :: rest) = manifest :: files.offered directory rest := by
  rw [offered, leading_ok_cons, List.filter_cons_of_pos (by simpa using carries), List.map_cons, offers]
  rfl

end FileSystem

/-- What is done to installed themes. Each discovery may find other files. -/
inductive Installation where
  | register (manifest : Manifest)
  | discover (files : FileSystem) (directory : Path)

def Installation.manifests : Installation → List Manifest
  | .register manifest => [manifest]
  | .discover files directory => files.offered directory ((files.list? directory).getD [])

namespace InstalledThemes

variable {installed : InstalledThemes}

def apply (installed : InstalledThemes) : Installation → InstalledThemes
  | .register manifest => installed.register manifest
  | .discover files directory => (installed.discover files directory).themes

def run (installed : InstalledThemes) (steps : List Installation) : InstalledThemes :=
  steps.foldl apply installed

def registerAll (installed : InstalledThemes) (manifests : List Manifest) : InstalledThemes :=
  manifests.foldl register installed

/-- Whether or not it ends in an error, a discovery registers what is offered and nothing else. -/
theorem discoverEntries_themes (files : FileSystem) (directory : Path) (installed : InstalledThemes)
    (found : List String) (trace : List LogEntry) (entries : List (Except String String)) :
    (discoverEntries files directory installed found trace entries).themes =
      installed.registerAll (files.offered directory entries) := by
  induction entries generalizing installed found trace with
  | nil => rfl
  | cons listed rest ih =>
    cases listed with
    | error reason => rfl
    | ok entry =>
      rw [discoverEntries_ok_cons]
      split
      next carries =>
        split
        next error failed =>
          have nothing : files.offer? directory entry = none := by
            rw [FileSystem.offer?, failed]
            rfl
          rw [FileSystem.offered_stop carries nothing]
          rfl
        next manifest notes loaded =>
          have offers : files.offer? directory entry = some manifest := by
            rw [FileSystem.offer?, loaded]
            rfl
          rw [FileSystem.offered_take carries offers, ih]
          rfl
      next bare => rw [FileSystem.offered_skip bare, ih]

theorem apply_eq (installed : InstalledThemes) (step : Installation) :
    installed.apply step = installed.registerAll step.manifests := by
  cases step with
  | register manifest => rfl
  | discover files directory =>
    cases listed : files.list? directory with
    | none => simp only [apply, discover, Installation.manifests, listed]; rfl
    | some entries =>
      simp only [apply, discover, Installation.manifests, listed, Option.getD_some]
      exact discoverEntries_themes ..

theorem run_eq (installed : InstalledThemes) (steps : List Installation) :
    installed.run steps = installed.registerAll (steps.flatMap Installation.manifests) := by
  induction steps generalizing installed with
  | nil => rfl
  | cons step rest ih =>
    rw [List.flatMap_cons, registerAll, List.foldl_append]
    exact (ih _).trans (congrArg (registerAll · _) (apply_eq installed step))

structure LastNamed (history : List Manifest) (name : String) (manifest : Manifest) : Prop where
  named : manifest.name = name
  last : ∃ before after, history = before ++ manifest :: after ∧
    ∀ later ∈ after, later.name ≠ name

theorem lastNamed_append_singleton {history : List Manifest} {last manifest : Manifest}
    {name : String} :
    LastNamed (history ++ [last]) name manifest ↔
      if name = last.name then manifest = last else LastNamed history name manifest := by
  constructor
  · rintro ⟨named, before, after, split, others⟩
    rcases List.eq_nil_or_concat after with rfl | ⟨front, final, rfl⟩
    · obtain ⟨-, same⟩ := List.append_inj' split rfl
      obtain rfl := List.singleton_inj.mp same
      rw [if_pos named.symm]
    · rw [List.concat_eq_append] at split others
      rw [← List.cons_append, ← List.append_assoc] at split
      obtain ⟨rfl, same⟩ := List.append_inj' split rfl
      obtain rfl := List.singleton_inj.mp same
      rw [if_neg (Ne.symm (others last (by simp)))]
      exact ⟨named, before, front, rfl, fun later member =>
        others later (List.mem_append_left _ member)⟩
  · split
    next same =>
      rintro rfl
      exact ⟨same.symm, history, [], rfl, List.forall_mem_nil _⟩
    next apart =>
      rintro ⟨named, before, after, rfl, others⟩
      refine ⟨named, before, after ++ [last], by simp, fun later member => ?_⟩
      rcases List.mem_append.mp member with earlier | final
      · exact others later earlier
      · rw [List.mem_singleton.mp final]
        exact Ne.symm apart

/-- The installed themes are those of the manifests, of several with one name the last. -/
structure Reflects (installed : InstalledThemes) (history : List Manifest) (fallback : Fallback) :
    Prop where
  found : ∀ name manifest, installed.lookup name = .ok manifest ↔ LastNamed history name manifest
  missing : ∀ name error, installed.lookup name = .error error ↔
    error = .notFound name ∧ ∀ manifest ∈ history, manifest.name ≠ name
  increasing : installed.names.Pairwise (· < ·)
  listed : ∀ name, name ∈ installed.names ↔ ∃ manifest, installed.lookup name = .ok manifest
  fallback : installed.fallback = fallback

namespace Reflects

variable {history : List Manifest} {fallback : Fallback}

theorem empty (templates : Path) :
    (empty templates).Reflects [] ⟨templates, ["sitemap.xml"]⟩ where
  found name manifest := by
    constructor
    · intro found
      cases found
    · rintro ⟨_, before, after, split, _⟩
      simp at split
  missing name error := by
    rw [lookup_eq_error_iff]
    simp [InstalledThemes.empty]
  increasing := sortedNames_increasing _
  listed _ := mem_names_iff
  fallback := rfl

theorem register (reflects : installed.Reflects history fallback) (manifest : Manifest) :
    (installed.register manifest).Reflects (history ++ [manifest]) fallback where
  found name other := by
    rw [lookup_register, lastNamed_append_singleton]
    split
    next => simp [eq_comm]
    next => exact reflects.found name other
  missing name error := by
    rw [lookup_register]
    split
    next same => simp [same]
    next apart => simp [reflects.missing, or_imp, forall_and, Ne.symm apart]
  increasing := sortedNames_increasing _
  listed _ := mem_names_iff
  fallback := reflects.fallback

theorem registerAll (reflects : installed.Reflects history fallback) (manifests : List Manifest) :
    (installed.registerAll manifests).Reflects (history ++ manifests) fallback := by
  induction manifests generalizing installed history with
  | nil => rwa [List.append_nil]
  | cons manifest rest ih =>
    rw [List.append_cons]
    exact ih (reflects.register manifest)

theorem run (reflects : installed.Reflects history fallback) (steps : List Installation) :
    (installed.run steps).Reflects (history ++ steps.flatMap Installation.manifests) fallback := by
  rw [run_eq]
  exact reflects.registerAll _

end Reflects

theorem exists_bundled (root templates : Path) :
    ∃ mkdocs readthedocs : Manifest, mkdocs.name = "mkdocs" ∧ readthedocs.name = "readthedocs" ∧
      standard root templates = ((empty templates).register mkdocs).register readthedocs := by
  refine ⟨_, _, ?_, ?_, rfl⟩ <;> rfl

/-- Whatever is registered or discovered, with or without an error, a name looks up to the last
manifest that was registered under it, the bundled ones being the first. The names are known from
the look-ups, and the fallback stays the one that the themes began with. -/
theorem run_reflects_history (root templates : Path) :
    ∃ mkdocs readthedocs : Manifest, mkdocs.name = "mkdocs" ∧ readthedocs.name = "readthedocs" ∧
      ∀ steps : List Installation,
        let history := steps.flatMap Installation.manifests
        let fallback : Fallback := ⟨templates, ["sitemap.xml"]⟩
        ((empty templates).run steps).Reflects history fallback ∧
          ((standard root templates).run steps).Reflects (mkdocs :: readthedocs :: history)
            fallback := by
  obtain ⟨mkdocs, readthedocs, first, second, bundled⟩ := exists_bundled root templates
  have start := Reflects.empty templates
  refine ⟨mkdocs, readthedocs, first, second, fun steps => ⟨start.run steps, ?_⟩⟩
  rw [bundled]
  exact ((start.register mkdocs).register readthedocs).run steps

/-- A theme is registered before its neighbour turns out to be broken, and what is listed behind
that one is not. -/
example :
    let theme (manifest : String) : FileTree :=
      .directory (.ofList [(manifestFile, .file manifest.toUTF8)])
    let drafts : FileTree := .directory (.ofList [
      ("assets", .directory .empty), ("slate", theme "extends = \"mkdocs\"\n"),
      ("torn", theme "extends = 3\n"), ("chalk", theme "")])
    let discovery := Installation.discover (drafts.toFileSystem ⟨"/"⟩) ⟨"/"⟩
    discovery.manifests.map (fun manifest => (manifest.name, manifest.parent)) =
      [("slate", some "mkdocs")] := by
  decide +kernel

end InstalledThemes

end SiteSettings
