import SiteSettings.Proofs.Admission

/-! When an output directory clashes with an input directory. The two paths are compared component
by component, as they read from the root on, however the user spelt them. -/

namespace SiteSettings

namespace Environment

/-- The components of a path as a user wrote it, from the root on: `~` is expanded, and a relative
path starts at `base`. -/
def trail (environment : Environment) (base : Path) (text : String) : List Path.Component :=
  Path.normalComponents (base.join (Path.expandTilde environment.home text)).components

/-- The other text is the text itself, or what a directory rule makes of it. -/
def Respells (environment : Environment) (base : Path) (text other : String) : Prop :=
  other = text ∨ ∃ mustExist key default,
    ((Rule.directory mustExist).coerce ⟨environment, base, key, default⟩
      (.data (.text text))).result = .ok (.data (.text other))

variable {environment : Environment} {base : Path}

theorem isSameOrAncestor_locate_iff {first second : String} :
    Path.isSameOrAncestor (environment.locate base first) (environment.locate base second) = true ↔
      environment.trail base first <+: environment.trail base second :=
  Path.isSameOrAncestor_normalize_iff

/-- Both spellings name the same path. -/
theorem Respells.locate_eq (canonical : base.Canonical) {text other : String}
    (respells : environment.Respells base text other) :
    environment.locate base other = environment.locate base text := by
  rcases respells with rfl | ⟨mustExist, key, default, done⟩
  · rfl
  · simp only [Rule.coerce, Coercion.of_result, Rule.coerceDirectory_eq_ok] at done
    obtain ⟨_, read, same, _⟩ := done
    rw [← Value.text.inj (Setting.data.inj read)] at same
    rw [Value.text.inj (Setting.data.inj same)]
    exact Environment.locate_eq (canonical_locate canonical.isAbsolute text) base

end Environment

def Problem.Says (problem : Problem) (phrase : String) : Prop :=
  ∃ before after, problem.message = before ++ phrase ++ after

theorem Problem.sourcesOverwritten_says (clash : Clash) :
    (sourcesOverwritten clash).Says "overwritten by the output" := by
  let start :=
    s!"The '{clash.docs}' should not be within the '{clash.site}' as this can mean the source "
  have message : (sourcesOverwritten clash).message = start ++ _ ++ clash.paths := rfl
  have cut : "files are overwritten by the output or it will be deleted if --clean is passed. " =
      "files are " ++ "overwritten by the output" ++
        " or it will be deleted if --clean is passed. " := rfl
  refine ⟨start ++ "files are ",
    " or it will be deleted if --clean is passed. " ++ clash.paths, ?_⟩
  rw [message, cut]
  simp only [String.append_assoc, -String.reduceAppend]

theorem Problem.copiedIntoItself_says (clash : Clash) :
    (copiedIntoItself clash).Says "copied into itself" := by
  let start :=
    s!"The '{clash.site}' should not be within the '{clash.docs}' as this leads to the build "
  have message : (copiedIntoItself clash).message =
      start ++ ("directory being copied into itself and duplicate nested files in the '" ++
        clash.site ++ "'. ") ++ clash.paths := rfl
  have cut : "directory being copied into itself and duplicate nested files in the '" =
      "directory being " ++ "copied into itself" ++ " and duplicate nested files in the '" := rfl
  refine ⟨start ++ "directory being ",
    " and duplicate nested files in the '" ++ clash.site ++ "'. " ++ clash.paths, ?_⟩
  rw [message, cut]
  simp only [String.append_assoc, -String.reduceAppend]

namespace Rule

variable {environment : Environment} {base : Path} {key docsKey site docs : String}

/-- Between an output and an input directory: which of them is inside the other is told from
their trails alone. -/
theorem clash?_eq :
    clash? environment base key docsKey site docs =
      let clash : Clash :=
        ⟨key, environment.locate base site, docsKey, environment.locate base docs⟩
      if environment.trail base site <+: environment.trail base docs then
        some (.sourcesOverwritten clash)
      else if environment.trail base docs <+: environment.trail base site then
        some (.copiedIntoItself clash)
      else none := by
  simp only [clash?, Environment.isSameOrAncestor_locate_iff]

theorem isSome_clash?_iff :
    (clash? environment base key docsKey site docs).isSome = true ↔
      environment.trail base site <+: environment.trail base docs ∨
        environment.trail base docs <+: environment.trail base site := by
  rw [clash?_eq]
  dsimp only
  split
  next around => simp [around]
  next apart => split <;> simp [*]

theorem clash?_respelt (canonical : base.Canonical) {site' docs' : String}
    (output : environment.Respells base site site') (input : environment.Respells base docs docs') :
    clash? environment base key docsKey site' docs' =
      clash? environment base key docsKey site docs := by
  simp only [clash?, output.locate_eq canonical, input.locate_eq canonical]

theorem crossCheck_siteDirectory {slots : OrderedMap Setting}
    (output : textAt? slots key = some site) (input : textAt? slots docsKey = some docs) :
    crossCheck environment base key slots (.siteDirectory docsKey) =
      clash? environment base key docsKey site docs := by
  simp only [crossCheck, output, input]

/-- An output directory is rejected exactly if it is, contains or lies in the input directory,
with the message for the case at hand. It does not matter in which of the two fields either
path stands, nor whether they were coerced before. -/
theorem siteDirectory_containment (canonical : base.Canonical) {slots : OrderedMap Setting}
    (output : textAt? slots key = some site) (input : textAt? slots docsKey = some docs) :
    let check := fun slots => crossCheck environment base key slots (.siteDirectory docsKey)
    let siteTrail := environment.trail base site
    let docsTrail := environment.trail base docs
    let clash : Clash :=
      ⟨key, environment.locate base site, docsKey, environment.locate base docs⟩
    ((check slots).isSome = true ↔ siteTrail <+: docsTrail ∨ docsTrail <+: siteTrail) ∧
      (siteTrail <+: docsTrail → check slots = some (.sourcesOverwritten clash) ∧
        (Problem.sourcesOverwritten clash).Says "overwritten by the output") ∧
      (docsTrail <+: siteTrail → docsTrail ≠ siteTrail →
        check slots = some (.copiedIntoItself clash) ∧
          (Problem.copiedIntoItself clash).Says "copied into itself") ∧
      (∀ swapped, textAt? swapped key = some docs → textAt? swapped docsKey = some site →
        (check swapped).isSome = (check slots).isSome) ∧
      ∀ respelt site' docs', textAt? respelt key = some site' →
        textAt? respelt docsKey = some docs' → environment.Respells base site site' →
          environment.Respells base docs docs' → check respelt = check slots := by
  dsimp only
  rw [crossCheck_siteDirectory output input]
  refine ⟨isSome_clash?_iff, fun around => ?_, fun inside apart => ?_, ?_, ?_⟩
  · exact ⟨clash?_eq.trans (if_pos around), Problem.sourcesOverwritten_says _⟩
  · -- two paths around each other would be the same one
    have not_around : ¬ environment.trail base site <+: environment.trail base docs :=
      fun around => apart (inside.eq_of_length_le around.length_le)
    exact ⟨clash?_eq.trans ((if_neg not_around).trans (if_pos inside)),
      Problem.copiedIntoItself_says _⟩
  · intro swapped output' input'
    rw [crossCheck_siteDirectory output' input', Bool.eq_iff_iff, isSome_clash?_iff,
      isSome_clash?_iff]
    exact or_comm
  · intro respelt site' docs' output' input' outputSame inputSame
    rw [crossCheck_siteDirectory output' input', clash?_respelt canonical outputSame inputSame]

def spelt : OrderedMap Setting :=
  .ofList [("site_dir", .data (.text "~/../srv//out/")), ("docs_dir", .data (.text "./out/docs/."))]

theorem spelt_overwrites :
    (⟨"/srv"⟩ : Path).Canonical ∧ textAt? spelt "site_dir" = some "~/../srv//out/" ∧
      textAt? spelt "docs_dir" = some "./out/docs/." ∧
      crossCheck .bare ⟨"/srv"⟩ "site_dir" spelt (.siteDirectory "docs_dir") =
        some (.sourcesOverwritten ⟨"site_dir", ⟨"/srv/out"⟩, "docs_dir", ⟨"/srv/out/docs"⟩⟩) := by
  have canonical : (⟨"/srv"⟩ : Path).Canonical := by
    refine ⟨["srv"], ?_, rfl⟩
    simp only [List.forall_mem_singleton]
    exact ⟨by decide, by decide, by decide, by decide⟩
  have site : Environment.bare.locate ⟨"/srv"⟩ "~/../srv//out/" = ⟨"/srv/out"⟩ := by
    decide +kernel
  have docs : Environment.bare.locate ⟨"/srv"⟩ "./out/docs/." = ⟨"/srv/out/docs"⟩ := by
    decide +kernel
  have contained := @siteDirectory_containment .bare ⟨"/srv"⟩ "site_dir" "docs_dir" _ _ canonical
    spelt rfl rfl
  obtain ⟨overwrites, _⟩ := contained.2.1 (by decide +kernel)
  rw [site, docs] at overwrites
  exact ⟨canonical, rfl, rfl, overwrites⟩

end Rule

end SiteSettings
