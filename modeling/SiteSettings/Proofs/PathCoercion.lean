import SiteSettings.Proofs.Admission

/-! Coercing paths. Whatever a configuration says about where its relative paths start, a coerced
path is absolute and in normal form, and from then on the base directory does not matter any more. -/

namespace SiteSettings

namespace Rule

inductive OfPaths : Rule → Prop where
  | directory (mustExist : Bool) : OfPaths (.directory mustExist)
  | file (mustExist : Bool) : OfPaths (.file mustExist)
  | siteDirectory (docsKey : String) : OfPaths (.siteDirectory docsKey)
  | listOf {item : Rule} (each : item.OfPaths) : OfPaths (.listOf item)

/-- What such a rule makes of a value: one absolute path in normal form, which is there if it has
to be, or a list of them. -/
inductive Locates (files : FileSystem) : Rule → Value → Prop where
  | directory {mustExist : Bool} {path : Path} (canonical : path.Canonical)
      (present : mustExist = true → files.isDirectory path = true) :
      Locates files (.directory mustExist) (.text path.text)
  | file {mustExist : Bool} {path : Path} (canonical : path.Canonical)
      (present : mustExist = true → files.isFile path = true) :
      Locates files (.file mustExist) (.text path.text)
  | siteDirectory {docsKey : String} {path : Path} (canonical : path.Canonical) :
      Locates files (.siteDirectory docsKey) (.text path.text)
  | listOf {item : Rule} {values : List Value} (each : ∀ value ∈ values, Locates files item value) :
      Locates files (.listOf item) (.list values)

theorem OfPaths.locates {rule : Rule} (paths : rule.OfPaths) {context : Context}
    (absolute : context.base.isAbsolute = true) {setting coerced : Setting}
    (done : (rule.coerce context setting).result = .ok coerced) :
    ∃ value, coerced = .data value ∧ rule.Locates context.environment.files value := by
  have canonical (text : String) : (context.environment.locate context.base text).Canonical :=
    Environment.canonical_locate absolute text
  induction paths generalizing setting coerced with
  | directory mustExist =>
    simp only [coerce, Coercion.of_result, coerceDirectory_eq_ok] at done
    obtain ⟨text, _, rfl, present⟩ := done
    exact ⟨_, rfl, .directory (canonical text) present⟩
  | file mustExist =>
    simp only [coerce, Coercion.of_result, coerceFile_eq_ok] at done
    obtain ⟨text, _, rfl, present⟩ := done
    exact ⟨_, rfl, .file (canonical text) present⟩
  | siteDirectory docsKey =>
    simp only [coerce, Coercion.of_result, coerceDirectory_eq_ok] at done
    obtain ⟨text, _, rfl, _⟩ := done
    exact ⟨_, rfl, .siteDirectory (canonical text)⟩
  | listOf _ ih =>
    obtain ⟨items, values, rfl, each, rfl⟩ := (coerce_listOf_eq_ok _).mp done
    refine ⟨_, rfl, .listOf fun value member => ?_⟩
    obtain ⟨item, _, coerced, alone, rfl⟩ := Coercion.exists_item_of_lowered each member
    obtain ⟨value, rfl, located⟩ := ih alone
    exact located

/-- A coerced path stays what it is, from whichever base it is coerced again. -/
theorem Locates.coerce_eq {context : Context} {rule : Rule} {value : Value}
    (located : rule.Locates context.environment.files value) :
    (rule.coerce context (.data value)).result = .ok (.data value) := by
  have settled {path : Path} (canonical : path.Canonical) :
      context.environment.locate context.base path.text = path :=
    Environment.locate_eq canonical context.base
  induction located with
  | directory canonical present =>
    simp only [coerce, Coercion.of_result, coerceDirectory_eq_ok]
    exact ⟨_, rfl, by rw [settled canonical], by rwa [settled canonical]⟩
  | file canonical present =>
    simp only [coerce, Coercion.of_result, coerceFile_eq_ok]
    exact ⟨_, rfl, by rw [settled canonical], by rwa [settled canonical]⟩
  | siteDirectory canonical =>
    simp only [coerce, Coercion.of_result, coerceDirectory_eq_ok]
    exact ⟨_, rfl, by rw [settled canonical], by simp⟩
  | listOf _ ih =>
    rw [coerce_listOf_eq_ok]
    exact ⟨_, _, rfl, List.forall₂_same.mpr fun value member =>
      ⟨_, ih value member, rfl⟩, rfl⟩

end Rule

/-- The base directory of a configuration is absolute and in normal form, and so is every path
that is coerced against it: coercing that again with the same files gives it back, whichever base,
home and working directory there are then. -/
theorem Config.coerced_paths_settle (config : Config) {environment : Environment}
    (rooted : environment.Rooted) :
    (config.baseDir environment).Canonical ∧
      ∀ rule : Rule, rule.OfPaths → ∀ key default setting coerced,
        (rule.coerce ⟨environment, config.baseDir environment, key, default⟩ setting).result =
          .ok coerced →
        ∃ value, coerced = .data value ∧ rule.Locates environment.files value ∧
          ∀ again : Context, again.environment.files = environment.files →
            (rule.coerce again coerced).result = .ok coerced := by
  have canonical := config.canonical_baseDir rooted
  refine ⟨canonical, fun rule paths key default setting coerced done => ?_⟩
  obtain ⟨value, rfl, located⟩ := paths.locates canonical.isAbsolute done
  refine ⟨value, rfl, located, fun again same => ?_⟩
  rw [← same] at located
  exact located.coerce_eq

def Config.signed : Config :=
  (fresh ⟨[⟨"sources", .listOf (.directory true), none, false⟩], true⟩ none).loadMembers
    (.ofList [(originKey, .text "~/../srv/./site.toml")])

theorem Config.signed_sources_settle :
    Environment.bare.Rooted ∧ signed.baseDir .bare = ⟨"/srv"⟩ ∧
      (⟨"/srv"⟩ : Path).Canonical ∧
      ∀ again : Context, again.environment.files = Environment.bare.files →
        ((Rule.listOf (.directory true)).coerce again
          (.data (.list [.text "/srv/docs", .text "/api"]))).result =
            .ok (.data (.list [.text "/srv/docs", .text "/api"])) := by
  have base : signed.baseDir .bare = ⟨"/srv"⟩ := by decide +kernel
  obtain ⟨canonical, settle⟩ := signed.coerced_paths_settle Environment.bare_rooted
  obtain ⟨_, _, _, again⟩ := settle _ (.listOf (.directory true)) "sources" none
    (.data (.list [.text "docs//", .text "../api/."]))
    (.data (.list [.text "/srv/docs", .text "/api"])) (by rw [base]; rfl)
  exact ⟨Environment.bare_rooted, base, base ▸ canonical, again⟩

end SiteSettings
