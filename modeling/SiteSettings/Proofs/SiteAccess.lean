import SiteSettings.Proofs.Absorption
import SiteSettings.Proofs.Retention

/-! What the typed accessors of a site's settings answer about fields that failed or were not
given. They read slots and not the report, so what a document says wrongly is answered
wherever its shape is one that the accessor takes. -/

namespace SiteSettings

namespace Field

variable {field : Field} {environment : Environment} {base : Path} {slot : Option Setting}

/-- There is nothing to coerce, or what there is was rejected. -/
def Void (field : Field) (environment : Environment) (base : Path) (slot : Option Setting) : Prop :=
  (field.default = none ∧ Unset slot) ∨
    ∃ problem, (field.verdict environment base slot).problem = some problem

theorem Void.slot_eq (void : field.Void environment base slot) :
    (field.verdict environment base slot).slot = slot := by
  obtain ⟨plain, unset⟩ | ⟨problem, failed⟩ := void
  · have source : field.source? slot = none := by
      rw [source?, filter_eq_none_of_unset unset, plain]
      rfl
    rw [verdict_of_no_source source]
  · exact slot_of_problem failed

/-- What the rule accepts is not what a void field holds. -/
theorem Void.ne_accepted (void : field.Void environment base slot) {setting coerced : Setting}
    (present : setting.isNull = false)
    (accepted : (field.rule.coerce (field.context environment base) setting).result = .ok coerced) :
    slot ≠ some setting := by
  rintro rfl
  obtain ⟨_, unset⟩ | ⟨problem, failed⟩ := void
  · rw [unset setting rfl] at present
    cases present
  · have source : field.source? (some setting) = some setting := by simp [source?, present]
    rw [verdict_of_source source, Verdict.ofCoercion, accepted] at failed
    cases failed

/-- An output directory with a default holds a path, unless the document gives something that
is neither null nor a text. -/
theorem isSome_output_iff (output : field.rule.IsSiteDirectory) {default : String}
    (defaults : field.default = some (.text default)) (written : Option Value) :
    ((field.verdict environment base (written.map .data)).slot.bind Setting.text?).isSome = true ↔
      written = none ∨ written = some .null ∨ ∃ text, written = some (.text text) := by
  have located (text : String) (source : field.source? (written.map .data) = some (.data (.text text))) :
      ((field.verdict environment base (written.map .data)).slot.bind Setting.text?).isSome = true := by
    rw [slot_of_overwrites (.path output source)]
    rfl
  cases written with
  | none => exact iff_of_true (located default (by rw [source?, defaults]; rfl)) (.inl rfl)
  | some value =>
    cases value with
    | null =>
      exact iff_of_true (located default (by rw [source?, defaults]; rfl)) (.inr (.inl rfl))
    | text text => exact iff_of_true (located text rfl) (.inr (.inr ⟨text, rfl⟩))
    | boolean _ | number _ | list _ | object _ =>
      rw [slot_of_output output]
      · simp [Setting.text?, Setting.value?, Value.text?]
      · intro setting overwrites
        cases overwrites with
        | default _ null => cases null
        | path _ source => simp [source?, Setting.isNull] at source

end Field

namespace Config

/-- A field that neither moves nor is compared with another one is blamed for its own value. -/
theorem void_of_blames {config : Config} (distinct : config.schema.names.Nodup)
    (still : config.Still) {environment : Environment} {field : Field}
    (member : field ∈ config.schema.fields) (current : field.rule.Current)
    (lone : ¬ field.rule.IsSiteDirectory)
    (blamed : (config.validate environment).report.Blames field.name) :
    field.Void environment (config.baseDir environment) (config.get? field.name) := by
  rcases (blames_iff distinct still environment member).mp blamed with
    complains | rejected | clashes
  · obtain ⟨⟨notice, removed⟩, _⟩ := Field.removed_of_complaint complains
    rw [removed] at current
    exact current.elim
  · exact .inr (Option.ne_none_iff_exists'.mp rejected)
  · exact absurd (Pass.isSiteDirectory_of_crossProblem clashes) lone

theorem text?_eq_some_iff {config : Config} {key : String} {written : Option Value}
    (held : config.get? key = written.map .data) {text : String} :
    config.text? key = some text ↔ written = some (.text text) := by
  rw [Config.text?, held]
  cases written with
  | none => simp
  | some value => cases value <;> simp [Setting.text?, Setting.value?, Value.text?]

end Config

namespace Site

inductive Accessor where
  | name
  | nav
  | docsDir
  | siteDir
  | url
  | pathPrefix
  | theme
  | devAddress

namespace Accessor

def key : Accessor → String
  | .name => "site_name"
  | .nav => "nav"
  | .docsDir => "docs_dir"
  | .siteDir => "site_dir"
  | .url | .pathPrefix => "site_url"
  | .theme => "theme"
  | .devAddress => "dev_addr"

def answers (config : Config) : Accessor → Bool
  | .name => (name? config).isSome
  | .nav => (nav? config).isSome
  | .docsDir => (docsDir? config).isSome
  | .siteDir => (siteDir? config).isSome
  | .url => (url? config).isSome
  | .pathPrefix => (pathPrefix? config).isSome
  | .theme => (theme? config).isSome
  | .devAddress => (devAddress? config).isSome

/-- The document's value has the shape that the accessor takes, so it shows through although
the field failed. A missing output directory takes its default before it can fail. -/
def Shows (written : Option Value) : Accessor → Prop
  | .name | .theme | .devAddress => False
  | .nav => written ≠ none
  | .docsDir | .url => ∃ text, written = some (.text text)
  | .siteDir => written = none ∨ written = some .null ∨ ∃ text, written = some (.text text)
  | .pathPrefix => ∃ text url, written = some (.text text) ∧ Url.parse text = .ok url

end Accessor

variable {config : Config} {written : Option Value}

theorem isSome_name?_iff (held : config.get? "site_name" = written.map .data) :
    (name? config).isSome = true ↔ ∃ text, written = some (.text text) := by
  rw [Option.isSome_iff_exists]
  exact exists_congr fun text => Config.text?_eq_some_iff held

theorem isSome_nav?_iff (held : config.get? "nav" = written.map .data) :
    (nav? config).isSome = true ↔ written ≠ none := by
  rw [nav?, held]
  cases written <;> simp [Setting.value?]

theorem isSome_path?_iff {key : String} (held : config.get? key = written.map .data) :
    (config.path? key).isSome = true ↔ ∃ text, written = some (.text text) := by
  rw [Config.path?, Option.isSome_map, Option.isSome_iff_exists]
  exact exists_congr fun text => Config.text?_eq_some_iff held

theorem url?_eq_some_iff (held : config.get? "site_url" = written.map .data) {text : String} :
    url? config = some text ↔ written = some (.text text) ∧ text ≠ "" := by
  rw [url?, Option.filter_eq_some_iff, Config.text?_eq_some_iff held]
  simp

theorem isSome_pathPrefix?_iff (held : config.get? "site_url" = written.map .data) :
    (pathPrefix? config).isSome = true ↔
      ∃ text, (written = some (.text text) ∧ text ≠ "") ∧ ∃ url, Url.parse text = .ok url := by
  have read (text : String) : (∃ path, urlPath? text = some path) ↔ ∃ url, Url.parse text = .ok url := by
    unfold urlPath?
    cases Url.parse text <;> simp
  simp only [Option.isSome_iff_exists, pathPrefix?, Option.bind_eq_some_iff, url?_eq_some_iff held]
  rw [exists_comm]
  simp only [exists_and_left, read]

theorem theme?_eq_none (held : config.get? "theme" = written.map .data) : theme? config = none := by
  rw [theme?, Config.theme?, held]
  cases written <;> rfl

theorem isSome_devAddress?_iff (held : config.get? "dev_addr" = written.map .data) :
    (devAddress? config).isSome = true ↔
      ∃ text address, written = some (.text text) ∧
        SocketAddress.ofText? text = some address := by
  simp only [Option.isSome_iff_exists, devAddress?, Option.bind_eq_some_iff,
    Config.text?_eq_some_iff held]
  rw [exists_comm]

def Accessor.rule (registry : Registry) : Accessor → Rule
  | .name => .type .text none
  | .nav => .nav
  | .docsDir => .directory true
  | .siteDir => .siteDirectory "docs_dir"
  | .url | .pathPrefix => .url true
  | .theme => .themeOf registry
  | .devAddress => .socketAddress

theorem rule_of_key {registry : Registry} {accessor : Accessor} {field : Field}
    (member : field ∈ (schema registry).fields) (asked : field.name = accessor.key) :
    field.rule = accessor.rule registry := by
  revert field
  simp only [schema, Site.field, fieldOr, List.forall_mem_cons, Config.originKey]
  cases accessor <;> simp [Accessor.key, Accessor.rule]

theorem default_of_output {registry : Registry} {field : Field}
    (member : field ∈ (schema registry).fields) (asked : field.name = Accessor.siteDir.key) :
    field.default = some (.text "site") := by
  revert field
  simp [schema, Site.field, fieldOr, Config.originKey, Accessor.key]

/-- A slot that still holds what the document gave, although the rule accepts no such text,
is answered according to its shape. -/
theorem answers_iff_shows {registry : Registry} {accessor : Accessor} (other : accessor ≠ .siteDir)
    (held : config.get? accessor.key = written.map .data) {context : Context}
    (refuses : ∀ text coerced,
      ((accessor.rule registry).coerce context (.data (.text text))).result = .ok coerced →
        written ≠ some (.text text)) :
    accessor.answers config = true ↔ accessor.Shows written := by
  have nonempty {text : String} (url : accessor.rule registry = .url true)
      (same : written = some (.text text)) : text ≠ "" := by
    rintro rfl
    refine refuses "" (.data (.text "")) ?_ same
    rw [url]
    rfl
  cases accessor with
  | name =>
    refine (isSome_name?_iff held).trans (iff_of_false ?_ id)
    intro shown
    obtain ⟨text, same⟩ := shown
    exact refuses text _ (Rule.coerceType_text text) same
  | nav => exact isSome_nav?_iff held
  | docsDir => exact isSome_path?_iff held
  | siteDir => exact absurd rfl other
  | url =>
    rw [Accessor.answers, Option.isSome_iff_exists]
    refine exists_congr fun text => (url?_eq_some_iff held).trans ?_
    exact and_iff_left_of_imp (nonempty rfl)
  | pathPrefix =>
    refine (isSome_pathPrefix?_iff held).trans (exists_congr fun text => ?_)
    rw [and_iff_left_of_imp (nonempty rfl), exists_and_left]
  | theme =>
    rw [Accessor.answers, theme?_eq_none held]
    exact iff_of_false Bool.false_ne_true id
  | devAddress =>
    refine (isSome_devAddress?_iff held).trans (iff_of_false ?_ id)
    intro shown
    obtain ⟨text, address, same, read⟩ := shown
    refine refuses text (.data (.text address.toText)) ?_ same
    exact (Rule.coerce_socketAddress_eq_ok _).mpr
      ⟨address, Rule.parseAddress_eq_ok.mpr ⟨text, rfl, read⟩, rfl⟩

theorem void_of_failed {registry : Registry} {accessor : Accessor} (other : accessor ≠ .siteDir)
    {field : Field} (rule : field.rule = accessor.rule registry) (steady : config.schema.Steady)
    (member : field ∈ config.schema.fields) (given : config.get? field.name = written.map .data)
    {environment : Environment}
    (failed : (config.validate environment).report.Blames field.name ∨
      field.default = none ∧ (written = none ∨ written = some .null)) :
    field.Void environment (config.baseDir environment) (written.map .data) := by
  rcases failed with blamed | ⟨plain, missing⟩
  · rw [← given]
    refine Config.void_of_blames steady.declared.distinct steady.still member ?_ ?_ blamed
    · rw [rule]
      cases accessor <;> trivial
    · rw [rule]
      intro output
      obtain ⟨docsKey, same⟩ := output
      cases accessor <;> first | exact other rfl | cases same
  · refine .inl ⟨plain, ?_⟩
    rcases missing with rfl | rfl
    · exact unset_none
    · rintro _ ⟨⟩
      rfl

/-- What an accessor answers after one validation about a field that failed, or that has no
default and was not given: nothing, unless what the document says shows through. It always
does for the navigation, and never for the name, the theme and the address. -/
theorem answers_failed_iff (registry : Registry) (base : Option Path) (document : OrderedMap Value)
    (environment : Environment) (accessor : Accessor) {field : Field}
    (member : field ∈ (schema registry).fields) (asked : field.name = accessor.key) :
    let loaded := (Config.fresh (schema registry) base).loadMembers document
    let validation := loaded.validate environment
    let written := (OrderedMap.ofList document.entries).get? field.name
    validation.report.Blames field.name ∨
        field.default = none ∧ (written = none ∨ written = some .null) →
      (accessor.answers validation.config = true ↔ accessor.Shows written) := by
  intro loaded validation written failed
  have same : loaded.schema = schema registry := Config.loadMembers_schema _ document
  have steady : loaded.schema.Steady := same ▸ Site.steady registry
  have inside : field ∈ loaded.schema.fields := same ▸ member
  have given : loaded.get? field.name = written.map .data :=
    Config.get?_loaded (List.mem_map_of_mem member) base document
  have after : validation.config.get? field.name = _ :=
    Config.settled_slot steady environment inside
  have rule := rule_of_key member asked
  rw [given] at after
  by_cases other : accessor = .siteDir
  · subst other
    have shown : ((validation.config.get? field.name).bind Setting.text?).isSome = true ↔
        Accessor.siteDir.Shows written := by
      rw [after]
      exact Field.isSome_output_iff ⟨_, rule⟩ (default_of_output member asked) written
    rw [asked] at shown
    rw [Accessor.answers, siteDir?, Config.path?, Option.isSome_map]
    exact shown
  · have void := void_of_failed other rule steady inside given failed
    rw [void.slot_eq, asked] at after
    have refuses (text : String) (coerced : Setting)
        (accepted : ((accessor.rule registry).coerce
          (field.context environment (loaded.baseDir environment)) (.data (.text text))).result =
            .ok coerced) : written ≠ some (.text text) := by
      intro same
      rw [← rule] at accepted
      exact void.ne_accepted rfl accepted (congrArg (Option.map Setting.data) same)
    exact answers_iff_shows other after refuses

def mistaken : OrderedMap Value :=
  .ofList [("site_name", .text "a"), ("nav", .ofInt 3), ("site_url", .text "mailto:x")]

def mistakenSite : Config :=
  (Config.fresh (schema (InstalledThemes.standard ⟨"/themes"⟩ ⟨"/templates"⟩).toRegistry)
    none).loadMembers mistaken

theorem mistakenSite_steady : mistakenSite.schema.Steady := Site.steady _

theorem mistakenSite_blames {field : Field} (member : field ∈ mistakenSite.schema.fields)
    (rejected : (field.verdict .bare (mistakenSite.baseDir .bare)
      (mistakenSite.get? field.name)).problem ≠ none) :
    (mistakenSite.validate .bare).report.Blames field.name :=
  (Config.blames_iff mistakenSite_steady.declared.distinct mistakenSite_steady.still .bare
    member).mpr (.inr (.inl rejected))

/-- The URL cannot be the site's, and yet there is an answer for the path below its host. -/
theorem mistakenSite_pathPrefix :
    (mistakenSite.validate .bare).report.Blames "site_url" ∧
      Accessor.pathPrefix.answers (mistakenSite.validate .bare).config = true := by
  have member : Site.field "site_url" (.url true) ∈ mistakenSite.schema.fields := by
    show _ ∈ (schema _).fields
    simp [schema]
  have read : Url.parse "mailto:x" = .ok ⟨"mailto", none, "x", none, none⟩ := by decide +kernel
  have blamed := mistakenSite_blames member (by decide +kernel)
  have shown := answers_failed_iff _ none mistaken .bare .pathPrefix member rfl (.inl blamed)
  exact ⟨blamed, shown.mpr ⟨_, _, rfl, read⟩⟩

/-- The report blames the navigation, and the accessor answers with the number in its place. -/
theorem mistakenSite_nav :
    (mistakenSite.validate .bare).report.Blames "nav" ∧
      nav? (mistakenSite.validate .bare).config = some (.ofInt 3) := by
  have member : Site.field "nav" .nav ∈ mistakenSite.schema.fields := by
    show _ ∈ (schema _).fields
    simp [schema]
  have settled := Config.settled_slot mistakenSite_steady .bare member
  have kept : (mistakenSite.validate .bare).config.get? "nav" = some (.data (.ofInt 3)) :=
    settled.trans rfl
  refine ⟨mistakenSite_blames member (by decide +kernel), ?_⟩
  rw [nav?, kept]
  rfl

end Site

end SiteSettings
