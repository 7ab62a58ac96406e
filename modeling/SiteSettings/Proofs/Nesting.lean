import SiteSettings.Proofs.ThemeRequests

/-! Mappings inside configurations. A mapping is coerced by validating it as a configuration of its
own, from the same base directory. So at every depth a value is what its own rule makes of what was
staged there, and every relative path starts from the outermost base directory. -/

namespace SiteSettings

inductive Value.Step where
  | item (index : Nat)
  | member (key : String)

def Value.at? : Value → List Value.Step → Option Value
  | value, [] => some value
  | .list items, .item index :: way => items[index]?.bind (Value.at? · way)
  | .object members, .member key :: way => (members.get? key).bind (Value.at? · way)
  | _, _ :: _ => none

/-- A setting that is to be coerced by a rule in a context. -/
structure Task where
  rule : Rule
  context : Context
  setting : Setting

namespace Task

def coerce (task : Task) : Coercion Setting := task.rule.coerce task.context task.setting

/-- To coerce a list or a mapping is to coerce what is in it. A task comes to another one at the end
of a way into the value: an item, or what a field of a mapping is coerced from. -/
inductive Reaches (inner : Task) : Task → List Value.Step → Prop where
  | here : Reaches inner inner []
  | inside {notice : Notice} {rule : Rule} {context : Context} {setting : Setting}
      {way : List Value.Step} (later : Reaches inner ⟨rule, context, setting⟩ way) :
      Reaches inner ⟨.deprecated notice (some rule), context, setting⟩ way
  | item {rule : Rule} {context : Context} {items : List Value} {index : Nat} {value : Value}
      {way : List Value.Step} (listed : items[index]? = some value)
      (later : Reaches inner ⟨rule, context, .data value⟩ way) :
      Reaches inner ⟨.listOf rule, context, .data (.list items)⟩ (.item index :: way)
  | member {schema : Schema} {context : Context} {members : OrderedMap Value} {field : Field}
      {setting : Setting} {way : List Value.Step} (declared : field ∈ schema.fields)
      (source : field.source? (((Config.nested schema context.base members).prepared
        context.environment).slots.get? field.name) = some setting)
      (later : Reaches inner
        ⟨field.rule, field.context context.environment context.base, setting⟩ way) :
      Reaches inner ⟨.mapping schema, context, .data (.object members)⟩ (.member field.name :: way)

theorem Reaches.surroundings {inner outer : Task} {way : List Value.Step}
    (reaches : inner.Reaches outer way) :
    inner.context.environment = outer.context.environment ∧
      inner.context.base = outer.context.base := by
  induction reaches with
  | here => exact ⟨rfl, rfl⟩
  | inside later ih | item listed later ih | member declared source later ih => exact ih

end Task

/-- Inside a coerced value stands what coercion makes of each task on the way. -/
theorem Task.coerce_reached {inner outer : Task} {way : List Value.Step}
    (reaches : inner.Reaches outer way) (declared : outer.rule.Everywhere Schema.Accepted)
    (canonical : outer.context.base.Canonical) {coerced : Setting}
    (done : outer.coerce.result = .ok coerced) :
    ∃ result, inner.coerce.result = .ok result ∧
      coerced.toValue.at? way = some result.toValue := by
  induction reaches generalizing coerced with
  | here => exact ⟨coerced, done, rfl⟩
  | inside later ih =>
    simp only [coerce, Rule.coerce] at done
    exact ih declared canonical done
  | item listed later ih =>
    obtain ⟨items, values, ⟨⟩, each, rfl⟩ := (Rule.coerce_listOf_eq_ok _).mp done
    obtain ⟨_, placed, setting, here, rfl⟩ := Coercion.lowers_at each listed
    obtain ⟨result, final, found⟩ := ih declared canonical here
    refine ⟨result, final, ?_⟩
    simp only [Setting.toValue, Value.at?, placed, Option.bind_some]
    exact found
  | @member schema context members field setting way member source later ih =>
    obtain ⟨_, ⟨⟩, faultless, rfl⟩ := (Rule.coerce_mapping_eq_ok _).mp done
    have accepted : schema.Declared := Schema.everywhere_mapping_iff.mp declared
    have same := Config.nested_schema schema context.base members
    have tidy := Config.nested_tidy schema context.base members
    have start := (Config.nested_baseDir schema context.base members context.environment).trans
      (Environment.absolute_eq canonical)
    generalize Config.nested schema context.base members = config at *
    have distinct : config.schema.names.Nodup := same ▸ accepted.distinct
    have listed : field ∈ config.schema.fields := same ▸ member
    have settled := ((Config.validate_faultless_iff distinct _).mp faultless).settled field listed
    rw [Config.verdict, start] at settled
    obtain ⟨value, here, slot⟩ := Field.coerced_of_source source settled
    obtain ⟨result, final, found⟩ := ih (accepted.rule member) canonical here
    refine ⟨result, final, ?_⟩
    -- the mapping that comes out is written from the slots, each under the name of its field
    have names : (config.validate context.environment).config.schema.names.Nodup := distinct
    have written : (config.validate context.environment).config.toMembers.get? field.name =
        some value.toValue := by
      rw [Config.get?_toMembers names (tidy.validate context.environment)
        (List.mem_map_of_mem listed), Config.validate_slot distinct listed, Config.verdict, start, slot]
      rfl
    simp only [Setting.toValue, Value.at?, written, Option.bind_some]
    exact found

/-- A coercion tells what a validation came to: the values if there was no error, else all errors
in one with the first hint, and the warnings in any case. -/
structure Validation.Mirrored (validation : Validation) (coercion : Coercion Setting) : Prop where
  accepted : ∀ coerced, coercion.result = .ok coerced ↔
    validation.report.errors = [] ∧ coerced = .data (.object validation.config.toMembers)
  rejected : ∀ problem, coercion.result = .error problem →
    problem.message = String.intercalate "; "
        (validation.report.errors.map fun error => s!"Sub-option '{error.field}': {error.message}") ∧
      problem.hint? = validation.report.errors.findSome? Diagnostic.hint
  warnings : coercion.warnings = validation.report.warnings.map
    fun warning => s!"Sub-option '{warning.field}': {warning.message}"

inductive Task.Names : Task → String → Prop where
  | directory (mustExist : Bool) (context : Context) (text : String) :
      Names ⟨.directory mustExist, context, .data (.text text)⟩ text
  | file (mustExist : Bool) (context : Context) (text : String) :
      Names ⟨.file mustExist, context, .data (.text text)⟩ text
  | siteDirectory (docsKey : String) (context : Context) (text : String) :
      Names ⟨.siteDirectory docsKey, context, .data (.text text)⟩ text
  | theme {given : OrderedMap Value} {text : String} (registry : Registry) (context : Context)
      (distinct : given.keys.Nodup) (held : given.get? "custom_dir" = some (.text text)) :
      Names ⟨.themeOf registry, context, .data (.object given)⟩ text

/-- The path is kept as a text, or as the directory of a theme. -/
def Setting.Shows (path : Path) : Setting → Prop
  | .data value => value = .text path.text
  | .theme resolved => resolved.customDirectory = some path

theorem Task.located_of_names {task : Task} {text : String} (names : task.Names text)
    (canonical : task.context.base.Canonical) {coerced : Setting}
    (done : task.coerce.result = .ok coerced) :
    coerced.Shows (task.context.environment.locate task.context.base text) := by
  cases names with
  | directory mustExist context text | siteDirectory docsKey context text =>
    obtain ⟨_, ⟨⟩, rfl, _⟩ := Rule.coerceDirectory_eq_ok.mp done
    exact rfl
  | file mustExist context text =>
    obtain ⟨_, ⟨⟩, rfl, _⟩ := Rule.coerceFile_eq_ok.mp done
    exact rfl
  | theme registry context distinct held =>
    obtain ⟨_, theme, normal, faultless, resolved, rfl⟩ := (Rule.coerce_theme_eq_ok _).mp done
    have carries := ThemeSettings.carries_given normal distinct faultless
    obtain ⟨_, _, _, _, shape⟩ := Theme.shape_of_resolve resolved
    obtain ⟨_, ⟨⟩, _, custom⟩ := carries.directory _ held rfl
    rw [Environment.absolute_eq canonical] at custom
    exact (congrArg Theme.customDirectory shape).trans custom

theorem Rule.coerce_mapping_mirrored (schema : Schema) (context : Context)
    (members : OrderedMap Value) :
    (((Config.fresh schema (some context.base)).loadMembers members).validate
      context.environment).Mirrored
      ((Rule.mapping schema).coerce context (.data (.object members))) := by
  rw [coerce_mapping, show (Config.fresh schema (some context.base)).loadMembers members =
    Config.nested schema context.base members from rfl]
  generalize (Config.nested schema context.base members).validate context.environment = validation
  unfold Validation.toCoercion Report.hasErrors
  cases errors : validation.report.errors with
  | nil =>
    refine ⟨fun coerced => ?_, fun problem failed => ?_, ?_⟩
    · simp [Coercion.andThen, errors, eq_comm]
    · simp [Coercion.andThen] at failed
    · simp [Coercion.andThen, Problem.nestedMessage]
  | cons first rest =>
    refine ⟨fun coerced => ?_, fun problem failed => ?_, ?_⟩
    · simp [Coercion.andThen, errors]
    · have same : problem = .nested validation.report.errors := by
        simpa [Coercion.andThen, errors, eq_comm] using failed
      rw [same]
      exact ⟨rfl, rfl⟩
    · simp [Coercion.andThen, Problem.nestedMessage]

/-- A mapping is coerced as a configuration of its own is validated from the same base directory,
whatever it says of its origin. Inside it, too, every rule is applied from that directory, and each
path is kept as it was found from there. -/
theorem Rule.coerce_mapping_faithful {schema : Schema} (declared : schema.Declared) {base : Path}
    (canonical : base.Canonical) (members : OrderedMap Value) (environment : Environment)
    (key : String) (default : Option Value) :
    let top := (Config.fresh schema (some base)).loadMembers members
    let task : Task := ⟨.mapping schema, ⟨environment, base, key, default⟩, .data (.object members)⟩
    (top.validate environment).Mirrored task.coerce ∧ top.baseDir environment = base ∧
      ∀ (inner : Task) (way : List Value.Step), inner.Reaches task way →
        inner.context.environment = environment ∧ inner.context.base = base ∧
          ∀ coerced, task.coerce.result = .ok coerced →
            ∃ result, inner.coerce.result = .ok result ∧
              coerced.toValue.at? way = some result.toValue ∧
              ∀ text, inner.Names text → result.Shows (environment.locate base text) := by
  intro top task
  refine ⟨coerce_mapping_mirrored schema task.context members,
    (Config.nested_baseDir schema base members environment).trans
      (Environment.absolute_eq canonical), ?_⟩
  intro inner way reaches
  obtain ⟨world, start⟩ := reaches.surroundings
  refine ⟨world, start, fun coerced done => ?_⟩
  obtain ⟨result, final, found⟩ := Task.coerce_reached reaches
    (Schema.everywhere_mapping_iff.mpr declared) canonical done
  refine ⟨result, final, found, fun text names => ?_⟩
  have located := Task.located_of_names names (start ▸ canonical) final
  rwa [world, start] at located

def Field.index : Field := ⟨"index", .file false, none, true⟩

def Schema.searching : Schema := ⟨[⟨Config.originKey, .type .text none, none, false⟩, .index], false⟩

def Field.search : Field := ⟨"search", .mapping .searching, none, false⟩

def Field.sources : Field :=
  ⟨"sources", .listOf (.directory true), some (.list [.text "docs", .text "../notes"]), false⟩

def Schema.indexing : Schema := ⟨[.search, .sources], false⟩

theorem Schema.indexing_declared : indexing.Declared := by
  refine ⟨⟨_, rfl⟩, ?_⟩
  simp only [indexing, Field.search, searching, Field.index, Field.sources, List.forall_mem_cons,
    Rule.Everywhere, Field.AllEverywhere, Field.Everywhere]
  exact ⟨⟨⟨_, rfl⟩, trivial, trivial, trivial⟩, trivial, List.forall_mem_nil _⟩

def OrderedMap.elsewhere : OrderedMap Value :=
  .ofList [("config_file_path", .text "/else/site.toml"), ("index", .text "cache/./index")]

/-- The sources are left to their default, and another key is misspelt. -/
def Task.indexing : Task where
  rule := .mapping .indexing
  context := ⟨.bare, ⟨"/srv/site"⟩, "extra", none⟩
  setting := .data (.object (.ofList [("search", .object .elsewhere), ("serach", .null)]))

theorem Task.indexing_reaches :
    Reaches ⟨.file false, ⟨.bare, ⟨"/srv/site"⟩, "index", none⟩, .data (.text "cache/./index")⟩
        indexing [.member "search", .member "index"] ∧
      Reaches ⟨.directory true, Field.sources.context .bare ⟨"/srv/site"⟩, .data (.text "../notes")⟩
        indexing [.member "sources", .item 1] := by
  have search : Field.search ∈ Schema.indexing.fields := by simp [Schema.indexing]
  have sources : Field.sources ∈ Schema.indexing.fields := by simp [Schema.indexing]
  have index : Field.index ∈ Schema.searching.fields := by simp [Schema.searching]
  have to_index : Reaches ⟨Field.index.rule, Field.index.context .bare ⟨"/srv/site"⟩,
        .data (.text "cache/./index")⟩
      ⟨.mapping .searching, Field.search.context .bare ⟨"/srv/site"⟩, .data (.object .elsewhere)⟩
      [.member Field.index.name] := .member index rfl .here
  have to_source : Reaches ⟨.directory true, Field.sources.context .bare ⟨"/srv/site"⟩,
        .data (.text "../notes")⟩
      ⟨.listOf (.directory true), Field.sources.context .bare ⟨"/srv/site"⟩,
        .data (.list [.text "docs", .text "../notes"])⟩ [.item 1] := .item rfl .here
  exact ⟨.member search rfl to_index, .member sources rfl to_source⟩

theorem Rule.indexing_faithful :
    Schema.indexing.Declared ∧ Path.Canonical ⟨"/srv/site"⟩ ∧
      Task.indexing.coerce.warnings =
        ["Sub-option 'serach': Unrecognised configuration name: serach"] ∧
      ∃ coerced, Task.indexing.coerce.result = .ok coerced ∧
        coerced.toValue.at? [.member "search", .member "index"] =
          some (.text "/srv/site/cache/index") ∧
        coerced.toValue.at? [.member "sources", .item 1] = some (.text "/srv/notes") := by
  have canonical : Path.Canonical ⟨"/srv/site"⟩ := by
    refine ⟨["srv", "site"], ?_, rfl⟩
    simp only [List.forall_mem_cons]
    exact ⟨⟨by decide, by decide, by decide, by decide⟩,
      ⟨by decide, by decide, by decide, by decide⟩, List.forall_mem_nil _⟩
  obtain ⟨mirrored, _, depth⟩ :=
    coerce_mapping_faithful Schema.indexing_declared canonical _ .bare "extra" none
  have done : Task.indexing.coerce.result = .ok _ :=
    (mirrored.accepted _).mpr ⟨by decide +kernel, rfl⟩
  obtain ⟨to_index, to_source⟩ := Task.indexing_reaches
  obtain ⟨_, _, index⟩ := depth _ _ to_index
  obtain ⟨_, _, source⟩ := depth _ _ to_source
  obtain ⟨_, index_done, index_placed, index_shown⟩ := index _ done
  obtain ⟨_, source_done, source_placed, source_shown⟩ := source _ done
  obtain ⟨_, _, rfl, _⟩ := coerceFile_eq_ok.mp index_done
  obtain ⟨_, _, rfl, _⟩ := coerceDirectory_eq_ok.mp source_done
  have index_text := index_shown _ (.file ..)
  have source_text := source_shown _ (.directory ..)
  refine ⟨Schema.indexing_declared, canonical, mirrored.warnings.trans (by decide +kernel), _, done,
    (index_placed.trans (congrArg some index_text)).trans ?_,
    (source_placed.trans (congrArg some source_text)).trans ?_⟩
  · exact congrArg (fun text => some (Value.text text)) (by decide +kernel)
  · exact congrArg (fun text => some (Value.text text)) (by decide +kernel)

end SiteSettings
