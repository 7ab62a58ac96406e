import SiteSettings.Proofs.Composite
import SiteSettings.Proofs.Legacy
import SiteSettings.Proofs.Scalars

/-! What a caller may do with a configuration, in any order and any number of times.
A theme in a slot was resolved, whatever the caller did. -/

namespace SiteSettings

/-- Resolving is the only way to a theme. -/
def Theme.Resolved (theme : Theme) : Prop :=
  ∃ registry settings, Theme.resolve registry settings = .ok theme

def Setting.Within (given : Theme → Prop) (setting : Setting) : Prop :=
  ∀ theme, setting = .theme theme → given theme

theorem Setting.within_data {given : Theme → Prop} (value : Value) :
    Setting.Within given (.data value) := nofun

inductive Action where
  | load (document : Value)
  | set (key : String) (setting : Setting) (resolved : setting.Within Theme.Resolved)
  | validate (environment : Environment)

namespace Config

/-- A document that is no object changes nothing, and neither does a key that is not declared. -/
def act (config : Config) : Action → Config
  | .load document =>
    match config.load document with
    | .ok loaded => loaded
    | .error _ => config
  | .set key setting _ => (config.set? key setting).getD config
  | .validate environment => (config.validate environment).config

def run (config : Config) (actions : List Action) : Config := actions.foldl act config

def fresh (schema : Schema) (base : Option Path) : Config :=
  { new schema with baseDirectory := base }

theorem get?_loaded {schema : Schema} {key : String} (declared : key ∈ schema.names)
    (base : Option Path) (document : OrderedMap Value) :
    ((fresh schema base).loadMembers document).get? key =
      ((OrderedMap.ofList document.entries).get? key).map .data := by
  rw [get?_loadMembers, show (fresh schema base).schema = schema from rfl, if_pos declared]
  exact Option.or_none

def Reachable (schema : Schema) (config : Config) : Prop :=
  ∃ base actions, config = (fresh schema base).run actions

theorem run_induction (keeps : Config → Prop) {actions : List Action}
    (step : ∀ config, ∀ action ∈ actions, keeps config → keeps (config.act action))
    {config : Config} (start : keeps config) : keeps (config.run actions) := by
  induction actions generalizing config with
  | nil => exact start
  | cons action rest ih =>
    obtain ⟨here, later⟩ := List.forall_mem_cons.mp fun action member config =>
      step config action member
    exact ih (fun config action member => later action member config) (here config start)

theorem Reachable.induction (keeps : Config → Prop) {schema : Schema}
    (step : ∀ config action, keeps config → keeps (config.act action))
    (start : ∀ base, keeps (fresh schema base)) {config : Config}
    (reachable : Reachable schema config) : keeps config := by
  obtain ⟨base, actions, rfl⟩ := reachable
  exact run_induction keeps (fun config action _ => step config action) (start base)

theorem act_schema (config : Config) (action : Action) : (config.act action).schema = config.schema := by
  cases action with
  | load document =>
    cases document with
    | object members => exact loadMembers_schema config members
    | _ => rfl
  | set key setting resolved =>
    simp only [act, set?]
    split <;> rfl
  | validate environment => rfl

theorem run_schema (config : Config) (actions : List Action) :
    (config.run actions).schema = config.schema :=
  run_induction (fun other => other.schema = config.schema)
    (fun other action _ same => (other.act_schema action).trans same) rfl

theorem Reachable.schema_eq {schema : Schema} {config : Config} (reachable : Reachable schema config) :
    config.schema = schema := by
  obtain ⟨base, actions, rfl⟩ := reachable
  exact run_schema ..

/-- Some validation among the actions starts from a configuration as described. -/
def ValidatesWhere (config : Config) (actions : List Action)
    (described : Config → Environment → Prop) : Prop :=
  ∃ before environment after, actions = before ++ .validate environment :: after ∧
    described (config.run before) environment

theorem not_validatesWhere_nil {config : Config} {described : Config → Environment → Prop} :
    ¬ config.ValidatesWhere [] described := by
  intro validates
  obtain ⟨before, environment, after, split, _⟩ := validates
  simp at split

theorem validatesWhere_cons {config : Config} {action : Action} {actions : List Action}
    {described : Config → Environment → Prop} :
    config.ValidatesWhere (action :: actions) described ↔
      (∃ environment, action = .validate environment ∧ described config environment) ∨
        (config.act action).ValidatesWhere actions described := by
  constructor
  · intro validates
    obtain ⟨before, environment, after, split, holds⟩ := validates
    cases before with
    | nil =>
      obtain ⟨same, _⟩ := List.cons.inj split
      exact .inl ⟨environment, same, holds⟩
    | cons other before =>
      obtain ⟨rfl, tail⟩ := List.cons.inj split
      exact .inr ⟨before, environment, after, tail, holds⟩
  · intro either
    cases either with
    | inl now =>
      obtain ⟨environment, same, holds⟩ := now
      exact ⟨[], environment, actions, congrArg (· :: actions) same, holds⟩
    | inr later =>
      obtain ⟨before, environment, after, split, holds⟩ := later
      exact ⟨action :: before, environment, after, congrArg (action :: ·) split, holds⟩

def Within (given : Theme → Prop) (config : Config) : Prop :=
  ∀ key setting, config.slots.get? key = some setting → setting.Within given

section Within

variable {given : Theme → Prop} {config : Config} (within : config.Within given)

include within

theorem Within.insert (key : String) {setting : Setting} (new : setting.Within given) :
    Within given { config with slots := config.slots.insert key setting } := by
  intro other found held
  rw [OrderedMap.get?_insert] at held
  split at held
  · exact Option.some.inj held ▸ new
  · exact within other found held

theorem Within.loadEntry (key : String) (value : Value) :
    (config.loadEntry key value).Within given := by
  unfold Config.loadEntry
  split
  · exact within.insert key (Setting.within_data value)
  · exact within

theorem Within.loadMembers (members : OrderedMap Value) : (config.loadMembers members).Within given :=
  loadMembers_induction (Within given) (fun _ key value kept => kept.loadEntry key value)
    within members

theorem Within.prepared (environment : Environment) {key : String} {setting : Setting}
    (held : (config.prepared environment).slots.get? key = some setting) :
    setting.Within given := by
  obtain ⟨source, staged⟩ := Pass.prepareFields_source held
  exact within source setting staged

end Within

theorem nested_within (schema : Schema) (base : Path) (members : OrderedMap Value) :
    (nested schema base members).Within fun _ => False := by
  have start : ((new schema).withBase base).Within fun _ => False := by
    intro key setting held
    cases held
  exact start.loadMembers members

end Config

theorem Field.source_within {given : Theme → Prop} {field : Field} {slot : Option Setting}
    {setting : Setting} (within : ∀ held, slot = some held → held.Within given)
    (source : field.source? slot = some setting) : setting.Within given := by
  rw [source?, Option.or_eq_some_iff, Option.filter_eq_some_iff] at source
  obtain ⟨held, _⟩ | ⟨_, default⟩ := source
  · exact within setting held
  · obtain ⟨value, _, rfl⟩ := Option.map_eq_some_iff.mp default
    exact Setting.within_data value

/-- A rule keeps a value as it is or makes a new one, and that is never null. -/
theorem Rule.coerce_result (rule : Rule) {context : Context} {setting coerced : Setting}
    (done : (rule.coerce context setting).result = .ok coerced) :
    coerced = setting ∨ coerced.isNull = false ∧ coerced.Within Theme.Resolved := by
  induction rule using Rule.induct with
  | type kind length =>
    simp only [coerce, Coercion.of_result, coerceType_eq_ok] at done
    exact .inl done.1
  | choice choices =>
    simp only [coerce, Coercion.of_result, coerceChoice_eq_ok] at done
    exact .inl done.1
  | removed notice | retired notice =>
    simp only [coerce, Coercion.of_result, Except.ok.injEq] at done
    exact .inl done.symm
  | deprecated notice inner ih =>
    simp only [coerce] at done
    exact ih done
  | directory mustExist | siteDirectory docsKey =>
    simp only [coerce, Coercion.of_result, coerceDirectory_eq_ok] at done
    obtain ⟨text, _, rfl, _⟩ := done
    exact .inr ⟨rfl, Setting.within_data _⟩
  | file mustExist =>
    simp only [coerce, Coercion.of_result, coerceFile_eq_ok] at done
    obtain ⟨text, _, rfl, _⟩ := done
    exact .inr ⟨rfl, Setting.within_data _⟩
  | url directory =>
    simp only [coerce, Coercion.of_result, coerceUrl_eq_ok] at done
    obtain ⟨_, same⟩ | ⟨text, url, _, _, _, _, rfl⟩ := done
    · exact .inl same
    · exact .inr ⟨rfl, Setting.within_data _⟩
  | socketAddress =>
    obtain ⟨address, _, rfl⟩ := (coerce_socketAddress_eq_ok _).mp done
    exact .inr ⟨rfl, Setting.within_data _⟩
  | nav =>
    simp only [coerce, Coercion.of_result, coerceNav_eq_ok] at done
    exact .inl done.1
  | listOf item ih =>
    obtain ⟨_, values, _, _, rfl⟩ := (coerce_listOf_eq_ok _).mp done
    exact .inr ⟨rfl, Setting.within_data _⟩
  | mapping fields passthrough ih =>
    obtain ⟨_, _, _, rfl⟩ := (coerce_mapping_eq_ok _).mp done
    exact .inr ⟨rfl, Setting.within_data _⟩
  | theme registry settings =>
    obtain ⟨fields, passthrough⟩ := settings
    simp only [coerce] at done
    split at done
    · exact .inl (Except.ok.inj done).symm
    · obtain ⟨members, _, rest⟩ := Coercion.andThen_eq_ok.mp done
      obtain ⟨config, _, last⟩ := Coercion.andThen_eq_ok.mp rest
      obtain ⟨theme, resolved, rfl⟩ := Theme.coerce_eq_ok.mp last
      refine .inr ⟨rfl, ?_⟩
      rintro _ ⟨⟩
      exact ⟨registry, _, resolved⟩

theorem Rule.coerce_resolved (rule : Rule) {context : Context} {setting coerced : Setting}
    (resolved : setting.Within Theme.Resolved)
    (done : (rule.coerce context setting).result = .ok coerced) :
    coerced.Within Theme.Resolved := by
  obtain rfl | ⟨_, new⟩ := rule.coerce_result done
  · exact resolved
  · exact new

theorem Field.verdict_resolved {field : Field} {environment : Environment} {base : Path}
    {slot : Option Setting} (resolved : ∀ held, slot = some held → held.Within Theme.Resolved)
    {setting : Setting} (held : (field.verdict environment base slot).slot = some setting) :
    setting.Within Theme.Resolved := by
  cases source : field.source? slot with
  | none =>
    rw [verdict_of_no_source source] at held
    exact resolved setting held
  | some origin =>
    rw [verdict_of_source source] at held
    simp only [Verdict.ofCoercion] at held
    split at held
    next coerced done =>
      cases held
      exact Rule.coerce_resolved _ (source_within resolved source) done
    next => exact resolved setting held

namespace Config

section Resolved

variable {config : Config} (resolved : config.Within Theme.Resolved)

include resolved

theorem resolved_validate (environment : Environment) :
    (config.validate environment).config.Within Theme.Resolved := by
  have settled (fields : List Field) (pass : Pass)
      (kept : ∀ key setting, pass.slots.get? key = some setting → setting.Within Theme.Resolved) :
      ∀ key setting, (Field.coerceAll fields environment (config.baseDir environment)
        pass).slots.get? key = some setting → setting.Within Theme.Resolved := by
    induction fields generalizing pass with
    | nil => exact kept
    | cons field rest ih =>
      rw [Field.coerceAll]
      apply ih _
      intro key setting held
      rw [Field.coerce_get?] at held
      split at held
      · exact Field.verdict_resolved (kept key) held
      · exact kept key setting held
  rw [validate_config]
  exact settled _ _ fun key setting held => resolved.prepared environment held

theorem resolved_act (action : Action) : (config.act action).Within Theme.Resolved := by
  cases action with
  | load document =>
    cases document with
    | object members => exact resolved.loadMembers members
    | _ => exact resolved
  | set key setting new =>
    simp only [act, set?]
    split
    · exact resolved.insert key new
    · exact resolved
  | validate environment => exact resolved_validate resolved environment

end Resolved

/-- Every theme in a slot was resolved. -/
theorem Reachable.resolved {schema : Schema} {config : Config} (reachable : Reachable schema config) :
    config.Within Theme.Resolved :=
  reachable.induction (Within Theme.Resolved)
    (fun _ action resolved => resolved_act resolved action) fun _ _ _ held => nomatch held

end Config

end SiteSettings
