import SiteSettings.Proofs.AddressText
import SiteSettings.Proofs.NormalPaths
import SiteSettings.Proofs.Runs

/-! Soundness of validation. What a rule admits is said here without looking at how it
coerces; after a validation without errors every declared field holds a value that its
rule admits. -/

namespace SiteSettings

/-- The working directory of a process is an absolute path. -/
def Environment.Rooted (environment : Environment) : Prop :=
  environment.workingDirectory.isAbsolute = true

mutual

/-- The values that may stand in a field of the rule once it is validated. A theme was
resolved against the rule's registry, unless it was given to the field as a theme. -/
def Rule.Admits (environment : Environment) (given : Theme → Prop) (rule : Rule)
    (setting : Setting) : Prop :=
  match rule with
  | .type kind length => ∃ value, setting = .data value ∧ Rule.Fits kind length value
  | .choice choices => ∃ text ∈ choices, setting = .data (.text text)
  | .removed _ | .deprecated _ none => True
  | .deprecated _ (some inner) => inner.Admits environment given setting
  | .directory mustExist =>
    ∃ path : Path, setting = .data (.text path.text) ∧ path.Canonical ∧
      (mustExist = true → environment.files.isDirectory path = true)
  | .file mustExist =>
    ∃ path : Path, setting = .data (.text path.text) ∧ path.Canonical ∧
      (mustExist = true → environment.files.isFile path = true)
  | .siteDirectory _ => ∃ path : Path, setting = .data (.text path.text) ∧ path.Canonical
  | .url directory =>
    setting = .data (.text "") ∨
      ∃ text url, Url.parse text = .ok url ∧ url.host?.isSome = true ∧
        setting = .data (.text (Rule.urlText directory url))
  | .socketAddress => ∃ address : SocketAddress, setting = .data (.text address.toText)
  | .nav => ∃ value, setting = .data value ∧ Nav.Tree value
  | .listOf item =>
    ∃ items, setting = .data (.list items) ∧
      ∀ value ∈ items, ∃ inner, value = inner.toValue ∧ item.Admits environment (fun _ => False) inner
  | .mapping ⟨fields, passthrough⟩ =>
    ∃ config : Config, config.schema = ⟨fields, passthrough⟩ ∧ config.Tidy ∧
      setting = .data (.object config.toMembers) ∧
        Field.AllHold environment (fun _ => False) fields config
  | .theme registry _ =>
    ∃ theme, setting = .theme theme ∧
      (given theme ∨
        ∃ settings : ThemeSettings, settings.Apart ∧ Theme.resolve registry settings = .ok theme)
termination_by structural rule

def Field.AllHold (environment : Environment) (given : Theme → Prop) (fields : List Field)
    (config : Config) : Prop :=
  match fields with
  | [] => True
  | field :: rest =>
    field.Holds environment given (config.get? field.name) ∧
      Field.AllHold environment given rest config
termination_by structural fields

/-- An optional field without a default may stay unset; any other one holds an admitted
value, and null only if that is its default. -/
def Field.Holds (environment : Environment) (given : Theme → Prop) (field : Field)
    (slot : Option Setting) : Prop :=
  match field with
  | ⟨_, rule, default, required⟩ =>
    (Unset slot ∧ required = false ∧ default = none) ∨
      ∃ setting, slot = some setting ∧ rule.Admits environment given setting ∧
        (setting.isNull = true → default = some .null)
termination_by structural field

end

namespace Field

variable {environment : Environment} {given : Theme → Prop}

theorem holds_iff {field : Field} {slot : Option Setting} :
    field.Holds environment given slot ↔
      (Unset slot ∧ field.required = false ∧ field.default = none) ∨
        ∃ setting, slot = some setting ∧ field.rule.Admits environment given setting ∧
          (setting.isNull = true → field.default = some .null) := by
  obtain ⟨name, rule, default, required⟩ := field
  simp only [Holds]

theorem allHold_iff {fields : List Field} {config : Config} :
    AllHold environment given fields config ↔
      ∀ field ∈ fields, field.Holds environment given (config.get? field.name) := by
  induction fields with
  | nil => simp [AllHold]
  | cons field rest ih => simp only [AllHold, ih, List.forall_mem_cons]

theorem default_of_null_source {field : Field} {slot : Option Setting} {setting : Setting}
    (source : field.source? slot = some setting) (null : setting.isNull = true) :
    field.default = some .null := by
  rw [source?, Option.or_eq_some_iff, Option.filter_eq_some_iff] at source
  obtain ⟨_, present⟩ | ⟨_, default⟩ := source
  · simp [null] at present
  · obtain ⟨value, found, rfl⟩ := Option.map_eq_some_iff.mp default
    cases value with
    | null => exact found
    | _ => cases null

theorem unset_of_no_source {field : Field} {slot : Option Setting}
    (source : field.source? slot = none) : Unset slot ∧ field.default = none := by
  rw [source?, Option.or_eq_none_iff, Option.map_eq_none_iff] at source
  exact ⟨unset_of_filter_eq_none source.1, source.2⟩

theorem holds_of_verdict {field : Field} {base : Path} {slot : Option Setting}
    (within : ∀ setting, slot = some setting → setting.Within given)
    (admits : ∀ setting coerced, setting.Within given →
      (field.rule.coerce (field.context environment base) setting).result = .ok coerced →
      field.rule.Admits environment given coerced)
    (settled : (field.verdict environment base slot).problem = none) :
    field.Holds environment given (field.verdict environment base slot).slot := by
  rw [holds_iff]
  cases source : field.source? slot with
  | none =>
    rw [verdict_of_no_source source] at settled ⊢
    obtain ⟨unset, default⟩ := unset_of_no_source source
    refine .inl ⟨unset, ?_, default⟩
    cases required : field.required with
    | false => rfl
    | true => simp [required] at settled
  | some setting =>
    rw [verdict_of_source source] at settled ⊢
    simp only [Verdict.ofCoercion] at settled ⊢
    split at settled
    next coerced done =>
      refine .inr ⟨coerced, rfl, admits setting coerced (source_within within source) done, ?_⟩
      intro null
      obtain rfl | ⟨fresh, _⟩ := field.rule.coerce_result done
      · exact default_of_null_source source null
      · rw [fresh] at null
        cases null
    next => cases settled

end Field

/-- A configuration without errors holds in every field what the rules make sure of. -/
theorem Config.holds_of_faultless {config : Config} {environment : Environment}
    {given : Theme → Prop} (distinct : config.schema.names.Nodup) (within : config.Within given)
    (admits : ∀ field ∈ config.schema.fields, ∀ setting coerced, setting.Within given →
      (field.rule.coerce (field.context environment (config.baseDir environment))
        setting).result = .ok coerced →
      field.rule.Admits environment given coerced)
    (faultless : (config.validate environment).report.errors = []) :
    ∀ field ∈ config.schema.fields,
      field.Holds environment given ((config.validate environment).config.get? field.name) := by
  intro field member
  rw [validate_slot distinct member]
  have settled := ((validate_faultless_iff distinct environment).mp faultless).settled field member
  exact Field.holds_of_verdict (fun _ held => within.prepared environment held)
    (admits field member) settled

/-- Whatever a rule lets through, it admits. -/
theorem Rule.admits_of_coerce {environment : Environment} (rooted : environment.Rooted)
    (rule : Rule) (declared : rule.Everywhere Schema.Accepted) {base : Path}
    (absolute : base.isAbsolute = true) {key : String} {default : Option Value}
    {given : Theme → Prop} {setting coerced : Setting} (within : setting.Within given)
    (done : (rule.coerce ⟨environment, base, key, default⟩ setting).result = .ok coerced) :
    rule.Admits environment given coerced := by
  induction rule using Rule.induct generalizing base key default given setting coerced with
  | type kind length =>
    simp only [coerce, Coercion.of_result, coerceType_eq_ok] at done
    obtain ⟨rfl, fits⟩ := done
    exact fits
  | choice choices =>
    simp only [coerce, Coercion.of_result, coerceChoice_eq_ok] at done
    obtain ⟨rfl, member⟩ := done
    exact member
  | removed notice | retired notice => trivial
  | deprecated notice inner ih =>
    simp only [coerce] at done
    exact ih declared absolute within done
  | directory mustExist =>
    simp only [coerce, Coercion.of_result, coerceDirectory_eq_ok] at done
    obtain ⟨text, _, rfl, present⟩ := done
    exact ⟨_, rfl, Environment.canonical_locate absolute text, present⟩
  | file mustExist =>
    simp only [coerce, Coercion.of_result, coerceFile_eq_ok] at done
    obtain ⟨text, _, rfl, present⟩ := done
    exact ⟨_, rfl, Environment.canonical_locate absolute text, present⟩
  | siteDirectory docsKey =>
    simp only [coerce, Coercion.of_result, coerceDirectory_eq_ok] at done
    obtain ⟨text, _, rfl, _⟩ := done
    exact ⟨_, rfl, Environment.canonical_locate absolute text⟩
  | url directory =>
    simp only [coerce, Coercion.of_result, coerceUrl_eq_ok] at done
    obtain ⟨rfl, rfl⟩ | ⟨text, url, _, _, parsed, host, rfl⟩ := done
    · exact .inl rfl
    · exact .inr ⟨text, url, parsed, host, rfl⟩
  | socketAddress =>
    obtain ⟨address, _, rfl⟩ := (coerce_socketAddress_eq_ok _).mp done
    exact ⟨address, rfl⟩
  | nav =>
    simp only [coerce, Coercion.of_result, coerceNav_eq_ok] at done
    obtain ⟨rfl, tree⟩ := done
    exact tree
  | listOf item ih =>
    obtain ⟨items, values, rfl, each, rfl⟩ := (coerce_listOf_eq_ok _).mp done
    refine ⟨values, rfl, fun value member => ?_⟩
    obtain ⟨item, _, inner, lone, rfl⟩ := Coercion.exists_item_of_lowered each member
    exact ⟨inner, rfl, ih declared absolute (Setting.within_data item) lone⟩
  | mapping fields passthrough ih =>
    obtain ⟨members, rfl, faultless, rfl⟩ := (coerce_mapping_eq_ok _).mp done
    have declared : Schema.Declared ⟨fields, passthrough⟩ :=
      Schema.everywhere_mapping_iff.mp declared
    have schema := Config.nested_schema ⟨fields, passthrough⟩ base members
    have tidy := Config.nested_tidy ⟨fields, passthrough⟩ base members
    have within := Config.nested_within ⟨fields, passthrough⟩ base members
    have inside := Config.nested_baseDir ⟨fields, passthrough⟩ base members environment
    generalize Config.nested ⟨fields, passthrough⟩ base members = config at *
    have absolute : (config.baseDir environment).isAbsolute = true :=
      inside ▸ (Environment.canonical_absolute rooted base).isAbsolute
    have hold := Config.holds_of_faultless (schema ▸ declared.distinct) within (by
      intro field member setting coerced within done
      rw [schema] at member
      exact ih field member (declared.rule member) absolute within done) faultless
    rw [schema] at hold
    exact ⟨(config.validate environment).config, schema, tidy.validate environment, rfl,
      Field.allHold_iff.mpr hold⟩
  | theme registry settings =>
    obtain rfl : settings = themeSettings := declared
    cases setting with
    | theme theme =>
      cases done
      exact ⟨theme, rfl, .inl (within theme rfl)⟩
    | data value =>
      obtain ⟨members, theme, _, _, resolved, rfl⟩ := (coerce_theme_eq_ok _).mp done
      exact ⟨theme, rfl, .inr ⟨_, ThemeSettings.apart_ofConfig _ members, resolved⟩⟩

namespace Config

theorem canonical_baseDir (config : Config) {environment : Environment}
    (rooted : environment.Rooted) : (config.baseDir environment).Canonical := by
  have working := Environment.canonical_absolute rooted ⟨"."⟩
  unfold baseDir
  split
  · exact Environment.canonical_absolute rooted _
  next file _ _ =>
    have absolute :=
      Environment.canonical_absolute rooted (Path.expandTilde environment.home file)
    cases found : (environment.absolute (Path.expandTilde environment.home file)).parent? with
    | none => exact working
    | some parent => exact absolute.parent? found
  · exact working

theorem validated_hold {config : Config} (declared : config.schema.Declared)
    (resolved : config.Within Theme.Resolved) {environment : Environment}
    (rooted : environment.Rooted)
    (faultless : (config.validate environment).report.hasErrors = false) :
    ∀ field ∈ config.schema.fields,
      field.Holds environment Theme.Resolved
        ((config.validate environment).config.get? field.name) := by
  have no_errors : (config.validate environment).report.errors = [] := by
    simpa [Report.hasErrors] using faultless
  refine holds_of_faultless declared.distinct resolved ?_ no_errors
  intro field member setting coerced resolved done
  exact Rule.admits_of_coerce rooted field.rule (declared.rule member)
    (config.canonical_baseDir rooted).isAbsolute resolved done

/-- Every declared field of a configuration that was validated without errors holds
what its option admits, however the configuration came about. -/
theorem validated_fields_hold {schema : Schema} (declared : schema.Declared) {config : Config}
    (reachable : config.Reachable schema) {environment : Environment}
    (rooted : environment.Rooted)
    (faultless : (config.validate environment).report.hasErrors = false) :
    ∀ field ∈ schema.fields,
      field.Holds environment Theme.Resolved
        ((config.validate environment).config.get? field.name) := by
  have same := reachable.schema_eq
  rw [← same] at declared ⊢
  exact validated_hold declared reachable.resolved rooted faultless

end Config

def Environment.bare : Environment where
  files := ⟨fun _ => some .directory, fun _ => none, fun _ => none⟩
  home := ⟨"/home"⟩
  workingDirectory := ⟨"/work"⟩

theorem Environment.bare_rooted : bare.Rooted := rfl

def Schema.serving : Schema where
  fields := [
    ⟨"sources", .listOf (.directory true), some (.list [.text "docs/./api"]), false⟩,
    ⟨"server", .mapping ⟨[⟨"address", .socketAddress, none, true⟩], false⟩, none, false⟩]
  passthrough := false

theorem Schema.serving_declared : serving.Declared := by
  refine ⟨⟨_, rfl⟩, ?_⟩
  simp only [serving, List.forall_mem_cons, Rule.Everywhere, Field.AllEverywhere, Field.Everywhere]
  exact ⟨trivial, ⟨⟨_, rfl⟩, trivial, trivial⟩, by simp⟩

def Config.served : Config :=
  (fresh .serving none).run [
    .load (.ofMembers [("server", .ofMembers [("address", .text "[::1]:080")])]),
    .validate .bare, .set "sources" (.data .null) (Setting.within_data _)]

theorem Config.served_fields_hold :
    served.Reachable .serving ∧ (served.validate .bare).report.hasErrors = false ∧
      ∀ field ∈ Schema.serving.fields,
        field.Holds .bare Theme.Resolved ((served.validate .bare).config.get? field.name) :=
  ⟨⟨none, _, rfl⟩, by decide +kernel,
    validated_fields_hold Schema.serving_declared ⟨none, _, rfl⟩ Environment.bare_rooted
      (by decide +kernel)⟩

end SiteSettings
