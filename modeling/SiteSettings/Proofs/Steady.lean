import SiteSettings.Proofs.Agreement
import SiteSettings.Proofs.Fixpoints

/-! Rules that treat what they made as they treated what they made it from. Coercing a
value of such a rule again gives the same value and the same warnings. -/

namespace SiteSettings

def Url.RoundTrips (url : Url) : Prop := parse url.print = .ok url

namespace Coercion

variable {α β : Type}

theorem andThen_silent {first : Coercion α} {next : α → Coercion β} (here : first.warnings = [])
    (later : ∀ middle, (next middle).warnings = []) : (first.andThen next).warnings = [] := by
  obtain ⟨result, warnings, trace⟩ := first
  cases result with
  | error problem => exact here
  | ok middle => rw [andThen_warnings rfl, here, later, List.append_nil]

end Coercion

theorem Validation.silent_toCoercion {validation : Validation}
    (silent : validation.report.warnings = []) : validation.toCoercion.warnings = [] := by
  rw [toCoercion, silent, List.map_nil]

namespace Rule

/-- Rules without anything to warn about and without anything that could be unsettled. -/
def Plain (rule : Rule) : Prop :=
  match rule with
  | .deprecated _ (some inner) => inner.Plain
  | .listOf item => item.Plain
  | .mapping ⟨fields, passthrough⟩ => fields = [] ∧ passthrough = true
  | .url _ | .socketAddress | .theme _ _ => False
  | _ => True
termination_by structural rule

end Rule

namespace Config

variable {config : Config} {environment : Environment}

theorem nested_unrecognised {schema : Schema} (passthrough : schema.passthrough = true)
    (base : Path) (members : OrderedMap Value) : (nested schema base members).unrecognised = [] := by
  refine (loadMembers_induction (fun config =>
    config.schema.passthrough = true ∧ config.unrecognised = []) ?_ ⟨passthrough, rfl⟩ members).2
  intro config key value both
  rcases both with ⟨passes, none_yet⟩
  unfold loadEntry
  split
  · exact ⟨passes, none_yet⟩
  · refine ⟨passes, ?_⟩
    simp only [passes, Bool.true_or, if_true]
    exact none_yet

/-- Fields that warn of nothing, and no key that is not declared. -/
theorem silent_validate (distinct : config.schema.names.Nodup)
    (current : ∀ field ∈ config.schema.fields, field.rule.Current)
    (silent : ∀ field ∈ config.schema.fields, ∀ context setting,
      (field.rule.coerce context setting).warnings = [])
    (known : config.unrecognised = []) : (config.validate environment).report.warnings = [] := by
  have still : config.Still := by
    intro field member
    have here := current field member
    cases rule : field.rule with
    | deprecated notice inner => exact (rule ▸ here).elim
    | _ => rfl
  have prepared : (config.prepared environment).report.warnings = [] := by
    rw [(prepared_report still environment).2.2, List.flatMap_eq_nil_iff]
    intro field member
    simp only [Field.complaints, Field.preparation, Rule.prepare_of_current (current field member)]
    rfl
  have verdicts : ∀ field ∈ config.schema.fields,
      (config.verdict environment field).notes field.name = [] := by
    intro field member
    rw [verdict_still still]
    cases source : field.source? (config.get? field.name) with
    | none =>
      rw [Field.verdict_of_no_source source]
      rfl
    | some setting =>
      have none_said := silent field member
        (field.context environment (config.baseDir environment)) setting
      rw [Field.verdict_of_source source, Verdict.ofCoercion]
      split <;> simp only [Verdict.notes, none_said, List.map_nil]
  rw [validate_warnings distinct, prepared, List.flatMap_eq_nil_iff.mpr verdicts, known]
  rfl

end Config

namespace Rule

variable {environment : Environment} {base : Path}

theorem Plain.silent {rule : Rule} (plain : rule.Plain) (context : Context) (setting : Setting) :
    (rule.coerce context setting).warnings = [] := by
  induction rule using Rule.induct generalizing context setting with
  | deprecated notice inner ih => exact ih plain context setting
  | url directory | socketAddress | theme registry settings => exact plain.elim
  | listOf item ih =>
    cases setting with
    | theme theme => rfl
    | data value =>
      cases value with
      | list items =>
        rw [coerce_listOf]
        exact Coercion.andThen_silent (Coercion.eachItem_quiet 0 fun value _ => ih plain _ _)
          fun _ => rfl
      | _ => rfl
  | mapping fields passthrough ih =>
    obtain ⟨rfl, rfl⟩ := plain
    cases setting with
    | theme theme => rfl
    | data value =>
      cases value with
      | object members =>
        rw [coerce_mapping]
        refine Coercion.andThen_silent (Validation.silent_toCoercion ?_) fun _ => rfl
        have schema := Config.nested_schema ⟨[], true⟩ context.base members
        refine Config.silent_validate ?_ ?_ ?_ (Config.nested_unrecognised rfl context.base members)
          <;> rw [schema] <;> simp [Schema.names]
      | _ => rfl
  | _ => rfl

theorem Plain.settled {rule : Rule} (plain : rule.Plain) (setting : Setting) :
    rule.Settled environment base setting := by
  induction rule using Rule.induct generalizing setting with
  | deprecated notice inner ih => exact ih plain setting
  | url directory | theme registry settings => exact plain.elim
  | listOf item ih =>
    rintro items rfl value _
    exact ih plain _
  | mapping fields passthrough ih =>
    obtain ⟨rfl, rfl⟩ := plain
    rintro members rfl
    have schema := Config.nested_schema ⟨[], true⟩ base members
    refine ⟨⟨?_, ?_⟩, trivial⟩ <;> rw [schema] <;> exact List.forall_mem_nil _
  | _ => trivial

theorem silent_theme (registry : Registry) (context : Context) (setting : Setting) :
    ((themeOf registry).coerce context setting).warnings = [] := by
  cases setting with
  | theme theme => rfl
  | data value =>
    rw [coerce_theme]
    apply Coercion.andThen_silent rfl
    intro members
    refine Coercion.andThen_silent (Validation.silent_toCoercion ?_) fun config => ?_
    · have schema := Config.nested_schema themeSettings context.base members
      refine Config.silent_validate ?_ ?_ ?_
        (Config.nested_unrecognised rfl context.base members) <;> rw [schema]
      · decide
      · simp [themeSettings, Current]
      · intro field member context setting
        refine Plain.silent ?_ context setting
        revert field
        simp [themeSettings, Plain]
    · unfold Theme.coerce
      split <;> rfl

def urlOf (directory : Bool) (url : Url) : Url := if directory then url.asDirectory else url

theorem asDirectory_again (url : Url) : url.asDirectory.asDirectory = url.asDirectory := by
  unfold Url.asDirectory
  by_cases slash : url.path.toList.getLast? = some '/'
  · simp only [if_pos slash]
  · simp [slash]

theorem urlText_again (directory : Bool) (url : Url) :
    urlText directory (urlOf directory url) = urlText directory url := by
  cases directory with
  | false => rfl
  | true => exact congrArg Url.print (asDirectory_again url)

theorem host_urlOf (directory : Bool) (url : Url) : (urlOf directory url).host? = url.host? := by
  cases directory with
  | false => rfl
  | true =>
    show url.asDirectory.host? = url.host?
    unfold Url.asDirectory
    split <;> rfl

/-- Rules that take back what they make, and have the same to say about it. -/
inductive Steady : Rule → Prop where
  | plain {rule : Rule} (plain : rule.Plain) : Steady rule
  | url (directory : Bool) : Steady (.url directory)
  | socketAddress : Steady .socketAddress
  | theme (registry : Registry) : Steady (themeOf registry)

/-- The URL of a text that the rule reads, if it reads one, is given back by the reader. -/
def Rereads (rule : Rule) (setting : Setting) : Prop :=
  ∀ directory text url, rule = .url directory → setting = .data (.text text) →
    Url.parse text = .ok url → (urlOf directory url).RoundTrips

/-- What a steady rule made of a value, it makes again of the result. -/
theorem Steady.coerce_again (rooted : environment.Rooted) (canonical : base.Canonical) {rule : Rule}
    (steady : rule.Steady) (declared : rule.Everywhere Schema.Accepted) {key : String}
    {default : Option Value} {given : Theme → Prop} {setting coerced : Setting}
    (within : setting.Within given) (rereads : rule.Rereads setting)
    (done : (rule.coerce ⟨environment, base, key, default⟩ setting).result = .ok coerced) :
    (rule.coerce ⟨environment, base, key, default⟩ coerced).result = .ok coerced ∧
      (rule.coerce ⟨environment, base, key, default⟩ coerced).warnings =
        (rule.coerce ⟨environment, base, key, default⟩ setting).warnings := by
  have admitted := rule.admits_of_coerce rooted declared canonical.isAbsolute within done
  cases steady with
  | plain plain =>
    refine ⟨rule.coerce_of_settled canonical declared admitted (plain.settled coerced), ?_⟩
    rw [plain.silent, plain.silent]
  | url directory =>
    refine ⟨?_, rfl⟩
    simp only [coerce, Coercion.of_result, coerceUrl_eq_ok] at done ⊢
    obtain ⟨rfl, rfl⟩ | ⟨text, url, rfl, _, parsed, host, rfl⟩ := done
    · exact .inl ⟨rfl, trivial⟩
    · by_cases empty : urlText directory url = ""
      · exact .inl ⟨congrArg (Setting.data ∘ Value.text) empty, trivial⟩
      · refine .inr ⟨_, urlOf directory url, rfl, empty, rereads directory text url rfl rfl parsed,
          ?_, ?_⟩
        · rwa [host_urlOf]
        · rw [urlText_again]
  | socketAddress =>
    obtain ⟨address, parsed, same⟩ := Coercion.andThen_eq_ok.mp done
    cases same
    have again : (Coercion.of (parseAddress (.data (.text address.toText)))).result =
        .ok address :=
      parseAddress_eq_ok.mpr ⟨_, rfl, SocketAddress.ofText?_toText address⟩
    constructor
    · simp only [coerce, Coercion.andThen_eq_ok, Coercion.of_result]
      exact ⟨address, again, rfl⟩
    · simp only [coerce]
      rw [Coercion.andThen_warnings again,
        Coercion.andThen_warnings parsed]
      rfl
  | theme registry =>
    obtain ⟨theme, rfl, _⟩ := admitted
    refine ⟨rfl, ?_⟩
    rw [silent_theme, silent_theme]

end Rule

end SiteSettings
