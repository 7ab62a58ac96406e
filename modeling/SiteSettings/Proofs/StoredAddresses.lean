import SiteSettings.Proofs.Relocation
import SiteSettings.Proofs.SiteAccess

/-! Addresses as they are stored. Validation writes an address in its own spelling, which means
the same as the text that was given, so nothing changes when it is read or validated again. -/

namespace SiteSettings

open SocketAddress

def Rule.addressWarnings (address : SocketAddress) : List String :=
  if address.isUnspecified then [allInterfacesWarning address] else []

theorem Rule.coerce_addressText (context : Context) (raw : String) :
    Rule.socketAddress.coerce context (.data (.text raw)) =
      match ofText? raw with
      | some address => ⟨.ok (.data (.text address.toText)), addressWarnings address, []⟩
      | none => .of (.error .badAddress) := by
  have parsed : parseAddress (.data (.text raw)) =
      match ofText? raw with
      | some address => .ok address
      | none => .error .badAddress := rfl
  simp only [coerce, parsed]
  cases ofText? raw <;> rfl

/-- An address that was stored is coerced as the text that it was read from. -/
theorem Rule.coerce_storedAddress (context other : Context) {raw : String} {address : SocketAddress}
    (read : ofText? raw = some address) :
    Rule.socketAddress.coerce other (.data (.text address.toText)) =
      Rule.socketAddress.coerce context (.data (.text raw)) := by
  rw [coerce_addressText, coerce_addressText, ofText?_toText, read]

namespace Site

def devField : Field := fieldOr "dev_addr" .socketAddress (.text "127.0.0.1:8000")

theorem devField_mem (registry : Registry) : devField ∈ (schema registry).fields := by
  simp [schema, devField]

/-- The slot holds a text that means the same as the one that was given. -/
def Means (raw : String) (config : Config) : Prop :=
  ∃ text, config.get? "dev_addr" = some (.data (.text text)) ∧ ofText? text = ofText? raw

variable {raw : String} {config : Config}

theorem Means.devAddress?_eq (means : Means raw config) : devAddress? config = ofText? raw := by
  obtain ⟨text, held, same⟩ := means
  simp only [devAddress?, Config.text?, held, ← same]
  rfl

theorem verdict_devField (environment : Environment) (base : Path) (text : String) :
    devField.verdict environment base (some (.data (.text text))) =
      match ofText? text with
      | some address => ⟨some (.data (.text address.toText)), none, Rule.addressWarnings address⟩
      | none => ⟨some (.data (.text text)), some .badAddress, []⟩ := by
  have source : devField.source? (some (.data (.text text))) = some (.data (.text text)) := rfl
  rw [Field.verdict_of_source source]
  simp only [devField, fieldOr, Rule.coerce_addressText]
  cases ofText? text <;> rfl

section Steps

variable {registry : Registry} (same : config.schema = schema registry)

include same

theorem Means.validate (means : Means raw config) (environment : Environment) :
    Means raw (config.validate environment).config := by
  obtain ⟨text, held, read⟩ := means
  have steady : config.schema.Steady := same ▸ Site.steady registry
  have member : devField ∈ config.schema.fields := same ▸ devField_mem registry
  have settled : (config.validate environment).config.get? "dev_addr" = _ :=
    Config.settled_slot steady environment member
  have before : config.get? devField.name = some (.data (.text text)) := held
  rw [before, verdict_devField] at settled
  cases parsed : ofText? text with
  | none =>
    rw [parsed] at settled
    exact ⟨text, settled, read⟩
  | some address =>
    rw [parsed] at settled
    exact ⟨address.toText, settled, by rw [ofText?_toText, ← read, parsed]⟩

theorem Means.blames_iff (means : Means raw config) (environment : Environment) :
    (config.validate environment).report.Blames "dev_addr" ↔ ofText? raw = none := by
  obtain ⟨text, held, read⟩ := means
  have steady : config.schema.Steady := same ▸ Site.steady registry
  have member : devField ∈ config.schema.fields := same ▸ devField_mem registry
  have before : config.get? devField.name = some (.data (.text text)) := held
  have rejected : (devField.verdict environment (config.baseDir environment)
      (config.get? devField.name)).problem ≠ none ↔ ofText? raw = none := by
    rw [before, verdict_devField, ← read]
    cases ofText? text <;> simp
  refine (Config.blames_iff steady.declared.distinct steady.still environment member).trans ?_
  rw [rejected]
  constructor
  · intro blamed
    rcases blamed with complains | failed | clashes
    · obtain ⟨⟨_, ⟨⟩⟩, _⟩ := Field.removed_of_complaint complains
    · exact failed
    · obtain ⟨_, ⟨⟩⟩ := Pass.isSiteDirectory_of_crossProblem clashes
  · exact fun failed => .inr (.inl failed)

theorem get?_supplied {action : Action} (supplies : ∀ environment, action ≠ .validate environment) :
    (config.act action).get? "dev_addr" =
      (action.supply? "dev_addr").or (config.get? "dev_addr") := by
  have member : devField ∈ config.schema.fields := same ▸ devField_mem registry
  exact Config.get?_act (List.mem_map_of_mem member) supplies

theorem Means.act (means : Means raw config) {action : Action}
    (quiet : action.supply? "dev_addr" = none) : Means raw (config.act action) := by
  by_cases validates : ∃ environment, action = .validate environment
  · obtain ⟨environment, rfl⟩ := validates
    exact means.validate same environment
  · obtain ⟨text, held, read⟩ := means
    refine ⟨text, ?_, read⟩
    rw [get?_supplied same (not_exists.mp validates), quiet]
    exact held

theorem means_of_supply {supply : Action}
    (given : supply.supply? "dev_addr" = some (.data (.text raw))) :
    Means raw (config.act supply) := by
  refine ⟨raw, ?_, rfl⟩
  rw [get?_supplied same, given]
  · rfl
  · intro environment same
    rw [same] at given
    cases given

theorem Means.run (means : Means raw config) {actions : List Action}
    (quiet : ∀ action ∈ actions, action.supply? "dev_addr" = none) :
    Means raw (config.run actions) := by
  have both : (config.run actions).schema = schema registry ∧ Means raw (config.run actions) := by
    refine Config.run_induction
      (fun config => config.schema = schema registry ∧ Means raw config) ?_ ⟨same, means⟩
    intro config action member both
    obtain ⟨same, means⟩ := both
    exact ⟨(config.act_schema action).trans same, means.act same (quiet action member)⟩
  exact both.2

end Steps

end Site

/-- The text of an address means the address. So coercion gives a stored address the answer that
it gave the text, and whatever happens to a site's settings later, its address is the one in the
text that was supplied last. -/
theorem SocketAddress.stored_as_parsed (raw : String) :
    (∀ address, ofText? raw = some address → ofText? address.toText = some address) ∧
    (∀ context : Context,
      let first := Rule.socketAddress.coerce context (.data (.text raw))
      (∀ coerced, first.result = .ok coerced ↔
        ∃ address, ofText? raw = some address ∧ coerced = .data (.text address.toText)) ∧
      (∀ address, ofText? raw = some address →
        first.warnings = Rule.addressWarnings address) ∧
      ∀ coerced, first.result = .ok coerced →
        ∀ other, Rule.socketAddress.coerce other coerced = first) ∧
    ∀ (registry : Registry) (config : Config) (supply : Action) (later : List Action)
      (environment : Environment), config.schema = Site.schema registry →
      supply.supply? "dev_addr" = some (.data (.text raw)) →
      (∀ action ∈ later, action.supply? "dev_addr" = none) →
      let validation := ((config.act supply).run later).validate environment
      Site.devAddress? validation.config = ofText? raw ∧
        (validation.report.Blames "dev_addr" ↔ ofText? raw = none) := by
  refine ⟨fun address _ => ofText?_toText address, ?_, ?_⟩
  · intro context first
    have accepted (coerced : Setting) : first.result = .ok coerced ↔
        ∃ address, ofText? raw = some address ∧ coerced = .data (.text address.toText) := by
      refine (Rule.coerce_socketAddress_eq_ok context).trans (exists_congr fun address => ?_)
      simp [Rule.parseAddress_eq_ok]
    refine ⟨accepted, ?_, ?_⟩
    · intro address read
      simp only [first, Rule.coerce_addressText, read]
    · intro coerced done other
      obtain ⟨address, read, rfl⟩ := (accepted coerced).mp done
      exact Rule.coerce_storedAddress context other read
  · intro registry config supply later environment same given quiet validation
    have supplied := Site.means_of_supply same given
    have schema : (config.act supply).schema = Site.schema registry :=
      (config.act_schema supply).trans same
    have before := supplied.run schema quiet
    have kept : ((config.act supply).run later).schema = Site.schema registry :=
      (Config.run_schema ..).trans schema
    exact ⟨(before.validate kept environment).devAddress?_eq, before.blames_iff kept environment⟩

/-- All interfaces, written with more zeros than the stored address has. -/
def Site.everywhere : SocketAddress := .v6 Ipv6.unspecified 3 80

theorem Site.everywhere_read : ofText? "[0:0::0.0.0.0%3]:080" = some everywhere := by decide +kernel

theorem Site.everywhere_text : everywhere.toText = "[::%3]:80" := by decide +kernel

theorem Site.everywhere_stored :
    let registry := (InstalledThemes.standard ⟨"/themes"⟩ ⟨"/templates"⟩).toRegistry
    let supply := Action.load (.ofMembers [("dev_addr", .text "[0:0::0.0.0.0%3]:080")])
    let later := [.validate .bare, Action.load (.ofMembers [("site_name", .text "a")])]
    let validation := (((Config.fresh (schema registry) none).act supply).run later).validate .bare
    let first := Rule.socketAddress.coerce (devField.context .bare ⟨"/"⟩)
      (.data (.text "[0:0::0.0.0.0%3]:080"))
    ofText? "[::%3]:80" = some everywhere ∧
      first.result = .ok (.data (.text "[::%3]:80")) ∧
      first.warnings = [Rule.allInterfacesWarning everywhere] ∧
      Rule.socketAddress.coerce (devField.context .bare ⟨"/"⟩) (.data (.text "[::%3]:80")) = first ∧
      devAddress? validation.config = some everywhere ∧
      ¬ validation.report.Blames "dev_addr" := by
  intro registry supply later validation first
  obtain ⟨reads, coerces, keeps⟩ := SocketAddress.stored_as_parsed "[0:0::0.0.0.0%3]:080"
  obtain ⟨accepted, warned, again⟩ := coerces (devField.context .bare ⟨"/"⟩)
  have done := (accepted (.data (.text "[::%3]:80"))).mpr
    ⟨everywhere, everywhere_read, by rw [everywhere_text]⟩
  have quiet : ∀ action ∈ later, action.supply? "dev_addr" = none := by
    simp only [later, List.forall_mem_cons]
    exact ⟨rfl, rfl, List.forall_mem_nil _⟩
  obtain ⟨answer, blamed⟩ :=
    keeps registry (Config.fresh (schema registry) none) supply later .bare rfl rfl quiet
  refine ⟨?_, done, warned everywhere everywhere_read, again _ done _, ?_, ?_⟩
  · rw [← everywhere_text]
    exact reads everywhere everywhere_read
  · exact answer.trans everywhere_read
  · rw [blamed, everywhere_read]
    exact Option.some_ne_none _

end SiteSettings
