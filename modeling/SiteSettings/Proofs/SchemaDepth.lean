import SiteSettings.Rule

/-! Rules nest, so what is asked of a schema is asked of every schema inside it too.
Proofs about rules go by the one induction below. -/

namespace SiteSettings

namespace Rule

/-- A property holds of every rule if it passes from the rules inside a rule to the rule. -/
@[elab_as_elim]
theorem induct {motive : Rule → Prop}
    (type : ∀ kind length, motive (.type kind length))
    (choice : ∀ choices, motive (.choice choices))
    (removed : ∀ notice, motive (.removed notice))
    (retired : ∀ notice, motive (.deprecated notice none))
    (deprecated : ∀ notice inner, motive inner → motive (.deprecated notice (some inner)))
    (directory : ∀ mustExist, motive (.directory mustExist))
    (file : ∀ mustExist, motive (.file mustExist))
    (siteDirectory : ∀ docsKey, motive (.siteDirectory docsKey))
    (url : ∀ directory, motive (.url directory))
    (socketAddress : motive .socketAddress)
    (nav : motive .nav)
    (listOf : ∀ item, motive item → motive (.listOf item))
    (mapping : ∀ fields passthrough, (∀ field ∈ fields, motive field.rule) →
      motive (.mapping ⟨fields, passthrough⟩))
    (theme : ∀ registry settings, motive (.theme registry settings)) (rule : Rule) :
    motive rule := by
  refine @Rule.rec motive (fun field => motive field.rule)
    (fun schema => ∀ field ∈ schema.fields, motive field.rule)
    (fun inner => ∀ rule, inner = some rule → motive rule) (fun fields => ∀ field ∈ fields, motive field.rule)
    type choice removed ?deprecated directory file siteDirectory url socketAddress nav listOf
    ?mapping (fun registry settings _ => theme registry settings) (fun _ _ _ _ rule => rule)
    (fun _ _ fields => fields) ?none ?some ?nil ?cons rule
  case deprecated =>
    intro notice inner inside
    cases inner with
    | none => exact retired notice
    | some rule => exact deprecated notice rule (inside rule rfl)
  case mapping =>
    intro rule inside
    rcases rule with ⟨fields, passthrough⟩
    exact mapping fields passthrough inside
  case none => simp
  case some =>
    intro inner holds rule same
    exact Option.some.inj same ▸ holds
  case nil => simp
  case cons =>
    intro field rest here later
    exact List.forall_mem_cons.mpr ⟨here, later⟩

end Rule

mutual

/-- Every mapping inside the rule has fields of which `holds` is true, and every theme
has the settings that themes have. -/
def Rule.Everywhere (holds : List Field → Prop) (rule : Rule) : Prop :=
  match rule with
  | .deprecated _ (some inner) => inner.Everywhere holds
  | .listOf item => item.Everywhere holds
  | .mapping ⟨fields, _⟩ => holds fields ∧ Field.AllEverywhere holds fields
  | .theme _ settings => settings = Rule.themeSettings
  | _ => True
termination_by structural rule

def Field.AllEverywhere (holds : List Field → Prop) (fields : List Field) : Prop :=
  match fields with
  | [] => True
  | field :: rest => field.Everywhere holds ∧ Field.AllEverywhere holds rest
termination_by structural fields

def Field.Everywhere (holds : List Field → Prop) (field : Field) : Prop :=
  match field with
  | ⟨_, rule, _, _⟩ => rule.Everywhere holds
termination_by structural field

end

theorem Field.allEverywhere_iff {holds : List Field → Prop} {fields : List Field} :
    AllEverywhere holds fields ↔ ∀ field ∈ fields, field.rule.Everywhere holds := by
  induction fields with
  | nil => simp [AllEverywhere]
  | cons field rest ih =>
    obtain ⟨name, rule, default, required⟩ := field
    simp only [AllEverywhere, Everywhere, ih, List.forall_mem_cons]

namespace Schema

def Everywhere (holds : List Field → Prop) (schema : Schema) : Prop :=
  holds schema.fields ∧ ∀ field ∈ schema.fields, field.rule.Everywhere holds

theorem everywhere_mapping_iff {holds : List Field → Prop} {schema : Schema} :
    (Rule.mapping schema).Everywhere holds ↔ schema.Everywhere holds := by
  obtain ⟨fields, passthrough⟩ := schema
  simp only [Rule.Everywhere, Everywhere, Field.allEverywhere_iff]

theorem duplicate?_eq_none_iff {seen : List String} {fields : List Field} :
    duplicate? seen fields = none ↔
      (fields.map Field.name).Nodup ∧ ∀ field ∈ fields, field.name ∉ seen := by
  induction fields generalizing seen with
  | nil => simp [duplicate?]
  | cons field rest ih =>
    simp only [duplicate?, List.map_cons, List.nodup_cons, List.forall_mem_cons]
    split
    next known => simp [known]
    next fresh =>
      rw [ih]
      simp only [List.mem_cons, not_or, List.mem_map, not_exists, not_and]
      constructor
      · intro fresh
        rcases fresh with ⟨distinct, apart⟩
        exact ⟨⟨fun other member same => (apart other member).1 same, distinct⟩, fresh,
          fun other member => (apart other member).2⟩
      · intro fresh
        rcases fresh with ⟨⟨apart, distinct⟩, _, unseen⟩
        exact ⟨distinct, fun other member => ⟨apart other member, unseen other member⟩⟩

def Accepted (fields : List Field) : Prop := ∃ schema, declare fields false = .ok schema

theorem accepted_iff {fields : List Field} : Accepted fields ↔ (fields.map Field.name).Nodup := by
  have duplicates : duplicate? [] fields = none ↔ _ := duplicate?_eq_none_iff
  simp only [List.not_mem_nil, not_false_eq_true, implies_true, and_true] at duplicates
  rw [← duplicates, Accepted, declare]
  cases duplicate? [] fields <;> simp

/-- A schema that could be declared, and so could every schema inside it. -/
def Declared (schema : Schema) : Prop := schema.Everywhere Accepted

namespace Declared

variable {schema : Schema}

theorem distinct (declared : schema.Declared) : schema.names.Nodup := accepted_iff.mp declared.1

theorem rule (declared : schema.Declared) {field : Field} (member : field ∈ schema.fields) :
    field.rule.Everywhere Accepted := declared.2 field member

end Declared

end Schema

end SiteSettings
