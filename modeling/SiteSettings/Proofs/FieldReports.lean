import SiteSettings.Proofs.Agreement
import SiteSettings.Proofs.Undeclared

/-! What a report says of one key. Where nothing moves, every phase has each field speak for
itself, so the entries about a field are those that its own slot gives rise to. -/

namespace SiteSettings

namespace Diagnostic

def about (key : String) (diagnostics : List Diagnostic) : List Diagnostic :=
  diagnostics.filter fun diagnostic => diagnostic.field = key

variable {key : String} {diagnostics : List Diagnostic}

theorem about_append (key : String) (first second : List Diagnostic) :
    about key (first ++ second) = about key first ++ about key second := List.filter_append ..

theorem about_eq_self (own : ∀ diagnostic ∈ diagnostics, diagnostic.field = key) :
    about key diagnostics = diagnostics :=
  List.filter_eq_self.mpr fun diagnostic member => decide_eq_true (own diagnostic member)

theorem about_eq_nil (other : ∀ diagnostic ∈ diagnostics, diagnostic.field ≠ key) :
    about key diagnostics = [] :=
  List.filter_eq_nil_iff.mpr fun diagnostic member same =>
    other diagnostic member (of_decide_eq_true same)

end Diagnostic

namespace Field

section Speech

variable {fields : List Field} {speech : Field → List Diagnostic}
  (own : ∀ field, ∀ diagnostic ∈ speech field, diagnostic.field = field.name)

include own

theorem about_flatMap_of_not_mem {key : String} (absent : key ∉ fields.map Field.name) :
    Diagnostic.about key (fields.flatMap speech) = [] := by
  apply Diagnostic.about_eq_nil
  intro diagnostic member same
  obtain ⟨field, inside, said⟩ := List.mem_flatMap.mp member
  have name : field.name = key := (own field diagnostic said).symm.trans same
  exact absent (name ▸ List.mem_map_of_mem inside)

/-- Of what distinct fields say, each about itself, only its own words are about a field. -/
theorem about_flatMap (distinct : (fields.map Field.name).Nodup) {field : Field}
    (member : field ∈ fields) :
    Diagnostic.about field.name (fields.flatMap speech) = speech field := by
  induction fields with
  | nil => cases member
  | cons first rest ih =>
    obtain ⟨fresh, distinct⟩ := List.nodup_cons.mp distinct
    rw [List.flatMap_cons, Diagnostic.about_append]
    rcases List.mem_cons.mp member with rfl | later
    · rw [Diagnostic.about_eq_self (own field), about_flatMap_of_not_mem own fresh,
        List.append_nil]
    · have silent : Diagnostic.about field.name (speech first) = [] := by
        apply Diagnostic.about_eq_nil
        intro diagnostic said same
        have name : field.name = first.name := same.symm.trans (own first diagnostic said)
        exact fresh (name ▸ List.mem_map_of_mem later)
      rw [silent, List.nil_append, ih distinct later]

end Speech

end Field

namespace Config

variable {config : Config}

/-- Of a key that is not declared, a report only says that it is unrecognised. -/
theorem about_undeclared {key : String} (absent : key ∉ config.schema.names)
    (environment : Environment) :
    Diagnostic.about key (config.validate environment).report.errors = [] ∧
      Diagnostic.about key (config.validate environment).report.warnings =
        Diagnostic.about key (config.unrecognised.map .unrecognised) := by
  obtain ⟨declared, warnings, known⟩ := config.validate_unrecognised environment
  have elsewhere {diagnostic : Diagnostic}
      (member : diagnostic ∈ (config.validate environment).report.errors ++ declared) :
      diagnostic.field ≠ key := by
    intro same
    exact absent (same ▸ Schema.declares_iff.mp (known diagnostic member))
  constructor
  · exact Diagnostic.about_eq_nil fun diagnostic member =>
      elsewhere (List.mem_append_left _ member)
  · have silent : Diagnostic.about key declared = [] :=
      Diagnostic.about_eq_nil fun diagnostic member => elsewhere (List.mem_append_right _ member)
    rw [warnings, Diagnostic.about_append, silent, List.nil_append]

/-- What the legacy phase adds to a report: each field's own words, as its turn comes. -/
structure Hears (config : Config) (environment : Environment) (speech : Field → Verdict) :
    Prop where
  failed : (config.prepared environment).failed =
    (config.schema.fields.filter fun field => (speech field).problem.isSome).map Field.name
  errors : (config.prepared environment).report.errors =
    config.schema.fields.flatMap fun field => (speech field).errors field.name
  warnings : (config.prepared environment).report.warnings =
    config.schema.fields.flatMap fun field => (speech field).notes field.name

/-- Where nothing moves, every field speaks of what was staged. -/
theorem hears_still (still : config.Still) (environment : Environment) :
    config.Hears environment fun field => field.complaints config.slots := by
  obtain ⟨failed, errors, warnings⟩ := prepared_report still environment
  exact ⟨failed, errors, warnings⟩

namespace Hears

variable {environment : Environment} {speech : Field → Verdict}
  (hears : config.Hears environment speech) (distinct : config.schema.names.Nodup) {field : Field}
  (member : field ∈ config.schema.fields)

include hears distinct member

/-- The errors about a field are for what it held at its turn, for what it was coerced from, and
for what it holds beside the other fields in the end. -/
theorem errors_about :
    Diagnostic.about field.name (config.validate environment).report.errors =
      (speech field).errors field.name ++ (config.verdict environment field).errors field.name ++
        config.crossErrors environment field := by
  rw [validate_errors distinct, hears.errors, Diagnostic.about_append, Diagnostic.about_append,
    Field.about_flatMap (fun _ _ => Verdict.field_of_mem_errors) distinct member,
    Field.about_flatMap (fun _ _ => Verdict.field_of_mem_errors) distinct member,
    Field.about_flatMap (fun _ _ => field_of_mem_crossErrors) distinct member]

theorem warnings_about :
    Diagnostic.about field.name (config.validate environment).report.warnings =
      (speech field).notes field.name ++ (config.verdict environment field).notes field.name ++
        Diagnostic.about field.name (config.unrecognised.map .unrecognised) := by
  rw [validate_warnings distinct, hears.warnings, Diagnostic.about_append, Diagnostic.about_append,
    Field.about_flatMap (fun _ _ => Verdict.field_of_mem_notes) distinct member,
    Field.about_flatMap (fun _ _ => Verdict.field_of_mem_notes) distinct member]
  rfl

/-- The cross-checks pass over a field that failed in an earlier phase. -/
theorem mem_failed_iff :
    field.name ∈ (config.coerced environment).failed ↔
      (speech field).problem.isSome ∨ (config.verdict environment field).problem.isSome := by
  have listed (failing : Field → Bool) :
      field.name ∈ (config.schema.fields.filter failing).map Field.name ↔ failing field := by
    constructor
    · intro named
      obtain ⟨other, inside, same⟩ := List.mem_map.mp named
      obtain ⟨declared, fails⟩ := List.mem_filter.mp inside
      rwa [Field.eq_of_name distinct declared member same] at fails
    · intro fails
      exact List.mem_map_of_mem (List.mem_filter.mpr ⟨member, fails⟩)
  rw [coerced_failed distinct, hears.failed, List.mem_append, listed, listed]

end Hears

end Config

end SiteSettings
