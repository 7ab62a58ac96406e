import SiteSettings.Proofs.Admission

/-! The order of a report. Every phase of validation goes through the fields as they are
declared, but the report holds the phases one after the other. So what a later phase says
of an early field comes behind what an earlier phase said of a late one. -/

namespace SiteSettings

namespace Schema

def position (schema : Schema) (name : String) : Nat := schema.names.idxOf name

/-- No diagnostic is about a field that is declared after the field of a later one. -/
def InOrder (schema : Schema) (diagnostics : List Diagnostic) : Prop :=
  diagnostics.Pairwise fun first second =>
    schema.position first.field ≤ schema.position second.field

/-- No phase speaks of a field declared before one that an earlier phase spoke of. -/
def Advances (schema : Schema) (phases : List (List Diagnostic)) : Prop :=
  phases.Pairwise fun earlier later => ∀ first ∈ earlier, ∀ second ∈ later,
    schema.position first.field ≤ schema.position second.field

instance (schema : Schema) (diagnostics : List Diagnostic) :
    Decidable (schema.InOrder diagnostics) :=
  inferInstanceAs (Decidable (List.Pairwise _ diagnostics))

instance (schema : Schema) (phases : List (List Diagnostic)) :
    Decidable (schema.Advances phases) :=
  inferInstanceAs (Decidable (List.Pairwise _ phases))

theorem inOrder_flatten_iff {schema : Schema} {phases : List (List Diagnostic)}
    (each : ∀ phase ∈ phases, schema.InOrder phase) :
    schema.InOrder phases.flatten ↔ schema.Advances phases := by
  unfold InOrder
  rw [List.pairwise_flatten]
  exact and_iff_right each

/-- The undeclared ones among the keys as they first occur, if the schema minds them. -/
def strangers (schema : Schema) (keys : List String) : List String :=
  if schema.passthrough then [] else (keys.filter fun key => !schema.declares key).eraseDups

theorem declares_of_mem_strangers {schema : Schema} {keys : List String} {key : String}
    (member : key ∈ schema.strangers keys) : schema.declares key = false := by
  unfold strangers at member
  split at member
  · cases member
  · rw [List.mem_eraseDups] at member
    simpa using (List.mem_filter.mp member).2

theorem strangers_append_declared {schema : Schema} {key : String} (declared : schema.declares key)
    (keys : List String) : schema.strangers (keys ++ [key]) = schema.strangers keys := by
  simp [strangers, declared]

theorem strangers_append_undeclared {schema : Schema} {key : String}
    (undeclared : schema.declares key = false) (keys : List String) :
    schema.strangers (keys ++ [key]) =
      if schema.passthrough || (schema.strangers keys).contains key then schema.strangers keys
      else schema.strangers keys ++ [key] := by
  unfold strangers
  cases schema.passthrough with
  | true => rfl
  | false =>
    have kept : [key].filter (fun key => !schema.declares key) = [key] := by simp [undeclared]
    rw [List.filter_append, kept, if_neg Bool.false_ne_true, if_neg Bool.false_ne_true,
      eraseDups_append_singleton, Bool.false_or]
    simp only [List.contains_iff_mem, List.mem_eraseDups]

end Schema

/-- The fields speak in turn, each about itself only, and some of them never do. -/
inductive Field.TakeTurns (speaks : Field → Prop) : List Field → List Diagnostic → Prop where
  | nil : TakeTurns speaks [] []
  | cons {field : Field} {rest : List Field} {here later : List Diagnostic}
      (own : ∀ diagnostic ∈ here, speaks field ∧ diagnostic.field = field.name)
      (turns : TakeTurns speaks rest later) : TakeTurns speaks (field :: rest) (here ++ later)

namespace Field.TakeTurns

variable {speaks : Field → Prop} {fields : List Field} {diagnostics : List Diagnostic}

theorem flatMap {speech : Field → List Diagnostic}
    (own : ∀ field, ∀ diagnostic ∈ speech field, speaks field ∧ diagnostic.field = field.name) :
    TakeTurns speaks fields (fields.flatMap speech) := by
  induction fields with
  | nil => exact .nil
  | cons field rest ih => exact .cons (own field) ih

section Turns

variable (turns : TakeTurns speaks fields diagnostics)

include turns

theorem speaker {diagnostic : Diagnostic} (member : diagnostic ∈ diagnostics) :
    ∃ field ∈ fields, speaks field ∧ diagnostic.field = field.name := by
  induction turns with
  | nil => cases member
  | @cons field rest here later own turns ih =>
    cases List.mem_append.mp member with
    | inl now =>
      obtain ⟨spoken, about⟩ := own diagnostic now
      exact ⟨field, List.mem_cons_self, spoken, about⟩
    | inr later =>
      obtain ⟨other, inside, spoken, about⟩ := ih later
      exact ⟨other, List.mem_cons_of_mem _ inside, spoken, about⟩

theorem eq_nil (silent : ∀ field ∈ fields, ¬ speaks field) : diagnostics = [] := by
  apply List.eq_nil_iff_forall_not_mem.mpr
  intro diagnostic member
  obtain ⟨field, inside, spoken, _⟩ := turns.speaker member
  exact silent field inside spoken

/-- Distinct fields that take turns speak in their order. -/
theorem ordered (distinct : (fields.map Field.name).Nodup) :
    diagnostics.Pairwise fun first second =>
      (fields.map Field.name).idxOf first.field ≤ (fields.map Field.name).idxOf second.field := by
  induction turns with
  | nil => exact .nil
  | @cons field rest here later own turns ih =>
    obtain ⟨fresh, distinct⟩ := List.nodup_cons.mp distinct
    have first_place {diagnostic : Diagnostic} (now : diagnostic ∈ here) :
        ((field :: rest).map Field.name).idxOf diagnostic.field = 0 := by
      rw [(own diagnostic now).2, List.map_cons, List.idxOf_cons_self]
    have later_place {diagnostic : Diagnostic} (after : diagnostic ∈ later) :
        ((field :: rest).map Field.name).idxOf diagnostic.field =
          (rest.map Field.name).idxOf diagnostic.field + 1 := by
      obtain ⟨other, inside, _, about⟩ := turns.speaker after
      have apart : field.name ≠ diagnostic.field := by
        intro same
        exact fresh (same.trans about ▸ List.mem_map_of_mem inside)
      rw [List.map_cons, List.idxOf_cons_ne _ apart]
    apply List.pairwise_append.mpr
    refine ⟨?_, ?_, ?_⟩
    · apply List.pairwise_iff_forall_sublist.mpr
      intro first second inside
      rw [first_place (inside.subset List.mem_cons_self)]
      exact Nat.zero_le _
    · apply (ih distinct).imp_of_mem
      intro first second before after ordered
      rw [later_place before, later_place after]
      exact Nat.succ_le_succ ordered
    · intro first now second _
      rw [first_place now]
      exact Nat.zero_le _

end Turns

end Field.TakeTurns

theorem Schema.inOrder_of_turns {schema : Schema} {speaks : Field → Prop}
    {diagnostics : List Diagnostic} (distinct : schema.names.Nodup)
    (turns : Field.TakeTurns speaks schema.fields diagnostics) : schema.InOrder diagnostics :=
  turns.ordered distinct

theorem Schema.declares_of_turns {schema : Schema} {speaks : Field → Prop}
    {diagnostics : List Diagnostic} (turns : Field.TakeTurns speaks schema.fields diagnostics)
    {diagnostic : Diagnostic} (spoken : diagnostic ∈ diagnostics) :
    schema.declares diagnostic.field = true := by
  obtain ⟨field, inside, _, about⟩ := turns.speaker spoken
  rw [about, declares_iff]
  exact List.mem_map_of_mem inside

namespace Rule

def IsRemoved (rule : Rule) : Prop := ∃ notice, rule = .removed notice

def IsDeprecated (rule : Rule) : Prop := ∃ notice inner, rule = .deprecated notice inner

def IsSiteDirectory (rule : Rule) : Prop := ∃ docsKey, rule = .siteDirectory docsKey

theorem isRemoved_of_problem {rule : Rule} {key : String} {slots : OrderedMap Setting}
    {problem : Problem} (found : (rule.prepare key slots).problem = some problem) :
    rule.IsRemoved := by
  cases rule with
  | removed notice => exact ⟨notice, rfl⟩
  | deprecated notice inner =>
    simp only [prepare] at found
    split at found
    · cases found
    · split at found <;> cases found
  | _ => cases found

theorem isDeprecated_of_warning {rule : Rule} {key message : String} {slots : OrderedMap Setting}
    (said : message ∈ (rule.prepare key slots).warnings) : rule.IsDeprecated := by
  cases rule with
  | removed notice =>
    simp only [prepare] at said
    split at said <;> cases said
  | deprecated notice inner => exact ⟨notice, inner, rfl⟩
  | _ => cases said

theorem isSiteDirectory_of_crossCheck {rule : Rule} {environment : Environment} {base : Path}
    {key : String} {slots : OrderedMap Setting} {problem : Problem}
    (found : rule.crossCheck environment base key slots = some problem) : rule.IsSiteDirectory := by
  cases rule with
  | siteDirectory docsKey => exact ⟨docsKey, rfl⟩
  | _ => cases found

end Rule

theorem Pass.isSiteDirectory_of_crossProblem {environment : Environment} {base : Path}
    {failed : List String} {slots : OrderedMap Setting} {field : Field}
    (blamed : crossProblem? environment base failed slots field ≠ none) :
    field.rule.IsSiteDirectory := by
  obtain ⟨problem, found⟩ := Option.ne_none_iff_exists'.mp blamed
  unfold crossProblem? at found
  split at found
  · cases found
  · exact Rule.isSiteDirectory_of_crossCheck found

theorem Problem.of_mem_diagnostics {reported : Option Problem} {name : String}
    {diagnostic : Diagnostic} (member : diagnostic ∈ (reported.map (toDiagnostic name)).toList) :
    ∃ problem, reported = some problem ∧ diagnostic.field = name := by
  obtain ⟨problem, found, rfl⟩ := Option.map_eq_some_iff.mp (Option.mem_toList.mp member)
  exact ⟨problem, found, rfl⟩

namespace Verdict

variable {verdict : Verdict} {name : String} {diagnostic : Diagnostic}

theorem field_of_mem_errors (member : diagnostic ∈ verdict.errors name) : diagnostic.field = name := by
  obtain ⟨_, _, about⟩ := Problem.of_mem_diagnostics member
  exact about

theorem field_of_mem_notes (member : diagnostic ∈ verdict.notes name) : diagnostic.field = name := by
  obtain ⟨_, _, rfl⟩ := List.mem_map.mp member
  rfl

end Verdict

theorem Config.field_of_mem_crossErrors {config : Config} {environment : Environment} {field : Field}
    {diagnostic : Diagnostic} (member : diagnostic ∈ config.crossErrors environment field) :
    diagnostic.field = field.name := by
  obtain ⟨_, _, about⟩ := Problem.of_mem_diagnostics member
  exact about

/-- Where each field's turn adds to the report about that field, all of them add in turn. -/
theorem Pass.foldl_turns {turn : Pass → Field → Pass} {blames warns : Field → Prop}
    (adds : ∀ pass field, ∃ problem warnings,
      Adds pass (turn pass field) field.name problem warnings ∧
        (∀ found, problem = some found → blames field) ∧ ∀ message ∈ warnings, warns field)
    (fields : List Field) (pass : Pass) :
    ∃ errors warnings,
      (fields.foldl turn pass).report.errors = pass.report.errors ++ errors ∧
        Field.TakeTurns blames fields errors ∧
      (fields.foldl turn pass).report.warnings = pass.report.warnings ++ warnings ∧
        Field.TakeTurns warns fields warnings := by
  induction fields generalizing pass with
  | nil => exact ⟨[], [], (List.append_nil _).symm, .nil, (List.append_nil _).symm, .nil⟩
  | cons field rest ih =>
    obtain ⟨problem, messages, adds, blames, warns⟩ := adds pass field
    obtain ⟨errors, warnings, blamed, blame_turns, warned, warn_turns⟩ := ih (turn pass field)
    rw [adds.errors, List.append_assoc] at blamed
    rw [adds.warnings, List.append_assoc] at warned
    refine ⟨_, _, blamed, .cons ?_ blame_turns, warned, .cons ?_ warn_turns⟩
    · intro diagnostic member
      obtain ⟨found, reported, about⟩ := Problem.of_mem_diagnostics member
      exact ⟨blames found reported, about⟩
    · intro diagnostic member
      obtain ⟨message, said, rfl⟩ := List.mem_map.mp member
      exact ⟨warns message said, rfl⟩

/-- In the legacy phase the removed fields blame and the deprecated ones warn. -/
theorem Pass.prepareFields_turns (fields : List Field) (pass : Pass) :
    ∃ errors warnings,
      (fields.foldl prepareField pass).report.errors = pass.report.errors ++ errors ∧
        Field.TakeTurns (fun field => field.rule.IsRemoved) fields errors ∧
      (fields.foldl prepareField pass).report.warnings = pass.report.warnings ++ warnings ∧
        Field.TakeTurns (fun field => field.rule.IsDeprecated) fields warnings := by
  refine foldl_turns (fun pass field => ?_) fields pass
  exact ⟨_, _, pass.adds_prepareField field, fun _ => Rule.isRemoved_of_problem,
    fun _ => Rule.isDeprecated_of_warning⟩

def Diagnostic.unrecognised (key : String) : Diagnostic :=
  ⟨key, s!"Unrecognised configuration name: {key}", none⟩

def Action.keys : Action → List String
  | .load (.object members) => members.keys
  | _ => []

namespace Config

/-- The undeclared keys among the given ones have been noticed, each when it first occurred. -/
def Noticed (config : Config) (keys : List String) : Prop :=
  config.unrecognised = config.schema.strangers keys

namespace Noticed

variable {config : Config} {keys : List String} (noticed : config.Noticed keys)

include noticed

theorem loadEntry (key : String) (value : Value) :
    (config.loadEntry key value).Noticed (keys ++ [key]) := by
  unfold Noticed at noticed ⊢
  unfold Config.loadEntry
  cases declared : config.schema.declares key with
  | true => exact noticed.trans (Schema.strangers_append_declared declared keys).symm
  | false =>
    show (if config.schema.passthrough || config.unrecognised.contains key then
      config.unrecognised else config.unrecognised ++ [key]) = config.schema.strangers (keys ++ [key])
    rw [Schema.strangers_append_undeclared declared, noticed]

theorem loadMembers (members : OrderedMap Value) :
    (config.loadMembers members).Noticed (keys ++ members.keys) := by
  obtain ⟨entries⟩ := members
  induction entries generalizing config keys with
  | nil =>
    show config.Noticed (keys ++ [])
    rwa [List.append_nil]
  | cons entry rest ih =>
    have later := ih (noticed.loadEntry entry.1 entry.2)
    rwa [List.append_assoc] at later

theorem act (action : Action) : (config.act action).Noticed (keys ++ action.keys) := by
  have kept : config.Noticed (keys ++ []) := by rwa [List.append_nil]
  cases action with
  | load document =>
    cases document with
    | object members => exact noticed.loadMembers members
    | _ => exact kept
  | set key setting resolved =>
    show ((config.set? key setting).getD config).Noticed (keys ++ [])
    unfold set?
    split <;> exact kept
  | validate environment => exact kept

theorem run (actions : List Action) :
    (config.run actions).Noticed (keys ++ actions.flatMap Action.keys) := by
  induction actions generalizing config keys with
  | nil =>
    show config.Noticed (keys ++ [])
    rwa [List.append_nil]
  | cons action rest ih =>
    have later := ih (noticed.act action)
    rwa [List.append_assoc] at later

end Noticed

theorem run_unrecognised (schema : Schema) (base : Option Path) (actions : List Action) :
    ((fresh schema base).run actions).unrecognised =
      schema.strangers (actions.flatMap Action.keys) := by
  have start : (fresh schema base).Noticed [] := by
    show [] = schema.strangers []
    simp [Schema.strangers]
  have noticed : ((fresh schema base).run actions).Noticed (actions.flatMap Action.keys) :=
    start.run actions
  rwa [Noticed, run_schema] at noticed

variable (config : Config) (environment : Environment)

def errorPhases : List (List Diagnostic) :=
  [(config.prepared environment).report.errors,
    config.schema.fields.flatMap fun field =>
      (config.verdict environment field).errors field.name,
    config.schema.fields.flatMap (config.crossErrors environment)]

def warningPhases : List (List Diagnostic) :=
  [(config.prepared environment).report.warnings,
    config.schema.fields.flatMap fun field =>
      (config.verdict environment field).notes field.name]

theorem prepared_turns :
    Field.TakeTurns (fun field => field.rule.IsRemoved) config.schema.fields
        (config.prepared environment).report.errors ∧
      Field.TakeTurns (fun field => field.rule.IsDeprecated) config.schema.fields
        (config.prepared environment).report.warnings := by
  obtain ⟨errors, warnings, blamed, blame_turns, warned, warn_turns⟩ :=
    Pass.prepareFields_turns config.schema.fields (config.opened environment)
  have only_errors : (config.prepared environment).report.errors = errors := blamed
  have only_warnings : (config.prepared environment).report.warnings = warnings := warned
  rw [only_errors, only_warnings]
  exact ⟨blame_turns, warn_turns⟩

theorem verdict_turns :
    Field.TakeTurns (fun _ => True) config.schema.fields
        (config.schema.fields.flatMap fun field =>
          (config.verdict environment field).errors field.name) ∧
      Field.TakeTurns (fun _ => True) config.schema.fields
        (config.schema.fields.flatMap fun field =>
          (config.verdict environment field).notes field.name) := by
  constructor
  · apply Field.TakeTurns.flatMap
    intro field diagnostic member
    exact ⟨trivial, Verdict.field_of_mem_errors member⟩
  · apply Field.TakeTurns.flatMap
    intro field diagnostic member
    exact ⟨trivial, Verdict.field_of_mem_notes member⟩

theorem cross_turns :
    Field.TakeTurns (fun field => field.rule.IsSiteDirectory) config.schema.fields
      (config.schema.fields.flatMap (config.crossErrors environment)) := by
  apply Field.TakeTurns.flatMap
  intro field diagnostic member
  obtain ⟨problem, found, about⟩ := Problem.of_mem_diagnostics member
  have clashes := Option.ne_none_iff_exists'.mpr ⟨problem, found⟩
  exact ⟨Pass.isSiteDirectory_of_crossProblem clashes, about⟩

section Phases

variable {config : Config} (distinct : config.schema.names.Nodup) (environment : Environment)

include distinct

theorem errorPhases_inOrder : ∀ phase ∈ config.errorPhases environment,
    config.schema.InOrder phase := by
  unfold errorPhases
  simp only [List.forall_mem_cons]
  exact ⟨Schema.inOrder_of_turns distinct (config.prepared_turns environment).1,
    Schema.inOrder_of_turns distinct (config.verdict_turns environment).1,
    Schema.inOrder_of_turns distinct (config.cross_turns environment), List.forall_mem_nil _⟩

theorem warningPhases_inOrder : ∀ phase ∈ config.warningPhases environment,
    config.schema.InOrder phase := by
  unfold warningPhases
  simp only [List.forall_mem_cons]
  exact ⟨Schema.inOrder_of_turns distinct (config.prepared_turns environment).2,
    Schema.inOrder_of_turns distinct (config.verdict_turns environment).2, List.forall_mem_nil _⟩

/-- Without removed fields and output directories, errors come from coercion only. -/
theorem errors_inOrder (plain : ∀ field ∈ config.schema.fields,
      ¬ field.rule.IsRemoved ∧ ¬ field.rule.IsSiteDirectory) :
    config.schema.InOrder (config.errorPhases environment).flatten := by
  have legacy : (config.prepared environment).report.errors = [] :=
    (config.prepared_turns environment).1.eq_nil fun field inside => (plain field inside).1
  have cross : config.schema.fields.flatMap (config.crossErrors environment) = [] :=
    (config.cross_turns environment).eq_nil fun field inside => (plain field inside).2
  simp only [errorPhases, legacy, cross, List.flatten_cons, List.flatten_nil, List.nil_append,
    List.append_nil]
  exact Schema.inOrder_of_turns distinct (config.verdict_turns environment).1

/-- Without deprecated fields, warnings come from coercion only. -/
theorem warnings_inOrder (current : ∀ field ∈ config.schema.fields, ¬ field.rule.IsDeprecated) :
    config.schema.InOrder (config.warningPhases environment).flatten := by
  have legacy : (config.prepared environment).report.warnings = [] :=
    (config.prepared_turns environment).2.eq_nil current
  simp only [warningPhases, legacy, List.flatten_cons, List.flatten_nil, List.nil_append,
    List.append_nil]
  exact Schema.inOrder_of_turns distinct (config.verdict_turns environment).2

theorem validate_errorPhases :
    (config.validate environment).report.errors = (config.errorPhases environment).flatten := by
  rw [validate_errors distinct, errorPhases, List.append_assoc]
  simp only [List.flatten_cons, List.flatten_nil, List.append_nil]

theorem validate_warningPhases :
    (config.validate environment).report.warnings =
      (config.warningPhases environment).flatten ++
        config.unrecognised.map .unrecognised := by
  rw [validate_warnings distinct, warningPhases]
  simp only [List.flatten_cons, List.flatten_nil, List.append_nil]
  rfl

end Phases

theorem declares_of_warningPhases {warning : Diagnostic}
    (member : warning ∈ (config.warningPhases environment).flatten) :
    config.schema.declares warning.field = true := by
  obtain ⟨phase, listed, spoken⟩ := List.mem_flatten.mp member
  rw [warningPhases, List.mem_cons, List.mem_singleton] at listed
  rcases listed with rfl | rfl
  · exact Schema.declares_of_turns (config.prepared_turns environment).2 spoken
  · exact Schema.declares_of_turns (config.verdict_turns environment).2 spoken

/-- The warnings about declared fields are those of the phases. -/
theorem declared_warnings {schema : Schema} {config : Config} (same : config.schema = schema)
    (distinct : schema.names.Nodup) (environment : Environment) {keys : List String}
    (noticed : config.unrecognised = schema.strangers keys) :
    ((config.validate environment).report.warnings.filter
        fun warning => schema.declares warning.field) =
      (config.warningPhases environment).flatten := by
  subst same
  rw [validate_warningPhases distinct, List.filter_append, List.filter_eq_self.mpr,
    List.filter_eq_nil_iff.mpr, List.append_nil]
  · intro warning member
    obtain ⟨key, stranger, rfl⟩ := List.mem_map.mp member
    rw [noticed] at stranger
    show ¬ config.schema.declares key = true
    rw [Schema.declares_of_mem_strangers stranger]
    exact Bool.false_ne_true
  · intro warning member
    exact config.declares_of_warningPhases environment member

/-- When the errors of a report, and its warnings about declared fields, are in the order of
declaration: when no phase goes back behind an earlier one, as it never does if only one phase
has anything to say. The keys that nobody declared come last, as they were first seen. -/
theorem report_ordered_iff {schema : Schema} (distinct : schema.names.Nodup) (base : Option Path)
    (actions : List Action) (environment : Environment) :
    let config := (fresh schema base).run actions
    let report := (config.validate environment).report
    let declared := report.warnings.filter fun warning => schema.declares warning.field
    report.errors = (config.errorPhases environment).flatten ∧
      declared = (config.warningPhases environment).flatten ∧
      report.warnings =
        declared ++ (schema.strangers (actions.flatMap Action.keys)).map .unrecognised ∧
      (schema.InOrder report.errors ↔ schema.Advances (config.errorPhases environment)) ∧
      (schema.InOrder declared ↔ schema.Advances (config.warningPhases environment)) ∧
      ((∀ field ∈ schema.fields, ¬ field.rule.IsRemoved ∧ ¬ field.rule.IsSiteDirectory) →
        schema.InOrder report.errors) ∧
      ((∀ field ∈ schema.fields, ¬ field.rule.IsDeprecated) → schema.InOrder declared) := by
  intro config report declared
  have same : config.schema = schema := run_schema _ actions
  have distinct_here : config.schema.names.Nodup := same ▸ distinct
  have noticed : config.unrecognised = schema.strangers (actions.flatMap Action.keys) :=
    run_unrecognised schema base actions
  have errors : report.errors = (config.errorPhases environment).flatten :=
    validate_errorPhases distinct_here environment
  have warnings : declared = (config.warningPhases environment).flatten :=
    declared_warnings same distinct environment noticed
  have each_error := errorPhases_inOrder distinct_here environment
  have each_warning := warningPhases_inOrder distinct_here environment
  have errors_alone := errors_inOrder distinct_here environment
  have warnings_alone := warnings_inOrder distinct_here environment
  rw [same] at each_error each_warning errors_alone warnings_alone
  rw [errors]
  refine ⟨rfl, warnings, ?_, ?_, ?_, errors_alone, ?_⟩
  · rw [warnings, ← noticed]
    exact validate_warningPhases distinct_here environment
  · exact Schema.inOrder_flatten_iff each_error
  · rw [warnings]
    exact Schema.inOrder_flatten_iff each_warning
  · rw [warnings]
    exact warnings_alone

end Config

def Field.heading : Field := ⟨"title", .type .text none, none, true⟩

def Field.pages : Field := ⟨"pages", .removed ⟨none, none⟩, none, false⟩

def Schema.paged : Schema := ⟨[.heading, .pages], false⟩

theorem Config.paged_ordered :
    let config := (fresh .paged none).run
      [.load (.ofMembers [("b", .null), ("pages", .null), ("a", .null)]), .validate .bare,
        .load (.ofMembers [("a", .null), ("title", .text "x"), ("c", .null)])]
    let report := (config.validate .bare).report
    Schema.paged.names.Nodup ∧ Schema.paged.InOrder report.errors ∧
      report.warnings = ["b", "a", "c"].map .unrecognised := by
  have distinct : Schema.paged.names.Nodup := by decide
  obtain ⟨_, declared, last, errors, _⟩ := report_ordered_iff distinct none
    [.load (.ofMembers [("b", .null), ("pages", .null), ("a", .null)]), .validate .bare,
      .load (.ofMembers [("a", .null), ("title", .text "x"), ("c", .null)])] .bare
  refine ⟨distinct, errors.mpr (by decide +kernel), last.trans ?_⟩
  rw [declared]
  decide +kernel

/-- The title is declared first, but that it is missing is noticed after the removed pages. -/
theorem Config.pages_before_title :
    let config := (fresh .paged none).run [.load (.ofMembers [("pages", .text "a")])]
    Schema.paged.names.Nodup ∧ ¬ Schema.paged.InOrder (config.validate .bare).report.errors :=
  ⟨by decide, by decide +kernel⟩

end SiteSettings
