import SiteSettings.Proofs.ReportOrder

/-! The keys that no schema declares. A configuration keeps each of them beside its slots, with
the value that was loaded last, and a schema that does not pass through has every report end with
a warning for each. -/

namespace SiteSettings

namespace OrderedMap

variable {α : Type}

theorem get?_eq_lookup (map : OrderedMap α) (key : String) :
    map.get? key = map.entries.lookup key := by
  obtain ⟨entries⟩ := map
  show get?.go key entries = entries.lookup key
  induction entries with
  | nil => rfl
  | cons entry rest ih =>
    rw [get?.go, List.lookup_cons, ih]
    by_cases same : entry.1 = key
    · simp [same]
    · have other : (key == entry.1) = false := by simpa using Ne.symm same
      rw [if_neg same, other]

/-- What is listed last for a key is what it reads. -/
theorem get?_ofList (entries : List (String × α)) (key : String) :
    (ofList entries).get? key = entries.reverse.lookup key := by
  induction entries with
  | nil => rfl
  | cons entry rest ih =>
    rw [get?_ofList_cons, List.reverse_cons, List.lookup_append, ih, ← get?_eq_lookup ⟨[entry]⟩]
    congr 1
    simp only [get?, get?.go, eq_comm]

theorem get?_ofList_filter (keep : String → Bool) (entries : List (String × α)) (key : String) :
    (ofList (entries.filter fun entry => keep entry.1)).get? key =
      if keep key then entries.reverse.lookup key else none := by
  have filtered := get?_filterKeys keep ⟨entries.reverse⟩ key
  rw [get?_eq_lookup, get?_eq_lookup] at filtered
  rw [get?_ofList, ← List.filter_reverse]
  exact filtered

end OrderedMap

def Action.entries : Action → List (String × Value)
  | .load (.object members) => members.entries
  | _ => []

theorem Action.keys_eq (action : Action) : action.keys = action.entries.map Prod.fst := by
  cases action with
  | load document => cases document <;> rfl
  | _ => rfl

namespace Config

theorem act_extras (config : Config) (action : Action) :
    (config.act action).extras =
      config.extras.merge
        ⟨action.entries.filter fun entry => !config.schema.declares entry.1⟩ := by
  cases action with
  | load document =>
    cases document with
    | object members => exact config.loadMembers_extras members
    | _ => rfl
  | set key setting resolved =>
    simp only [act, set?]
    split <;> rfl
  | validate environment => rfl

theorem run_extras (config : Config) (actions : List Action) :
    (config.run actions).extras =
      config.extras.merge ⟨(actions.flatMap Action.entries).filter
        fun entry => !config.schema.declares entry.1⟩ := by
  induction actions generalizing config with
  | nil => rfl
  | cons action rest ih =>
    rw [List.flatMap_cons, List.filter_append, OrderedMap.merge_append, ← act_extras]
    have later := ih (config.act action)
    rwa [act_schema] at later

end Config

theorem Field.coerceAll_eq_foldl (fields : List Field) (environment : Environment) (base : Path)
    (pass : Pass) :
    coerceAll fields environment base pass =
      fields.foldl (fun pass field => field.coerce environment base pass) pass := by
  induction fields generalizing pass with
  | nil => rw [coerceAll, List.foldl_nil]
  | cons field rest ih => rw [coerceAll, ih, List.foldl_cons]

/-- Every field has its turn in coercion, whether or not it says something. -/
theorem Field.coerceAll_turns (fields : List Field) (environment : Environment) (base : Path)
    (pass : Pass) :
    ∃ errors warnings,
      (coerceAll fields environment base pass).report.errors = pass.report.errors ++ errors ∧
        TakeTurns (fun _ => True) fields errors ∧
      (coerceAll fields environment base pass).report.warnings =
          pass.report.warnings ++ warnings ∧
        TakeTurns (fun _ => True) fields warnings := by
  rw [coerceAll_eq_foldl]
  refine Pass.foldl_turns (fun pass field => ?_) fields pass
  exact ⟨_, _, adds_coerce field pass rfl, fun _ _ => trivial, fun _ _ => trivial⟩

namespace Config

variable (config : Config) (environment : Environment)

/-- Whatever a report says is about a declared field, up to its last warnings, and these are
about the unrecognised keys. -/
theorem validate_unrecognised :
    ∃ declared, (config.validate environment).report.warnings =
        declared ++ config.unrecognised.map .unrecognised ∧
      ∀ diagnostic ∈ (config.validate environment).report.errors ++ declared,
        config.schema.declares diagnostic.field = true := by
  obtain ⟨errors, warnings, blamed, blame_turns, warned, warn_turns⟩ :=
    Field.coerceAll_turns config.schema.fields environment (config.baseDir environment)
      (config.prepared environment)
  obtain ⟨_, crossed_warnings, crossed_errors⟩ := Pass.crossCheck_report environment
    (config.baseDir environment) config.schema.fields (config.coerced environment)
  obtain ⟨_, last_errors, last_warnings⟩ :=
    Pass.unrecognised_report config.unrecognised (config.checked environment)
  have all_errors : (config.validate environment).report.errors =
      (config.prepared environment).report.errors ++ errors ++
        config.schema.fields.flatMap (config.crossErrors environment) :=
    last_errors.trans (crossed_errors.trans (congrArg (· ++ _) blamed))
  have all_warnings : (config.validate environment).report.warnings =
      (config.prepared environment).report.warnings ++ warnings ++
        config.unrecognised.map .unrecognised :=
    last_warnings.trans (congrArg (· ++ _) (crossed_warnings.trans warned))
  obtain ⟨prepared_errors, prepared_warnings⟩ := config.prepared_turns environment
  refine ⟨_, all_warnings, fun diagnostic said => ?_⟩
  rw [all_errors] at said
  simp only [List.mem_append] at said
  rcases said with ((legacy | rejected) | clashes) | (legacy | noted)
  · exact Schema.declares_of_turns prepared_errors legacy
  · exact Schema.declares_of_turns blame_turns rejected
  · exact Schema.declares_of_turns (config.cross_turns environment) clashes
  · exact Schema.declares_of_turns prepared_warnings legacy
  · exact Schema.declares_of_turns warn_turns noted

/-- What a run keeps of the keys that its schema does not declare: each as it was first loaded
and with the value that was loaded last. These are also the unrecognised ones, unless the
schema passes through, and each of them has one warning at the end of every report. -/
theorem run_undeclared (schema : Schema) (base : Option Path) (actions : List Action) :
    let config := (fresh schema base).run actions
    let loaded := actions.flatMap Action.entries
    config.extras.keys =
        ((loaded.map Prod.fst).filter fun key => !schema.declares key).eraseDups ∧
      (∀ key, config.extras.get? key =
        if schema.declares key then none else loaded.reverse.lookup key) ∧
      config.unrecognised = (if schema.passthrough then [] else config.extras.keys) ∧
      ∀ environment, let report := (config.validate environment).report
        ∃ declared, report.warnings = declared ++ config.unrecognised.map .unrecognised ∧
          ∀ diagnostic ∈ report.errors ++ declared, schema.declares diagnostic.field = true := by
  intro config loaded
  have same : config.schema = schema := run_schema _ actions
  have extras : config.extras =
      .ofList (loaded.filter fun entry => !schema.declares entry.1) := run_extras _ actions
  have keys : config.extras.keys =
      ((loaded.map Prod.fst).filter fun key => !schema.declares key).eraseDups := by
    have start : (OrderedMap.empty : OrderedMap Value).keys = ([] : List String).eraseDups := by
      simp
    rw [extras, List.filter_map]
    exact OrderedMap.keys_merge_eq start ⟨_⟩
  have names : actions.flatMap Action.keys = loaded.map Prod.fst := by
    rw [List.map_flatMap]
    exact List.flatMap_congr fun action _ => action.keys_eq
  refine ⟨keys, ?_, ?_, ?_⟩
  · intro key
    have read := OrderedMap.get?_ofList_filter (fun key => !schema.declares key) loaded key
    rw [extras, read]
    cases schema.declares key <;> rfl
  · rw [run_unrecognised, Schema.strangers, names, keys]
  · intro environment
    rw [← same]
    exact config.validate_unrecognised environment

/-- A key that is loaded again keeps its place and has its last value. -/
theorem paged_undeclared :
    let config := (fresh .paged none).run
      [.load (.ofMembers [("b", .null), ("pages", .null), ("a", .null)]), .validate .bare,
        .load (.ofMembers [("a", .text "x"), ("title", .text "y"), ("c", .null)])]
    let report := (config.validate .bare).report
    config.extras.keys = ["b", "a", "c"] ∧ config.extras.get? "a" = some (.text "x") ∧
      config.unrecognised = ["b", "a", "c"] ∧
      (∃ declared, report.warnings = declared ++ ["b", "a", "c"].map .unrecognised) ∧
      report.errors ≠ [] ∧ ∀ error ∈ report.errors, Schema.paged.declares error.field = true := by
  intro config report
  obtain ⟨keys, values, strangers, last⟩ := run_undeclared .paged none
    [.load (.ofMembers [("b", .null), ("pages", .null), ("a", .null)]), .validate .bare,
      .load (.ofMembers [("a", .text "x"), ("title", .text "y"), ("c", .null)])]
  obtain ⟨declared, warnings, about⟩ := last .bare
  have names : config.extras.keys = ["b", "a", "c"] := keys.trans (by decide +kernel)
  have unrecognised : config.unrecognised = ["b", "a", "c"] := strangers.trans names
  refine ⟨names, (values "a").trans rfl, unrecognised, ⟨declared, ?_⟩, by decide +kernel, ?_⟩
  · rw [← unrecognised]
    exact warnings
  · intro error listed
    exact about error (List.mem_append_left _ listed)

end Config

end SiteSettings
