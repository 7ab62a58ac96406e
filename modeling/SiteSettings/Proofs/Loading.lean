import SiteSettings.Config
import SiteSettings.Proofs.OrderedMaps
import SiteSettings.Proofs.SchemaDepth

/-! Loading into a configuration and writing it out again. Declared keys and the other
keys never mix, so what is written out can be loaded back. -/

namespace SiteSettings

theorem Schema.declares_iff {schema : Schema} {name : String} :
    schema.declares name = true ↔ name ∈ schema.names := by
  simp [declares, field?, names]

theorem Schema.declares_eq_false_iff {schema : Schema} {name : String} :
    schema.declares name = false ↔ name ∉ schema.names := by
  rw [← declares_iff, Bool.not_eq_true]

namespace Config

theorem loadMembers_cons (config : Config) (entry : String × Value) (rest : List (String × Value)) :
    config.loadMembers ⟨entry :: rest⟩ = (config.loadEntry entry.1 entry.2).loadMembers ⟨rest⟩ := rfl

theorem loadEntry_schema (config : Config) (key : String) (value : Value) :
    (config.loadEntry key value).schema = config.schema := by
  unfold loadEntry
  split <;> rfl

theorem loadMembers_induction (keeps : Config → Prop)
    (entry : ∀ config key value, keeps config → keeps (config.loadEntry key value))
    {config : Config} (start : keeps config) (members : OrderedMap Value) :
    keeps (config.loadMembers members) := by
  obtain ⟨entries⟩ := members
  induction entries generalizing config with
  | nil => exact start
  | cons first rest ih => exact ih (entry config first.1 first.2 start)

theorem loadMembers_schema (config : Config) (members : OrderedMap Value) :
    (config.loadMembers members).schema = config.schema :=
  loadMembers_induction (fun other => other.schema = config.schema)
    (fun other key value same => (other.loadEntry_schema key value).trans same) rfl members

theorem loadMembers_baseDirectory (config : Config) (members : OrderedMap Value) :
    (config.loadMembers members).baseDirectory = config.baseDirectory := by
  refine loadMembers_induction (fun other => other.baseDirectory = config.baseDirectory)
    (fun other key value same => ?_) rfl members
  unfold loadEntry
  split <;> exact same

/-- A document overwrites the declared keys that it holds, and nothing else. -/
theorem get?_loadMembers (config : Config) (members : OrderedMap Value) (key : String) :
    (config.loadMembers members).get? key =
      (if key ∈ config.schema.names then
        ((OrderedMap.ofList members.entries).get? key).map Setting.data
      else none).or (config.get? key) := by
  obtain ⟨entries⟩ := members
  induction entries generalizing config with
  | nil => split <;> rfl
  | cons entry rest ih =>
    rw [loadMembers_cons, ih, loadEntry_schema]
    by_cases declared : key ∈ config.schema.names
    · rw [if_pos declared, if_pos declared, OrderedMap.get?_ofList_cons]
      cases (OrderedMap.ofList rest).get? key with
      | some value => rfl
      | none =>
        simp only [Option.map_none, Option.none_or, loadEntry]
        by_cases same : key = entry.1
        · subst same
          rw [if_pos (Schema.declares_iff.mpr declared), if_pos rfl]
          exact OrderedMap.get?_insert_self ..
        · rw [if_neg same]
          split
          · exact OrderedMap.get?_insert_of_ne _ _ same
          · rfl
    · simp only [if_neg declared, Option.none_or, loadEntry]
      split
      next known =>
        refine OrderedMap.get?_insert_of_ne _ _ ?_
        intro same
        subst same
        exact declared (Schema.declares_iff.mp known)
      next => rfl

theorem loadMembers_extras (config : Config) (members : OrderedMap Value) :
    (config.loadMembers members).extras =
      config.extras.merge (members.filterKeys fun key => !config.schema.declares key) := by
  obtain ⟨entries⟩ := members
  induction entries generalizing config with
  | nil => rfl
  | cons entry rest ih =>
    rw [loadMembers_cons, ih, loadEntry_schema]
    simp only [OrderedMap.filterKeys, List.filter_cons, loadEntry]
    cases config.schema.declares entry.1 <;> rfl

structure SameBeside (first second : Config) : Prop where
  schema : first.schema = second.schema
  extras : first.extras = second.extras
  unrecognised : first.unrecognised = second.unrecognised
  baseDirectory : first.baseDirectory = second.baseDirectory

namespace SameBeside

variable {first second : Config} (beside : first.SameBeside second)

include beside

theorem loadEntry (key : String) (value : Value) :
    (first.loadEntry key value).SameBeside (second.loadEntry key value) := by
  obtain ⟨schema, extras, unrecognised, baseDirectory⟩ := beside
  simp only [Config.loadEntry, schema]
  split
  · exact ⟨rfl, extras, unrecognised, baseDirectory⟩
  · refine ⟨rfl, ?_, ?_, baseDirectory⟩
    · rw [extras]
    · rw [unrecognised]

theorem loadMembers (members : OrderedMap Value) :
    (first.loadMembers members).SameBeside (second.loadMembers members) := by
  obtain ⟨entries⟩ := members
  induction entries generalizing first second with
  | nil => exact beside
  | cons entry rest ih => exact ih (beside.loadEntry entry.1 entry.2)

theorem get?_loadMembers (members : OrderedMap Value) {key : String}
    (same : first.get? key = second.get? key) :
    (first.loadMembers members).get? key = (second.loadMembers members).get? key := by
  rw [Config.get?_loadMembers, Config.get?_loadMembers, beside.schema, same]

theorem baseDir_eq (same : first.text? originKey = second.text? originKey)
    (environment : Environment) : first.baseDir environment = second.baseDir environment := by
  simp only [baseDir, origin?, same, beside.extras, beside.baseDirectory]

end SameBeside

/-- The keys beside the slots are distinct and none of them is declared. -/
structure Tidy (config : Config) : Prop where
  distinct : config.extras.keys.Nodup
  undeclared : ∀ key ∈ config.extras.keys, key ∉ config.schema.names

theorem tidy_new (schema : Schema) : (new schema).Tidy where
  distinct := List.nodup_nil
  undeclared := by simp [new]

theorem Tidy.loadEntry {config : Config} (tidy : config.Tidy) (key : String) (value : Value) :
    (config.loadEntry key value).Tidy := by
  unfold Config.loadEntry
  split
  · exact ⟨tidy.distinct, tidy.undeclared⟩
  next undeclared =>
    refine ⟨OrderedMap.nodup_keys_insert tidy.distinct key value, fun other member => ?_⟩
    rw [OrderedMap.keys_insert] at member
    split at member
    · exact tidy.undeclared other member
    · rcases List.mem_append.mp member with old | new
      · exact tidy.undeclared other old
      · rw [List.mem_singleton.mp new]
        exact Schema.declares_eq_false_iff.mp (Bool.not_eq_true _ ▸ undeclared)

theorem Tidy.loadMembers {config : Config} (tidy : config.Tidy) (members : OrderedMap Value) :
    (config.loadMembers members).Tidy :=
  loadMembers_induction Tidy (fun _ key value kept => kept.loadEntry key value)
    tidy members

def declaredMembers (config : Config) : OrderedMap Value :=
  ⟨config.schema.names.filterMap fun name =>
    (config.get? name).map fun setting => (name, setting.toValue)⟩

theorem keys_declaredMembers (config : Config) :
    config.declaredMembers.keys =
      config.schema.names.filter fun name => (config.get? name).isSome := by
  simp only [declaredMembers, OrderedMap.keys, List.map_filterMap]
  rw [← List.filterMap_eq_filter]
  congr 1
  funext name
  cases found : config.get? name <;> simp [Option.guard, found]

theorem get?_declaredMembers {config : Config} (key : String) :
    config.declaredMembers.get? key =
      if key ∈ config.schema.names then (config.get? key).map Setting.toValue else none := by
  unfold declaredMembers
  show OrderedMap.get?.go key (config.schema.names.filterMap _) = _
  induction config.schema.names with
  | nil => rfl
  | cons name rest ih =>
    cases found : config.get? name with
    | none =>
      simp only [List.filterMap_cons, found, Option.map_none, ih, List.mem_cons]
      by_cases same : key = name
      · subst same
        simp [found]
      · simp [same]
    | some setting =>
      simp only [List.filterMap_cons, found, Option.map_some, OrderedMap.get?.go, List.mem_cons]
      by_cases same : name = key
      · subst same
        simp [found]
      · simp [same, Ne.symm same, ih]

theorem nodup_toMembers (config : Config) : config.toMembers.keys.Nodup :=
  OrderedMap.nodup_keys_merge (OrderedMap.nodup_keys_ofList _) _

section Written

variable {config : Config} (distinct : config.schema.names.Nodup) (tidy : config.Tidy)

include distinct in
theorem nodup_declaredMembers : config.declaredMembers.keys.Nodup := by
  rw [keys_declaredMembers]
  exact distinct.filter _

include distinct tidy

theorem toMembers_eq :
    config.toMembers = ⟨config.declaredMembers.entries ++ config.extras.entries⟩ := by
  have listed := OrderedMap.ofList_entries (nodup_declaredMembers distinct)
  show (OrderedMap.ofList config.declaredMembers.entries).merge config.extras = _
  rw [listed, OrderedMap.merge_of_disjoint _ _ tidy.distinct]
  intro key extra declared
  rw [keys_declaredMembers] at declared
  exact tidy.undeclared key extra (List.mem_filter.mp declared).1

theorem keys_toMembers :
    config.toMembers.keys = config.schema.names.filter config.isStaged ++ config.extras.keys := by
  rw [toMembers_eq distinct tidy, OrderedMap.keys, List.map_append]
  exact congrArg (· ++ config.extras.keys) (keys_declaredMembers config)

theorem get?_toMembers {key : String} (declared : key ∈ config.schema.names) :
    config.toMembers.get? key = (config.get? key).map Setting.toValue := by
  have extra : config.extras.get? key = none := OrderedMap.get?_eq_none_iff.mpr fun member =>
    tidy.undeclared key member declared
  have listed := OrderedMap.ofList_entries (nodup_declaredMembers distinct)
  show ((OrderedMap.ofList config.declaredMembers.entries).merge config.extras).get? key = _
  rw [listed, OrderedMap.get?_merge, OrderedMap.ofList_entries tidy.distinct, extra,
    Option.none_or, get?_declaredMembers, if_pos declared]

theorem filter_extra_toMembers :
    config.toMembers.filterKeys (fun key => !config.schema.declares key) = config.extras := by
  rw [toMembers_eq distinct tidy]
  simp only [OrderedMap.filterKeys, List.filter_append]
  rw [List.filter_eq_nil_iff.mpr, List.filter_eq_self.mpr, List.nil_append]
  · intro entry member
    rw [Schema.declares_eq_false_iff.mpr (tidy.undeclared entry.1 (List.mem_map_of_mem member))]
    rfl
  · intro entry member
    have key : entry.1 ∈ config.declaredMembers.keys := List.mem_map_of_mem member
    rw [keys_declaredMembers] at key
    simp [Schema.declares_iff.mpr (List.mem_filter.mp key).1]

/-- What was written out is read back where nothing was, themes as the data they were lowered to. -/
theorem get?_reloaded (start : Config) (schema : start.schema = config.schema) {key : String}
    (vacant : start.get? key = none) :
    (start.loadMembers config.toMembers).get? key =
      if key ∈ config.schema.names then
        (config.get? key).map fun setting => .data setting.toValue
      else none := by
  rw [get?_loadMembers, schema, vacant, Option.or_none,
    OrderedMap.ofList_entries (nodup_toMembers config)]
  split
  next declared =>
    rw [get?_toMembers distinct tidy declared, Option.map_map]
    rfl
  next => rfl

theorem reloaded_extras (start : Config) (schema : start.schema = config.schema)
    (vacant : start.extras = .empty) :
    (start.loadMembers config.toMembers).extras = config.extras := by
  rw [loadMembers_extras, schema, vacant, filter_extra_toMembers distinct tidy]
  exact OrderedMap.ofList_entries tidy.distinct

end Written

/-- A configuration inside another one: a document of its own, with the base of the outer one. -/
def nested (schema : Schema) (base : Path) (members : OrderedMap Value) : Config :=
  ((new schema).withBase base).loadMembers members

theorem nested_schema (schema : Schema) (base : Path) (members : OrderedMap Value) :
    (nested schema base members).schema = schema := loadMembers_schema ..

theorem nested_tidy (schema : Schema) (base : Path) (members : OrderedMap Value) :
    (nested schema base members).Tidy := by
  have start : ((new schema).withBase base).Tidy :=
    ⟨(tidy_new schema).distinct, (tidy_new schema).undeclared⟩
  exact start.loadMembers members

theorem nested_baseDir (schema : Schema) (base : Path) (members : OrderedMap Value)
    (environment : Environment) :
    (nested schema base members).baseDir environment = environment.absolute base := by
  have same : (nested schema base members).baseDirectory = some base :=
    loadMembers_baseDirectory ..
  simp only [baseDir, same]

theorem get?_nested (schema : Schema) (base : Path) {members : OrderedMap Value}
    (distinct : members.keys.Nodup) (key : String) :
    (nested schema base members).get? key =
      if key ∈ schema.names then (members.get? key).map .data else none := by
  rw [nested, get?_loadMembers, OrderedMap.ofList_entries distinct]
  exact Option.or_none

/-- Declared keys that read the same, beside the same other keys, are written out the same. -/
theorem toMembers_congr {first second : Config} (schema : first.schema = second.schema)
    (extras : first.extras = second.extras)
    (same : ∀ name ∈ first.schema.names,
      (first.get? name).map Setting.toValue = (second.get? name).map Setting.toValue) :
    first.toMembers = second.toMembers := by
  have pair (config : Config) (name : String) :
      ((config.get? name).map fun setting => (name, setting.toValue)) =
        ((config.get? name).map Setting.toValue).map fun value => (name, value) := by
    rw [Option.map_map]
    rfl
  have declared : first.declaredMembers = second.declaredMembers := by
    unfold declaredMembers
    rw [← schema]
    congr 1
    revert same
    generalize first.schema.names = names
    intro same
    induction names with
    | nil => rfl
    | cons name rest ih =>
      obtain ⟨here, later⟩ := List.forall_mem_cons.mp same
      simp only [List.filterMap_cons, pair first name, pair second name, here, ih later]
  show (OrderedMap.ofList first.declaredMembers.entries).merge first.extras =
    (OrderedMap.ofList second.declaredMembers.entries).merge second.extras
  rw [declared, extras]

end Config

end SiteSettings
