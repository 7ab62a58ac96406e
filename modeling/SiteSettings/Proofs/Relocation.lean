import SiteSettings.Proofs.Legacy
import SiteSettings.Proofs.Runs
import SiteSettings.Proofs.Settlement

/-! Where a value of a deprecated field ends up. It moves only while its successor's slot is
empty, and nothing but validation needs to have filled that slot. -/

namespace SiteSettings

/-- The field's values move to the target and nobody else's do; none move to the field. -/
structure Schema.Replaces (schema : Schema) (field target : Field) : Prop where
  distinct : schema.names.Nodup
  member : field ∈ schema.fields
  declared : target ∈ schema.fields
  apart : target.name ≠ field.name
  moves : field.rule.successor? = some target.name
  plain : field.default = none
  current : target.rule.Current
  alone : ∀ other ∈ schema.fields, other.rule.successor? = some target.name → other = field
  unmoved : ∀ other ∈ schema.fields, other.rule.successor? ≠ some field.name

namespace Schema.Replaces

variable {schema : Schema} {field target : Field} (replaces : schema.Replaces field target)

include replaces

theorem elsewhere {other : Field} (member : other ∈ schema.fields) (different : other ≠ field) :
    (other.rule.Current ∨ field.name ≠ other.name ∧ other.rule.successor? ≠ some field.name) ∧
      (other.rule.Current ∨ target.name ≠ other.name ∧
        other.rule.successor? ≠ some target.name) := by
  constructor
  · refine .inr ⟨fun same => different ?_, replaces.unmoved other member⟩
    exact Field.eq_of_name replaces.distinct member replaces.member same.symm
  · by_cases same : target.name = other.name
    · rw [← Field.eq_of_name replaces.distinct replaces.declared member same]
      exact .inl replaces.current
    · exact .inr ⟨same, fun into => different (replaces.alone other member into)⟩

theorem get?_prepared (pass : Pass) :
    ∃ turn : Pass, turn.slots.get? field.name = pass.slots.get? field.name ∧
      turn.slots.get? target.name = pass.slots.get? target.name ∧
      ∀ key ∈ [field.name, target.name],
        (schema.fields.foldl Pass.prepareField pass).slots.get? key =
          (field.preparation turn.slots).slots.get? key := by
  obtain ⟨before, after, split⟩ := List.append_of_mem replaces.member
  have different {other : Field} (inside : other ∈ before ∨ other ∈ after) : other ≠ field := by
    intro same
    subst same
    exact Pass.fresh_turn split replaces.distinct inside rfl
  have earlier (other : Field) (inside : other ∈ before) :=
    replaces.elsewhere (Pass.mem_of_before split inside) (different (.inl inside))
  have later (other : Field) (inside : other ∈ after) :=
    replaces.elsewhere (Pass.mem_of_after split inside) (different (.inr inside))
  refine ⟨before.foldl Pass.prepareField pass,
    Pass.prepareFields_other fun other inside => (earlier other inside).1,
    Pass.prepareFields_other fun other inside => (earlier other inside).2, ?_⟩
  rw [Pass.foldl_turn split, ← Pass.prepareField_slots]
  simp only [List.forall_mem_cons]
  exact ⟨Pass.prepareFields_other fun other inside => (later other inside).1,
    Pass.prepareFields_other fun other inside => (later other inside).2, List.forall_mem_nil _⟩

theorem deprecated : ∃ message inner,
    field.rule = .deprecated ⟨some target.name, message⟩ inner := by
  have moves := replaces.moves
  cases rule : field.rule with
  | deprecated notice inner =>
    obtain ⟨movedTo, message⟩ := notice
    rw [rule] at moves
    cases moves
    exact ⟨message, inner, rfl⟩
  | _ => simp [rule, Rule.successor?] at moves

theorem stays (pass : Pass) (blocked : Unset (pass.slots.get? field.name) ∨
      pass.slots.get? target.name ≠ none) :
    (schema.fields.foldl Pass.prepareField pass).slots.get? field.name =
        pass.slots.get? field.name ∧
      (schema.fields.foldl Pass.prepareField pass).slots.get? target.name =
        pass.slots.get? target.name := by
  obtain ⟨turn, own, successor, after⟩ := replaces.get?_prepared pass
  obtain ⟨message, inner, rule⟩ := replaces.deprecated
  rw [← own, ← successor] at blocked ⊢
  have idle : field.rule.Idle field.name turn.slots := by
    rw [rule]
    refine blocked.imp_right fun full moved same => .inr ?_
    cases same
    rw [OrderedMap.contains]
    exact Option.isSome_iff_ne_none.mpr full
  have alike := (Rule.prepare_of_idle idle).2
  exact ⟨(after _ (by simp)).trans (alike _), (after _ (by simp)).trans (alike _)⟩

theorem arrives (pass : Pass) {value : Setting} (held : pass.slots.get? field.name = some value)
    (present : value.isNull = false) (vacant : pass.slots.get? target.name = none) :
    (schema.fields.foldl Pass.prepareField pass).slots.get? field.name = none ∧
      (schema.fields.foldl Pass.prepareField pass).slots.get? target.name = some value := by
  obtain ⟨turn, own, successor, after⟩ := replaces.get?_prepared pass
  obtain ⟨message, inner, rule⟩ := replaces.deprecated
  rw [← own] at held
  rw [← successor] at vacant
  have moved : (Rule.prepare (.deprecated ⟨some target.name, message⟩ inner) field.name
      turn.slots).slots = _ := Rule.prepare_moves rfl replaces.apart held present vacant
  rw [after _ (by simp), after _ (by simp), Field.preparation, rule, moved]
  constructor
  · rw [OrderedMap.get?_insert_of_ne _ _ replaces.apart.symm, OrderedMap.get?_erase, if_pos rfl]
  · rw [OrderedMap.get?_insert_self]

end Schema.Replaces

namespace Config

variable {config : Config} {field target : Field} (replaces : config.schema.Replaces field target)
  (environment : Environment)

include replaces

theorem vacated_iff :
    (config.validate environment).config.get? field.name = none ↔
      (config.prepared environment).slots.get? field.name = none := by
  rw [validate_slot replaces.distinct replaces.member, verdict]
  constructor
  · exact Field.slot_eq_none
  · intro vacant
    rw [vacant, Field.verdict_of_no_source (by rw [Field.source?, replaces.plain]; rfl)]

theorem target_slot :
    (config.validate environment).config.get? target.name =
      (target.verdict environment (config.baseDir environment)
        ((config.prepared environment).slots.get? target.name)).slot :=
  validate_slot replaces.distinct replaces.declared

end Config

namespace Field

def outcome (field : Field) (environment : Environment) (base : Path) (setting : Setting) :
    Setting :=
  match (field.rule.coerce (field.context environment base) setting).result with
  | .ok coerced => coerced
  | .error _ => setting

/-- What the field may hold of a value after some validations, each in its own environment. -/
inductive Settles (field : Field) (value : Setting) : Setting → Prop where
  | once (environment : Environment) (base : Path) :
      Settles field value (field.outcome environment base value)
  | again {held : Setting} (environment : Environment) (base : Path)
      (settled : Settles field value held) : Settles field value (field.outcome environment base held)

variable {field : Field} {environment : Environment} {base : Path} {setting : Setting}

theorem outcome_present (present : setting.isNull = false) :
    (field.outcome environment base setting).isNull = false := by
  unfold outcome
  split
  next coerced done =>
    obtain rfl | ⟨fresh, _⟩ := field.rule.coerce_result done
    · exact present
    · exact fresh
  next => exact present

theorem Settles.present {value : Setting} (present : value.isNull = false)
    (settles : field.Settles value setting) : setting.isNull = false := by
  induction settles with
  | once => exact outcome_present present
  | again _ _ _ ih => exact outcome_present ih

theorem slot_of_present (present : setting.isNull = false) :
    (field.verdict environment base (some setting)).slot =
      some (field.outcome environment base setting) := by
  have source : field.source? (some setting) = some setting := by simp [source?, present]
  rw [verdict_of_source source, Verdict.ofCoercion, outcome]
  cases (field.rule.coerce (field.context environment base) setting).result <;> rfl

end Field

def Action.supply? (action : Action) (key : String) : Option Setting :=
  match action with
  | .load (.object members) => ((OrderedMap.ofList members.entries).get? key).map .data
  | .set name setting _ => if name = key then some setting else none
  | _ => none

namespace Config

theorem get?_act {config : Config} {action : Action} {key : String}
    (declared : key ∈ config.schema.names)
    (supplies : ∀ environment, action ≠ .validate environment) :
    (config.act action).get? key = (action.supply? key).or (config.get? key) := by
  cases action with
  | load document =>
    cases document with
    | object members => exact (config.get?_loadMembers members key).trans (by rw [if_pos declared]; rfl)
    | _ => rfl
  | set name setting resolved =>
    simp only [act, set?, Action.supply?]
    by_cases same : name = key
    · subst same
      rw [if_pos (Schema.declares_iff.mpr declared), if_pos rfl]
      exact OrderedMap.get?_insert_self ..
    · rw [if_neg same]
      split
      · exact OrderedMap.get?_insert_of_ne _ _ (Ne.symm same)
      · rfl
  | validate environment => exact absurd rfl (supplies environment)

/-- Validating would put something into the target's slot: a value to move, or its default. -/
def Fills (config : Config) (field target : Field) (environment : Environment) : Prop :=
  ¬ Unset (config.get? field.name) ∨
    (target.verdict environment (config.baseDir environment) none).slot ≠ none

section Steps

variable {config : Config} {field target : Field} (replaces : config.schema.Replaces field target)

include replaces

theorem slot_of_waiting {value : Setting} (own : config.get? field.name = some value)
    (vacant : config.get? target.name = none) (present : value.isNull = false)
    (environment : Environment) :
    (config.validate environment).config.get? target.name =
      some (target.outcome environment (config.baseDir environment) value) := by
  have moved := (replaces.arrives (config.opened environment) own present vacant).2
  rw [target_slot replaces, show (config.prepared environment).slots.get? target.name = some value
    from moved, Field.slot_of_present present]

theorem fills_iff (vacant : config.get? target.name = none) (environment : Environment) :
    (config.validate environment).config.get? target.name ≠ none ↔
      config.Fills field target environment := by
  rw [Fills]
  by_cases unset : Unset (config.get? field.name)
  · rw [target_slot replaces]
    have kept := (replaces.stays (config.opened environment) (.inl unset)).2
    rw [show (config.prepared environment).slots.get? target.name = none from kept.trans vacant]
    simp only [unset, not_true_eq_false, false_or]
  · obtain ⟨value, held, present⟩ := exists_of_not_unset unset
    rw [slot_of_waiting replaces held vacant present environment]
    simp only [unset, not_false_eq_true, true_or, iff_true]
    exact Option.some_ne_none _

theorem full_validate (full : config.get? target.name ≠ none) (environment : Environment) :
    (config.validate environment).config.get? target.name ≠ none := by
  have kept := (replaces.stays (config.opened environment) (.inr full)).2
  rw [target_slot replaces]
  exact fun empty => full (kept.symm.trans (Field.slot_eq_none empty))

/-- What every action keeps while the fields stand as they do, a run keeps. -/
theorem run_replacing (kept : Config → Prop) {actions : List Action}
    (step : ∀ config : Config, ∀ action ∈ actions, config.schema.Replaces field target →
      kept config → kept (config.act action)) (start : kept config) :
    kept (config.run actions) := by
  refine (run_induction (fun config => config.schema.Replaces field target ∧ kept config) ?_
    ⟨replaces, start⟩).2
  intro config action member both
  rcases both with ⟨replaces, held⟩
  refine ⟨?_, step config action member replaces held⟩
  rw [act_schema]
  exact replaces

theorem act_supplied {action : Action} {value : Setting}
    (given : action.supply? field.name = some value) (unsupplied : action.supply? target.name = none) :
    (config.act action).get? field.name = some value ∧
      (config.act action).get? target.name = config.get? target.name := by
  have supplies : ∀ environment, action ≠ .validate environment := by
    intro environment same
    rw [same] at given
    cases given
  rw [get?_act (List.mem_map_of_mem replaces.member) supplies,
    get?_act (List.mem_map_of_mem replaces.declared) supplies, given, unsupplied]
  exact ⟨rfl, rfl⟩

theorem stuck_act {action : Action} (own : config.get? field.name ≠ none)
    (full : config.get? target.name ≠ none) (quiet : action.supply? field.name = none)
    (unsupplied : action.supply? target.name = none) :
    (config.act action).get? field.name ≠ none ∧ (config.act action).get? target.name ≠ none := by
  by_cases validates : ∃ environment, action = .validate environment
  · obtain ⟨environment, rfl⟩ := validates
    have kept := (replaces.stays (config.opened environment) (.inr full)).1
    refine ⟨fun empty => own ?_, full_validate replaces full environment⟩
    exact kept.symm.trans ((vacated_iff replaces environment).mp empty)
  · have supplies := not_exists.mp validates
    rw [get?_act (List.mem_map_of_mem replaces.member) supplies,
      get?_act (List.mem_map_of_mem replaces.declared) supplies, quiet, unsupplied]
    exact ⟨own, full⟩

theorem stuck_run {actions : List Action} (own : config.get? field.name ≠ none)
    (full : config.get? target.name ≠ none)
    (quiet : ∀ action ∈ actions, action.supply? field.name = none)
    (unsupplied : ∀ action ∈ actions, action.supply? target.name = none) :
    (config.run actions).get? field.name ≠ none ∧ (config.run actions).get? target.name ≠ none := by
  refine run_replacing replaces (fun config =>
    config.get? field.name ≠ none ∧ config.get? target.name ≠ none) ?_ ⟨own, full⟩
  intro config action member replaces taken
  rcases taken with ⟨own, full⟩
  exact stuck_act replaces own full (quiet action member) (unsupplied action member)

end Steps

/-- The value waits in the field's slot, or it has settled in the target's. -/
def Carries (config : Config) (field target : Field) (value : Setting) : Prop :=
  (config.get? field.name = some value ∧ config.get? target.name = none) ∨
    (config.get? field.name = none ∧
      ∃ held, config.get? target.name = some held ∧ target.Settles value held)

namespace Carries

variable {config : Config} {field target : Field} {value : Setting}
  (replaces : config.schema.Replaces field target) (present : value.isNull = false)
  (carries : config.Carries field target value)

include replaces present carries

theorem validate (environment : Environment) :
    (config.validate environment).config.get? field.name = none ∧
      ∃ held, (config.validate environment).config.get? target.name = some held ∧
        target.Settles value held := by
  rw [vacated_iff replaces, target_slot replaces]
  obtain ⟨waiting, vacant⟩ | ⟨gone, held, settled, settles⟩ := carries
  · obtain ⟨own, arrived⟩ := replaces.arrives (config.opened environment) waiting present vacant
    refine ⟨own, target.outcome environment (config.baseDir environment) value, ?_, .once ..⟩
    rw [show (config.prepared environment).slots.get? target.name = some value from arrived,
      Field.slot_of_present present]
  · have unset : Unset (config.get? field.name) := gone ▸ unset_none
    obtain ⟨own, kept⟩ := replaces.stays (config.opened environment) (.inl unset)
    refine ⟨own.trans gone, target.outcome environment (config.baseDir environment) held, ?_,
      .again _ _ settles⟩
    rw [show (config.prepared environment).slots.get? target.name = some held from
      kept.trans settled, Field.slot_of_present (settles.present present)]

theorem act {action : Action} (quiet : action.supply? field.name = none)
    (unsupplied : action.supply? target.name = none) :
    (config.act action).Carries field target value := by
  by_cases validates : ∃ environment, action = .validate environment
  · obtain ⟨environment, rfl⟩ := validates
    exact .inr (carries.validate replaces present environment)
  · have supplies := not_exists.mp validates
    rw [Carries, get?_act (List.mem_map_of_mem replaces.member) supplies,
      get?_act (List.mem_map_of_mem replaces.declared) supplies, quiet, unsupplied]
    exact carries

theorem run {actions : List Action} (quiet : ∀ action ∈ actions, action.supply? field.name = none)
    (unsupplied : ∀ action ∈ actions, action.supply? target.name = none) :
    (config.run actions).Carries field target value := by
  refine run_replacing replaces (fun config => config.Carries field target value) ?_ carries
  intro config action member replaces carries
  exact Carries.act replaces present carries (quiet action member) (unsupplied action member)

end Carries

def LeavesVacant (config : Config) (field target : Field) (actions : List Action) : Prop :=
  ∀ before environment after, actions = before ++ .validate environment :: after →
    ¬ (config.run before).Fills field target environment

theorem leavesVacant_iff {config : Config} {field target : Field} {actions : List Action} :
    config.LeavesVacant field target actions ↔
      ¬ config.ValidatesWhere actions fun before environment =>
        before.Fills field target environment := by
  simp only [LeavesVacant, ValidatesWhere, not_exists, not_and]

theorem leavesVacant_cons {config : Config} {field target : Field} {action : Action}
    {actions : List Action} :
    config.LeavesVacant field target (action :: actions) ↔
      (∀ environment, action = .validate environment →
        ¬ config.Fills field target environment) ∧
        (config.act action).LeavesVacant field target actions := by
  rw [leavesVacant_iff, leavesVacant_iff, validatesWhere_cons, not_or]
  simp only [not_exists, not_and]

section Vacancy

variable {config : Config} {field target : Field} (replaces : config.schema.Replaces field target)

include replaces

theorem full_act {action : Action} (unsupplied : action.supply? target.name = none)
    (full : config.get? target.name ≠ none) : (config.act action).get? target.name ≠ none := by
  by_cases validates : ∃ environment, action = .validate environment
  · obtain ⟨environment, rfl⟩ := validates
    exact full_validate replaces full environment
  · rw [get?_act (List.mem_map_of_mem replaces.declared) (not_exists.mp validates), unsupplied]
    exact full

theorem full_run {actions : List Action}
    (unsupplied : ∀ action ∈ actions, action.supply? target.name = none)
    (full : config.get? target.name ≠ none) : (config.run actions).get? target.name ≠ none := by
  refine run_replacing replaces (fun config => config.get? target.name ≠ none) ?_ full
  intro config action member replaces full
  exact full_act replaces (unsupplied action member) full

theorem vacant_act_iff {action : Action} (unsupplied : action.supply? target.name = none)
    (vacant : config.get? target.name = none) :
    (config.act action).get? target.name = none ↔
      ∀ environment, action = .validate environment → ¬ config.Fills field target environment := by
  by_cases validates : ∃ environment, action = .validate environment
  · obtain ⟨environment, rfl⟩ := validates
    simp only [Action.validate.injEq, forall_eq', ← fills_iff replaces vacant, not_not]
    rfl
  · rw [get?_act (List.mem_map_of_mem replaces.declared) (not_exists.mp validates), unsupplied,
      vacant]
    exact iff_of_true rfl fun environment same => absurd ⟨environment, same⟩ validates

/-- A target that nobody supplies stays vacant exactly while no validation fills it. -/
theorem vacant_run_iff {actions : List Action}
    (unsupplied : ∀ action ∈ actions, action.supply? target.name = none)
    (vacant : config.get? target.name = none) :
    (config.run actions).get? target.name = none ↔ config.LeavesVacant field target actions := by
  induction actions generalizing config with
  | nil =>
    apply iff_of_true vacant
    exact leavesVacant_iff.mpr not_validatesWhere_nil
  | cons action rest ih =>
    obtain ⟨here, unsupplied⟩ := List.forall_mem_cons.mp unsupplied
    have later_replaces : (config.act action).schema.Replaces field target := by
      rwa [act_schema]
    rw [leavesVacant_cons, ← vacant_act_iff replaces here vacant]
    by_cases empty : (config.act action).get? target.name = none
    · exact (ih later_replaces unsupplied empty).trans (iff_and_self.mpr fun _ => empty)
    · exact iff_of_false (full_run later_replaces unsupplied empty) fun both => empty both.1

theorem waiting_run {actions : List Action} {value : Setting}
    (own : config.get? field.name = some value) (vacant : config.get? target.name = none)
    (quiet : ∀ action ∈ actions, action.supply? field.name = none)
    (unsupplied : ∀ action ∈ actions, action.supply? target.name = none)
    (waits : ∀ action ∈ actions, ∀ environment, action ≠ .validate environment) :
    (config.run actions).get? field.name = some value ∧
      (config.run actions).get? target.name = none := by
  refine run_replacing replaces (fun config =>
    config.get? field.name = some value ∧ config.get? target.name = none) ?_ ⟨own, vacant⟩
  intro config action member replaces waiting
  rcases waiting with ⟨own, vacant⟩
  rw [get?_act (List.mem_map_of_mem replaces.member) (waits action member),
    get?_act (List.mem_map_of_mem replaces.declared) (waits action member), quiet action member,
    unsupplied action member]
  exact ⟨own, vacant⟩

end Vacancy

/-- Where the last value given to a deprecated field is found after a validation, if nobody
gives anything to its successor: there if no earlier validation filled the successor's slot,
still in the field's own slot otherwise. -/
theorem relocated_iff_vacant {schema : Schema} {field target : Field}
    (replaces : schema.Replaces field target) (base : Option Path) {earlier between : List Action}
    {supply : Action} {value : Setting} (given : supply.supply? field.name = some value)
    (present : value.isNull = false)
    (unsupplied : ∀ action ∈ earlier ++ supply :: between, action.supply? target.name = none)
    (latest : ∀ action ∈ between, action.supply? field.name = none) (environment : Environment) :
    let before := (fresh schema base).run (earlier ++ supply :: between)
    let validated := (before.validate environment).config
    ((fresh schema base).LeavesVacant field target earlier →
        validated.get? field.name = none ∧
          ∃ held, validated.get? target.name = some held ∧ target.Settles value held) ∧
      ((fresh schema base).LeavesVacant field target earlier →
        (∀ action ∈ between, ∀ environment, action ≠ .validate environment) →
          validated.get? target.name =
            some (target.outcome environment (before.baseDir environment) value)) ∧
      (¬ (fresh schema base).LeavesVacant field target earlier →
        validated.get? field.name ≠ none) := by
  have shape : (fresh schema base).schema.Replaces field target := replaces
  have fresh_vacant : (fresh schema base).get? target.name = none := rfl
  obtain ⟨here, later⟩ := List.forall_mem_append.mp unsupplied
  obtain ⟨not_supplied, later⟩ := List.forall_mem_cons.mp later
  rw [← vacant_run_iff shape here fresh_vacant]
  have split : (fresh schema base).run (earlier ++ supply :: between) =
      (((fresh schema base).run earlier).act supply).run between := List.foldl_append
  rw [split]
  have replaces : ((fresh schema base).run earlier).schema.Replaces field target := by
    rwa [run_schema]
  generalize (fresh schema base).run earlier = config at *
  obtain ⟨own, successor⟩ := act_supplied replaces given not_supplied
  rw [← successor]
  have replaces : (config.act supply).schema.Replaces field target := by rwa [act_schema]
  generalize config.act supply = config at *
  have shape : (config.run between).schema.Replaces field target := by rwa [run_schema]
  refine ⟨fun vacant => ?_, fun vacant waits => ?_, fun full => ?_⟩
  · have carries := Carries.run replaces present (.inl ⟨own, vacant⟩) latest later
    exact carries.validate shape present environment
  · obtain ⟨waiting, vacant⟩ := waiting_run replaces own vacant latest later waits
    exact slot_of_waiting shape waiting vacant present environment
  · have taken : config.get? field.name ≠ none := own ▸ Option.some_ne_none value
    obtain ⟨own, full⟩ := stuck_run replaces taken full latest later
    have stuck : (Action.validate environment).supply? field.name = none := rfl
    exact (stuck_act shape own full stuck rfl).1

end Config

def Field.old : Field := ⟨"old", .deprecated ⟨some "new", none⟩ none, none, false⟩

def Field.new : Field := ⟨"new", .type .text none, none, false⟩

def Schema.successive : Schema := ⟨[.old, .new], false⟩

theorem Schema.successive_replaces : successive.Replaces .old .new where
  distinct := by decide
  member := by simp [successive]
  declared := by simp [successive]
  apart := by decide
  moves := rfl
  plain := rfl
  current := trivial
  alone := by simp [successive, Field.new, Rule.successor?]
  unmoved := by simp [successive, Field.old, Field.new, Rule.successor?]

theorem Config.moved_after_validation :
    let before := (fresh .successive none).run
      [.validate .bare, .load (.ofMembers [("old", .text "a")]), .load .null]
    (fresh .successive none).LeavesVacant .old .new [.validate .bare] ∧
      (before.validate .bare).config.get? "old" = none ∧
      (before.validate .bare).config.get? "new" =
        some (Field.new.outcome .bare (before.baseDir .bare) (.data (.text "a"))) := by
  intro before
  have vacant : (fresh .successive none).LeavesVacant .old .new [.validate .bare] := by
    intro first environment rest split
    obtain ⟨rfl, same⟩ | ⟨_, _, tail⟩ := List.cons_eq_append_iff.mp split
    · cases same
      intro fills
      rcases fills with filled | defaulted
      · exact filled unset_none
      · exact defaulted rfl
    · simp at tail
  have supplied : (Action.load (.ofMembers [("old", .text "a")])).supply? Field.old.name =
      some (.data (.text "a")) := rfl
  have others : ∀ action ∈ [Action.validate .bare] ++
      .load (.ofMembers [("old", .text "a")]) :: [.load .null],
      action.supply? Field.new.name = none := by
    simp only [List.cons_append, List.nil_append, List.forall_mem_cons]
    exact ⟨rfl, rfl, rfl, List.forall_mem_nil _⟩
  have latest : ∀ action ∈ [Action.load .null], action.supply? Field.old.name = none := by
    simp only [List.forall_mem_cons]
    exact ⟨rfl, List.forall_mem_nil _⟩
  obtain ⟨moved, once, _⟩ := relocated_iff_vacant Schema.successive_replaces none supplied rfl
    others latest .bare
  exact ⟨vacant, (moved vacant).1, once vacant (by simp)⟩

/-- A second value stays where it was given, since the first one took its place. -/
theorem Config.second_value_stays :
    let before := (fresh .successive none).run
      [.load (.ofMembers [("old", .text "a")]), .validate .bare,
        .load (.ofMembers [("old", .text "b")])]
    Schema.successive.Replaces .old .new ∧
      (before.validate .bare).config.text? "old" = some "b" ∧
      (before.validate .bare).config.text? "new" = some "a" :=
  ⟨Schema.successive_replaces, by decide +kernel, by decide +kernel⟩

end SiteSettings
