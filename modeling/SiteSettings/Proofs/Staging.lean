import SiteSettings.Proofs.Agreement
import SiteSettings.Proofs.Relocation

/-! Which fields count as staged. Loads and sets stage what they supply, and nothing is
ever unstaged where nothing moves. But a validation stages the defaults that it could
coerce, and from then on they cannot be told from what a user supplied. -/

namespace SiteSettings

namespace Field

def Defaults (field : Field) (environment : Environment) (base : Path) : Prop :=
  ∃ value coerced, field.default = some value ∧
    (field.rule.coerce (field.context environment base) (.data value)).result = .ok coerced

variable {field : Field} {environment : Environment} {base : Path}

theorem not_defaults_of_no_default (plain : field.default = none) :
    ¬ field.Defaults environment base := by
  intro defaults
  obtain ⟨value, _, default, _⟩ := defaults
  cases plain.symm.trans default

/-- A verdict keeps a slot filled, and fills an empty one with the default only. -/
theorem verdict_filled_iff {slot : Option Setting} :
    (field.verdict environment base slot).slot.isSome = true ↔
      slot.isSome = true ∨ field.Defaults environment base := by
  cases slot with
  | some setting =>
    apply iff_of_true _ (.inl rfl)
    apply Option.isSome_iff_ne_none.mpr
    intro empty
    cases slot_eq_none empty
  | none =>
    rw [Option.isSome_none, or_iff_right Bool.false_ne_true]
    cases default : field.default with
    | none =>
      have source : field.source? none = none := by rw [source?, default]; rfl
      rw [verdict_of_no_source source]
      exact iff_of_false Bool.false_ne_true (not_defaults_of_no_default default)
    | some value =>
      have source : field.source? none = some (.data value) := by rw [source?, default]; rfl
      rw [verdict_of_source source, Verdict.ofCoercion]
      cases done : (field.rule.coerce (field.context environment base) (.data value)).result with
      | ok coerced => exact iff_of_true rfl ⟨value, coerced, default, done⟩
      | error problem =>
        apply iff_of_false Bool.false_ne_true
        intro defaults
        obtain ⟨other, coerced, same, accepted⟩ := defaults
        cases default.symm.trans same
        cases done.symm.trans accepted

theorem verdict_slot_eq_none_iff (plain : field.default = none) {slot : Option Setting} :
    (field.verdict environment base slot).slot = none ↔ slot = none := by
  rw [← Option.not_isSome_iff_eq_none, ← Option.not_isSome_iff_eq_none, verdict_filled_iff,
    or_iff_left (not_defaults_of_no_default plain)]

end Field

namespace Config

section Steps

variable {config : Config} (distinct : config.schema.names.Nodup) (still : config.Still)
  {field : Field} (member : field ∈ config.schema.fields)

include distinct still member

theorem isStaged_validate_iff (environment : Environment) :
    (config.validate environment).config.isStaged field.name = true ↔
      config.isStaged field.name = true ∨
        field.Defaults environment (config.baseDir environment) := by
  show ((config.validate environment).config.get? field.name).isSome = true ↔
    (config.get? field.name).isSome = true ∨ _
  rw [validate_slot distinct member, verdict_still still, Field.verdict_filled_iff]

theorem isStaged_act_iff (action : Action) :
    (config.act action).isStaged field.name = true ↔
      config.isStaged field.name = true ∨ (action.supply? field.name).isSome = true ∨
        ∃ environment, action = .validate environment ∧
          field.Defaults environment (config.baseDir environment) := by
  by_cases validates : ∃ environment, action = .validate environment
  · obtain ⟨environment, rfl⟩ := validates
    simp only [Action.supply?, Option.isSome_none, Bool.false_eq_true, false_or,
      Action.validate.injEq, exists_eq_left']
    exact isStaged_validate_iff distinct still member environment
  · have supplies := not_exists.mp validates
    have quiet : ¬ ∃ environment, action = .validate environment ∧
        field.Defaults environment (config.baseDir environment) := by
      intro fills
      obtain ⟨environment, same, _⟩ := fills
      exact supplies environment same
    show ((config.act action).get? field.name).isSome = true ↔
      (config.get? field.name).isSome = true ∨ _
    rw [get?_act (List.mem_map_of_mem member) supplies, or_iff_left quiet, Option.isSome_or,
      Bool.or_eq_true, or_comm]

theorem isStaged_run_iff (actions : List Action) :
    (config.run actions).isStaged field.name = true ↔
      config.isStaged field.name = true ∨
        (∃ action ∈ actions, (action.supply? field.name).isSome = true) ∨
        config.ValidatesWhere actions fun before environment =>
          field.Defaults environment (before.baseDir environment) := by
  induction actions generalizing config with
  | nil => simp [not_validatesWhere_nil, run]
  | cons action rest ih =>
    have later := @ih (config.act action) (by rwa [act_schema])
      (by rwa [Still, act_schema]) (by rwa [act_schema])
    -- The reasons that the first action gives go in front of those that the rest gives.
    apply later.trans
    rw [isStaged_act_iff distinct still member, validatesWhere_cons, List.exists_mem_cons_iff,
      or_assoc, or_or_or_comm]

end Steps

/-- A declared field counts as staged once a load or a set supplied it, as it should, but also
once a validation found a default for it. So one more validation changes whether it counts as
staged exactly if it does not yet and has a default that its rule accepts. -/
theorem isStaged_iff_supplied_or_defaulted {schema : Schema} (distinct : schema.names.Nodup)
    (still : ∀ field ∈ schema.fields, field.rule.successor? = none) (base : Option Path)
    (actions : List Action) {field : Field} (member : field ∈ schema.fields) :
    let config := (fresh schema base).run actions
    let supplied := ∃ action ∈ actions, (action.supply? field.name).isSome = true
    (config.isStaged field.name = true ↔
        supplied ∨ (fresh schema base).ValidatesWhere actions fun before environment =>
          field.Defaults environment (before.baseDir environment)) ∧
      (∀ environment, (config.validate environment).config.isStaged field.name ≠
          config.isStaged field.name ↔
        config.isStaged field.name = false ∧
          field.Defaults environment (config.baseDir environment)) ∧
      (field.default = none → (config.isStaged field.name = true ↔ supplied)) := by
  intro config supplied
  have start : ¬ (fresh schema base).isStaged field.name = true := Bool.false_ne_true
  have staged := @isStaged_run_iff (fresh schema base) distinct still field member actions
  rw [or_iff_right start] at staged
  have same : config.schema = schema := run_schema _ actions
  refine ⟨staged, ?_, ?_⟩
  · intro environment
    have step := @isStaged_validate_iff config (by rwa [same]) (by rwa [Still, same]) field
      (by rwa [same]) environment
    cases before : config.isStaged field.name with
    | true => simp [before, step]
    | false => simp [before, step]
  · intro plain
    apply staged.trans
    apply or_iff_left
    intro validates
    obtain ⟨_, _, _, _, defaults⟩ := validates
    exact Field.not_defaults_of_no_default plain defaults

end Config

def Field.language : Field := ⟨"lang", .type .text none, some (.text "en"), false⟩

def Schema.spoken : Schema := ⟨[.language], false⟩

theorem Schema.spoken_distinct : spoken.names.Nodup := by decide

theorem Schema.spoken_still : ∀ field ∈ spoken.fields, field.rule.successor? = none := by
  simp [spoken, Field.language, Rule.successor?]

theorem Config.language_staged :
    let actions := [.load (.ofMembers [("speech", .null)]), Action.validate .bare, .load .null]
    Schema.spoken.names.Nodup ∧
      (∀ field ∈ Schema.spoken.fields, field.rule.successor? = none) ∧
      Field.language ∈ Schema.spoken.fields ∧
      ((fresh .spoken none).run actions).isStaged "lang" = true := by
  intro actions
  have member : Field.language ∈ Schema.spoken.fields := by simp [Schema.spoken]
  obtain ⟨staged, _⟩ := isStaged_iff_supplied_or_defaulted Schema.spoken_distinct
    Schema.spoken_still none actions member
  refine ⟨Schema.spoken_distinct, Schema.spoken_still, member, staged.mpr (.inr ?_)⟩
  refine ⟨[.load (.ofMembers [("speech", .null)])], .bare, [.load .null], rfl, ?_⟩
  exact ⟨.text "en", .data (.text "en"), rfl, rfl⟩

/-- A default counts as staged after validation, although nobody supplied it. -/
theorem Config.default_counts :
    let actions := [Action.validate .bare]
    (∀ field ∈ Schema.spoken.fields, field.rule.successor? = none) ∧
      (∀ action ∈ actions, action.supply? "lang" = none) ∧
      (fresh .spoken none).isStaged "lang" = false ∧
      ((fresh .spoken none).run actions).isStaged "lang" = true := by
  refine ⟨Schema.spoken_still, ?_, by decide +kernel, by decide +kernel⟩
  simp only [List.forall_mem_cons]
  exact ⟨rfl, List.forall_mem_nil _⟩

end SiteSettings
