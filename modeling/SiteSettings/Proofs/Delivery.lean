import SiteSettings.Proofs.Admission
import SiteSettings.Proofs.Legacy

/-! Slots of keys that no field declares. Loads and sets never fill one, but a deprecated field
moves its value to its successor whether or not the schema declares that. What stands in such a
slot is not written out. -/

namespace SiteSettings

namespace Rule

variable {rule : Rule} {key other : String} {slots : OrderedMap Setting}

/-- A field's turn fills the slot of another key only if that is its successor, was empty, and
the field has a value to move. -/
theorem prepare_get?_other (apart : other ≠ key) :
    (rule.prepare key slots).slots.get? other =
      (slots.get? other).or
        (if rule.successor? = some other then
          (slots.get? key).filter fun setting => !setting.isNull
        else none) := by
  cases full : slots.get? other with
  | some setting => exact (prepare_shifts ..).get?_filled apart full
  | none =>
    rw [Option.none_or]
    split
    next into =>
      cases rule with
      | deprecated notice inner =>
        cases held : slots.get? key with
        | none =>
          simp only [prepare, held]
          exact full
        | some value =>
          cases present : value.isNull with
          | true =>
            simp only [prepare, held, present, if_true, Option.filter_some, Bool.not_true,
              Bool.false_eq_true, if_false]
            exact full
          | false =>
            rw [prepare_moves into apart held present full, OrderedMap.get?_insert_self,
              Option.filter_some, present]
            rfl
      | _ => cases into
    next elsewhere => rw [(prepare_shifts ..).get?_other apart elsewhere, full]

end Rule

/-- What the fields, the last declared one first, move into an empty slot: the first value that
a field with this successor has at its turn, be it its own or one that was moved to it. -/
def Field.delivery? (slots : OrderedMap Setting) : List Field → String → Option Setting
  | [], _ => none
  | last :: earlier, key =>
    (delivery? slots earlier key).or
      (if last.rule.successor? = some key then
        ((slots.get? last.name).or (delivery? slots earlier last.name)).filter
          fun setting => !setting.isNull
      else none)

def Schema.delivery? (schema : Schema) (slots : OrderedMap Setting) (key : String) :
    Option Setting :=
  Field.delivery? slots schema.fields.reverse key

namespace Field

variable {slots : OrderedMap Setting} {fields : List Field} {key : String}

theorem foldr_prepareField_get? (distinct : (fields.map Field.name).Nodup)
    (other : key ∉ fields.map Field.name) (pass : Pass) :
    (fields.foldr (fun field pass => pass.prepareField field) pass).slots.get? key =
      (pass.slots.get? key).or (delivery? pass.slots fields key) := by
  induction fields generalizing key with
  | nil => exact Option.or_none.symm
  | cons last earlier ih =>
    obtain ⟨fresh, distinct⟩ := List.nodup_cons.mp distinct
    simp only [List.map_cons, List.mem_cons, not_or] at other
    -- The earlier fields may also have filled the slot that the last one moves.
    rw [List.foldr_cons, Pass.prepareField_slots, preparation, Rule.prepare_get?_other other.1,
      ih distinct other.2, ih distinct fresh, delivery?, Option.or_assoc]

theorem successor_of_delivery (delivered : delivery? slots fields key ≠ none) :
    ∃ field ∈ fields, field.rule.successor? = some key := by
  induction fields with
  | nil => exact absurd rfl delivered
  | cons last earlier ih =>
    by_cases into : last.rule.successor? = some key
    · exact ⟨last, List.mem_cons_self, into⟩
    · rw [delivery?, if_neg into, Option.or_none] at delivered
      obtain ⟨field, inside, into⟩ := ih delivered
      exact ⟨field, List.mem_cons_of_mem _ inside, into⟩

theorem delivery_of_filled {field : Field} (member : field ∈ fields)
    (into : field.rule.successor? = some key) {setting : Setting}
    (held : slots.get? field.name = some setting) (present : setting.isNull = false) :
    delivery? slots fields key ≠ none := by
  induction fields with
  | nil => cases member
  | cons last earlier ih =>
    rw [delivery?]
    cases List.mem_cons.mp member with
    | inl same =>
      subst same
      rw [if_pos into, held, Option.some_or, Option.filter_some, present]
      simp
    | inr inside =>
      obtain ⟨value, moved⟩ := Option.ne_none_iff_exists'.mp (ih inside)
      rw [moved]
      exact Option.some_ne_none value

end Field

namespace Config

section Undeclared

variable {config : Config} (distinct : config.schema.names.Nodup) {key : String}
  (other : key ∉ config.schema.names)

include distinct other in
theorem validate_undeclared (environment : Environment) :
    (config.validate environment).config.get? key =
      (config.get? key).or (config.schema.delivery? config.slots key) := by
  have apart : key ∉ config.schema.fields.reverse.map Field.name := by
    rwa [List.map_reverse, List.mem_reverse]
  have reversed : (config.schema.fields.reverse.map Field.name).Nodup := by
    rw [List.map_reverse, List.nodup_reverse]
    exact distinct
  have turns := Field.foldr_prepareField_get? reversed apart (config.opened environment)
  rw [List.foldr_reverse] at turns
  rw [validate_slot_of_not_mem other]
  exact turns

include other in
theorem get?_act_undeclared {action : Action} (waits : ∀ environment, action ≠ .validate environment) :
    (config.act action).get? key = config.get? key := by
  cases action with
  | load document =>
    cases document with
    | object members =>
      refine (config.get?_loadMembers members key).trans ?_
      rw [if_neg other, Option.none_or]
    | _ => rfl
  | set name setting resolved =>
    simp only [act, set?]
    split
    next declared =>
      refine OrderedMap.get?_insert_of_ne _ _ ?_
      rintro rfl
      exact other (Schema.declares_iff.mp declared)
    next => rfl
  | validate environment => exact absurd rfl (waits environment)

include distinct other

theorem undeclared_act_iff (action : Action) :
    (config.act action).get? key ≠ none ↔
      config.get? key ≠ none ∨ ∃ environment, action = .validate environment ∧
        config.schema.delivery? config.slots key ≠ none := by
  by_cases validates : ∃ environment, action = .validate environment
  · obtain ⟨environment, rfl⟩ := validates
    show (config.validate environment).config.get? key ≠ none ↔ _
    rw [validate_undeclared distinct other, Ne, Option.or_eq_none_iff, not_and_or]
    simp only [Action.validate.injEq, exists_eq_left', Ne]
  · rw [get?_act_undeclared other (not_exists.mp validates)]
    refine (or_iff_left fun delivers => ?_).symm
    obtain ⟨environment, same, _⟩ := delivers
    exact validates ⟨environment, same⟩

/-- A slot that no field declares is filled once a validation delivers to it, for good. -/
theorem undeclared_run_iff (actions : List Action) :
    (config.run actions).get? key ≠ none ↔
      config.get? key ≠ none ∨ config.ValidatesWhere actions fun before _ =>
        config.schema.delivery? before.slots key ≠ none := by
  induction actions generalizing config with
  | nil => simp [not_validatesWhere_nil, run]
  | cons action rest ih =>
    have later := @ih (config.act action) (by rwa [act_schema]) (by rwa [act_schema])
    rw [act_schema] at later
    rw [validatesWhere_cons, ← or_assoc, ← undeclared_act_iff distinct other]
    exact later

end Undeclared

/-- Written out are the slots of the declared keys, and beside them what was loaded for others. -/
theorem get?_written {config : Config} (distinct : config.schema.names.Nodup) (tidy : config.Tidy)
    (key : String) :
    config.toMembers.get? key =
      if key ∈ config.schema.names then (config.get? key).map Setting.toValue
      else config.extras.get? key := by
  split
  next declared => exact get?_toMembers distinct tidy declared
  next other =>
    have undeclared : config.declaredMembers.get? key = none := by
      rw [get?_declaredMembers, if_neg other]
    show ((OrderedMap.ofList config.declaredMembers.entries).merge config.extras).get? key = _
    rw [OrderedMap.ofList_entries (nodup_declaredMembers distinct), OrderedMap.get?_merge,
      OrderedMap.ofList_entries tidy.distinct, undeclared, Option.or_none]

theorem Tidy.act {config : Config} (tidy : config.Tidy) (action : Action) : (config.act action).Tidy := by
  cases action with
  | load document =>
    cases document with
    | object members => exact tidy.loadMembers members
    | _ => exact tidy
  | set key setting resolved =>
    simp only [Config.act, set?]
    split
    · exact ⟨tidy.distinct, tidy.undeclared⟩
    · exact tidy
  | validate environment => exact tidy.validate environment

theorem Reachable.tidy {schema : Schema} {config : Config} (reachable : config.Reachable schema) :
    config.Tidy :=
  reachable.induction Tidy (fun _ action tidy => tidy.act action)
    fun _ => ⟨(tidy_new schema).distinct, (tidy_new schema).undeclared⟩

/-- A declared field whose successor is not declared delivers to it at the next validation. -/
theorem delivers_undeclared {schema : Schema} (distinct : schema.names.Nodup) {field : Field}
    (member : field ∈ schema.fields) {target : String}
    (moves : field.rule.successor? = some target) (other : target ∉ schema.names) :
    ((fresh schema none).run [.load (.ofMembers [(field.name, .text "")]), .validate .bare]).get?
      target ≠ none := by
  rw [undeclared_run_iff distinct other]
  refine .inr ⟨[.load (.ofMembers [(field.name, .text "")])], .bare, [], rfl, ?_⟩
  have loaded : ((fresh schema none).loadMembers (.ofList [(field.name, .text "")])).get?
      field.name = some (.data (.text "")) := by
    rw [get?_loaded (List.mem_map_of_mem member)]
    simp [OrderedMap.ofList, OrderedMap.merge, OrderedMap.empty, OrderedMap.insert,
      OrderedMap.insert.go, OrderedMap.get?, OrderedMap.get?.go]
  exact Field.delivery_of_filled (List.mem_reverse.mpr member) moves loaded rfl

/-- When a key that no field declares has a slot after a run: when some validation found a
value to move to it. What is written out has nothing of such a slot. So all that a schema's
configurations hold is written out exactly if the schema declares every successor. -/
theorem undeclared_slot_iff {schema : Schema} (distinct : schema.names.Nodup) :
    (∀ base actions,
      let config := (fresh schema base).run actions
      (∀ key ∉ schema.names, config.get? key ≠ none ↔
        (fresh schema base).ValidatesWhere actions fun before _ =>
          schema.delivery? before.slots key ≠ none) ∧
      ∀ key, config.toMembers.get? key =
        if key ∈ schema.names then (config.get? key).map Setting.toValue
        else config.extras.get? key) ∧
    ((∀ base actions key, ((fresh schema base).run actions).get? key ≠ none → key ∈ schema.names) ↔
      ∀ field ∈ schema.fields, ∀ target, field.rule.successor? = some target →
        target ∈ schema.names) := by
  have filled_iff (base : Option Path) (actions : List Action) {key : String}
      (other : key ∉ schema.names) : ((fresh schema base).run actions).get? key ≠ none ↔
        (fresh schema base).ValidatesWhere actions fun before _ =>
          schema.delivery? before.slots key ≠ none := by
    have run := @undeclared_run_iff (fresh schema base) distinct key other actions
    have empty : ¬ (fresh schema base).get? key ≠ none := not_not.mpr rfl
    rwa [or_iff_right empty] at run
  refine ⟨fun base actions => ⟨fun key other => filled_iff base actions other, ?_⟩, ?_, ?_⟩
  · have reachable : ((fresh schema base).run actions).Reachable schema := ⟨base, actions, rfl⟩
    have same := reachable.schema_eq
    have distinct_here : ((fresh schema base).run actions).schema.names.Nodup := by
      rwa [same]
    intro key
    rw [get?_written distinct_here reachable.tidy, same]
  · intro kept field member target moves
    by_contra other
    exact other (kept _ _ _ (delivers_undeclared distinct member moves other))
  · intro declared base actions key filled
    by_contra other
    obtain ⟨_, _, _, _, delivered⟩ := (filled_iff base actions other).mp filled
    obtain ⟨field, inside, moves⟩ := Field.successor_of_delivery delivered
    exact other (declared field (List.mem_reverse.mp inside) key moves)

end Config

def Schema.orphaning : Schema := ⟨[⟨"old", .deprecated ⟨some "new", none⟩ none, none, false⟩], false⟩

/-- Null stays where it is, and the text that follows it is delivered. -/
theorem Config.orphan_delivered :
    let actions := [Action.load (.ofMembers [("old", .null)]), .validate .bare,
      .load (.ofMembers [("old", .text "a")]), .validate .bare]
    let config := (fresh .orphaning none).run actions
    Schema.orphaning.names.Nodup ∧ config.get? "new" ≠ none ∧
      config.toMembers.get? "new" = none := by
  intro actions config
  have distinct : Schema.orphaning.names.Nodup := by decide
  have other : "new" ∉ Schema.orphaning.names := by decide
  obtain ⟨filled, written⟩ := (undeclared_slot_iff distinct).1 none actions
  refine ⟨distinct, (filled "new" other).mpr ?_, ?_⟩
  · exact ⟨[.load (.ofMembers [("old", .null)]), .validate .bare,
      .load (.ofMembers [("old", .text "a")])], .bare, [], rfl, by decide +kernel⟩
  · rw [written "new", if_neg other]
    rfl

/-- The text is in a slot, and nothing of it is written out. -/
theorem Config.orphan_hidden :
    let config := (fresh .orphaning none).run
      [.load (.ofMembers [("old", .text "a")]), .validate .bare]
    "new" ∉ Schema.orphaning.names ∧ config.text? "new" = some "a" ∧
      config.toMembers.get? "new" = none :=
  ⟨by decide, by decide +kernel, by decide +kernel⟩

end SiteSettings
