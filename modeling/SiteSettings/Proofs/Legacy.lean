import SiteSettings.Proofs.Phases

/-! The legacy phase, key by key. A legacy field touches its own slot and that of its
successor; it is idle when it finds nothing to complain about and nothing to move. -/

namespace SiteSettings

namespace Rule

/-- Where a value for the rule's field goes. -/
def successor? : Rule → Option String
  | .deprecated notice _ => notice.movedTo
  | _ => none

/-- A rule that is neither removed nor deprecated. -/
def Current (rule : Rule) : Prop :=
  match rule with
  | .removed _ | .deprecated _ _ => False
  | _ => True

def Idle (rule : Rule) (key : String) (slots : OrderedMap Setting) : Prop :=
  match rule with
  | .removed _ => slots.get? key = none
  | .deprecated notice _ =>
    Unset (slots.get? key) ∨
      ∀ target, notice.movedTo = some target → target = key ∨ slots.contains target = true
  | _ => True

/-- What the turn of a field makes of the slots: its value goes to the field's successor or back
to its own slot, which is empty by then, unless it is null. -/
inductive Shifts (rule : Rule) (key : String) (slots : OrderedMap Setting) :
    OrderedMap Setting → Prop where
  | still : Shifts rule key slots slots
  | moved {value : Setting} {into : String} (held : slots.get? key = some value)
      (present : value.isNull = false) (goal : into = key ∨ rule.successor? = some into)
      (vacant : (slots.erase key).get? into = none) :
      Shifts rule key slots ((slots.erase key).insert into value)

variable {slots other : OrderedMap Setting} {key : String}

theorem prepare_of_current {rule : Rule} (current : rule.Current) (key : String)
    (slots : OrderedMap Setting) : rule.prepare key slots = ⟨slots, [], none⟩ := by
  cases rule with
  | removed notice | deprecated notice inner => exact current.elim
  | _ => rfl

theorem contains_congr (same : slots.get? key = other.get? key) :
    slots.contains key = other.contains key := by
  simp only [OrderedMap.contains, same]

theorem prepare_says_congr (rule : Rule) (same : slots.get? key = other.get? key) :
    (rule.prepare key slots).problem = (rule.prepare key other).problem ∧
      (rule.prepare key slots).warnings = (rule.prepare key other).warnings := by
  cases rule with
  | removed notice =>
    simp only [prepare, contains_congr same]
    split <;> exact ⟨rfl, rfl⟩
  | deprecated notice inner =>
    simp only [prepare, same]
    cases other.get? key with
    | none => exact ⟨rfl, rfl⟩
    | some value =>
      simp only
      split <;> exact ⟨rfl, rfl⟩
  | _ => exact ⟨rfl, rfl⟩

/-- A value that is taken out is put into a slot that is empty then. -/
theorem moveValue_goal (target : Option String) (key : String) (value : Setting)
    (slots : OrderedMap Setting) :
    ∃ into, (into = key ∨ target = some into) ∧ (slots.erase key).get? into = none ∧
      moveValue target key value slots = (slots.erase key).insert into value := by
  have back : (slots.erase key).get? key = none := by
    rw [OrderedMap.get?_erase, if_pos rfl]
  cases target with
  | none => exact ⟨key, .inl rfl, back, rfl⟩
  | some successor =>
    simp only [moveValue]
    split
    next => exact ⟨key, .inl rfl, back, rfl⟩
    next vacant =>
      rw [Bool.not_eq_true, OrderedMap.contains_eq_false_iff] at vacant
      exact ⟨successor, .inr rfl, vacant, rfl⟩

theorem prepare_shifts (rule : Rule) (key : String) (slots : OrderedMap Setting) :
    rule.Shifts key slots (rule.prepare key slots).slots := by
  cases rule with
  | removed notice =>
    simp only [prepare]
    split <;> exact .still
  | deprecated notice inner =>
    simp only [prepare]
    cases held : slots.get? key with
    | none => exact .still
    | some value =>
      simp only
      split
      next => exact .still
      next filled =>
        obtain ⟨into, goal, vacant, moved⟩ := moveValue_goal notice.movedTo key value slots
        rw [moved]
        exact .moved held (eq_false_of_ne_true filled) goal vacant
  | _ => exact .still

namespace Shifts

variable {rule : Rule} {after : OrderedMap Setting} {asked : String}
  (shifts : rule.Shifts key slots after)

include shifts

/-- The legacy phase makes up no values. -/
theorem source {setting : Setting} (found : after.get? asked = some setting) :
    ∃ source, slots.get? source = some setting := by
  cases shifts with
  | still => exact ⟨asked, found⟩
  | moved held =>
    rw [OrderedMap.get?_insert, OrderedMap.get?_erase] at found
    split at found
    · exact ⟨key, held.trans found⟩
    · split at found
      · cases found
      · exact ⟨asked, found⟩

theorem get?_other (apart : asked ≠ key) (unmoved : rule.successor? ≠ some asked) :
    after.get? asked = slots.get? asked := by
  cases shifts with
  | still => rfl
  | @moved value into held present goal vacant =>
    have elsewhere : asked ≠ into := by
      rintro rfl
      exact unmoved (goal.resolve_left apart)
    rw [OrderedMap.get?_insert_of_ne _ _ elsewhere, OrderedMap.get?_erase, if_neg apart]

/-- A value that finds no empty slot to go to is put back. -/
theorem alike_of_blocked
    (blocked : ∀ target, rule.successor? = some target →
      target = key ∨ slots.contains target = true) :
    after.Alike slots := by
  cases shifts with
  | still => exact .refl slots
  | @moved value into held present goal vacant =>
    have back : into = key := by
      by_contra apart
      rw [OrderedMap.get?_erase, if_neg apart, ← OrderedMap.contains_eq_false_iff] at vacant
      have occupied := (blocked into (goal.resolve_left apart)).resolve_left apart
      exact Bool.false_ne_true (vacant.symm.trans occupied)
    rw [back]
    exact OrderedMap.alike_insert_erase held

theorem alike_of_unset (unset : Unset (slots.get? key)) : after.Alike slots := by
  cases shifts with
  | still => exact .refl slots
  | moved held present =>
    rw [unset _ held] at present
    cases present

/-- No value is put over another one. -/
theorem get?_filled (apart : asked ≠ key) {setting : Setting}
    (full : slots.get? asked = some setting) : after.get? asked = some setting := by
  cases shifts with
  | still => exact full
  | @moved value into held present goal vacant =>
    have elsewhere : asked ≠ into := by
      rintro rfl
      rw [OrderedMap.get?_erase, if_neg apart, full] at vacant
      cases vacant
    rw [OrderedMap.get?_insert_of_ne _ _ elsewhere, OrderedMap.get?_erase, if_neg apart, full]

/-- Only a field that moves can empty a slot, and only its own. -/
theorem contains (stays : asked = key → rule.successor? = none)
    (full : slots.contains asked = true) : after.contains asked = true := by
  cases shifts with
  | still => exact full
  | @moved value into held present goal vacant =>
    rw [OrderedMap.contains, OrderedMap.get?_insert, OrderedMap.get?_erase]
    split
    next => rfl
    next elsewhere =>
      have apart : asked ≠ key := by
        intro own
        rw [stays own] at goal
        obtain back | moved := goal
        · exact elsewhere (own.trans back.symm)
        · cases moved
      rwa [if_neg apart]

end Shifts

theorem Idle.congr {rule : Rule} (alike : slots.Alike other) (idle : rule.Idle key other) :
    rule.Idle key slots := by
  cases rule with
  | removed notice => exact (alike key).trans idle
  | deprecated notice inner =>
    obtain unset | blocked := idle
    · exact .inl (alike key ▸ unset)
    · exact .inr fun target moved => (blocked target moved).imp_right (alike.contains target).trans
  | _ => exact idle

/-- An idle field leaves everything as it is. -/
theorem prepare_of_idle {rule : Rule} (idle : rule.Idle key slots) :
    (rule.prepare key slots).problem = none ∧ (rule.prepare key slots).slots.Alike slots := by
  cases rule with
  | removed notice =>
    have absent : slots.contains key = false := OrderedMap.contains_eq_false_iff.mpr idle
    simp only [prepare, absent]
    exact ⟨rfl, .refl _⟩
  | deprecated notice inner =>
    constructor
    · simp only [prepare]
      split
      · rfl
      · split <;> rfl
    · obtain unset | blocked := idle
      · exact (prepare_shifts ..).alike_of_unset unset
      · exact (prepare_shifts ..).alike_of_blocked blocked
  | _ => exact ⟨rfl, .refl _⟩

theorem prepare_moves {notice : Notice} {inner : Option Rule} {target : String} {value : Setting}
    (moved : notice.movedTo = some target) (apart : target ≠ key)
    (held : slots.get? key = some value) (present : value.isNull = false)
    (vacant : slots.get? target = none) :
    (Rule.prepare (.deprecated notice inner) key slots).slots =
      (slots.erase key).insert target value := by
  have free : (slots.erase key).contains target = false := by
    rw [OrderedMap.contains_eq_false_iff, OrderedMap.get?_erase, if_neg apart, vacant]
  simp only [prepare, held, present, moveValue, moved, free]
  rfl

/-- After its turn a field that was set has a successor that is filled. -/
theorem contains_successor {notice : Notice} {inner : Option Rule} {target : String}
    (moved : notice.movedTo = some target) (apart : target ≠ key)
    (filled : ¬ Unset (slots.get? key)) :
    (Rule.prepare (.deprecated notice inner) key slots).slots.contains target = true := by
  cases full : slots.get? target with
  | some setting =>
    exact (prepare_shifts ..).contains (fun same => absurd same apart)
      (by simp [OrderedMap.contains, full])
  | none =>
    obtain ⟨value, held, present⟩ := exists_of_not_unset filled
    rw [prepare_moves moved apart held present full]
    simp [OrderedMap.contains]

end Rule

namespace Pass

variable {fields : List Field} {pass : Pass} {slots : OrderedMap Setting}

theorem shifts_prepareField (pass : Pass) (field : Field) :
    field.rule.Shifts field.name pass.slots (pass.prepareField field).slots := by
  rw [prepareField_slots]
  exact field.rule.prepare_shifts field.name pass.slots

theorem prepareFields_source {key : String} {setting : Setting}
    (found : (fields.foldl prepareField pass).slots.get? key = some setting) :
    ∃ source, pass.slots.get? source = some setting := by
  induction fields generalizing pass with
  | nil => exact ⟨key, found⟩
  | cons field rest ih =>
    obtain ⟨later, held⟩ := ih found
    exact (pass.shifts_prepareField field).source held

theorem prepareFields_of_idle (alike : pass.slots.Alike slots)
    (idle : ∀ field ∈ fields, field.rule.Idle field.name slots) :
    (fields.foldl prepareField pass).slots.Alike slots ∧
      (pass.Clean → (fields.foldl prepareField pass).Clean) := by
  induction fields generalizing pass with
  | nil => exact ⟨alike, id⟩
  | cons field rest ih =>
    obtain ⟨here, later⟩ := List.forall_mem_cons.mp idle
    obtain ⟨clean, stays⟩ := Rule.prepare_of_idle (here.congr alike)
    have settled : (pass.prepareField field).slots.Alike slots := by
      rw [prepareField_slots]
      exact stays.trans alike
    obtain ⟨after, faultless⟩ := ih settled later
    exact ⟨after, fun start =>
      faultless (((pass.adds_prepareField field).clean_iff).mpr ⟨start, clean⟩)⟩

theorem prepareFields_other {key : String}
    (apart : ∀ field ∈ fields,
      field.rule.Current ∨ key ≠ field.name ∧ field.rule.successor? ≠ some key) :
    (fields.foldl prepareField pass).slots.get? key = pass.slots.get? key := by
  induction fields generalizing pass with
  | nil => rfl
  | cons field rest ih =>
    obtain ⟨here, later⟩ := List.forall_mem_cons.mp apart
    rw [List.foldl_cons, ih later]
    obtain current | ⟨other, unmoved⟩ := here
    · rw [prepareField_slots, Field.preparation, Rule.prepare_of_current current]
    · exact (pass.shifts_prepareField field).get?_other other unmoved

theorem contains_prepareFields {key : String}
    (stays : ∀ field ∈ fields, key = field.name → field.rule.successor? = none)
    (present : pass.slots.contains key = true) :
    (fields.foldl prepareField pass).slots.contains key = true := by
  induction fields generalizing pass with
  | nil => exact present
  | cons field rest ih =>
    obtain ⟨here, later⟩ := List.forall_mem_cons.mp stays
    exact ih later ((pass.shifts_prepareField field).contains here present)

section Turn

variable {before after : List Field} {field : Field} (turn : fields = before ++ field :: after)

include turn

theorem mem_of_before {other : Field} (inside : other ∈ before) : other ∈ fields :=
  turn ▸ List.mem_append_left _ inside

theorem mem_of_after {other : Field} (inside : other ∈ after) : other ∈ fields :=
  turn ▸ List.mem_append_right _ (List.mem_cons_of_mem _ inside)

theorem foldl_turn :
    fields.foldl prepareField pass =
      after.foldl prepareField ((before.foldl prepareField pass).prepareField field) := by
  rw [turn, List.foldl_append, List.foldl_cons]

variable (distinct : (fields.map Field.name).Nodup)

include distinct

theorem fresh_turn {other : Field} (inside : other ∈ before ∨ other ∈ after) :
    field.name ≠ other.name := by
  rw [turn, List.map_append, List.map_cons, List.nodup_middle, List.nodup_cons,
    ← List.map_append] at distinct
  intro same
  exact distinct.1 (same ▸ List.mem_map_of_mem (List.mem_append.mpr inside))

theorem contains_at_turn
    (present : pass.slots.contains field.name = true) :
    (before.foldl prepareField pass).slots.contains field.name = true :=
  contains_prepareFields (fun _ inside same => absurd same (fresh_turn turn distinct (.inl inside))) present

theorem get?_at_turn
    (unmoved : ∀ other ∈ fields, other.rule.successor? ≠ some field.name) :
    (before.foldl prepareField pass).slots.get? field.name = pass.slots.get? field.name :=
  prepareFields_other fun other inside =>
    .inr ⟨fresh_turn turn distinct (.inl inside), unmoved other (mem_of_before turn inside)⟩

theorem get?_after_turn
    (unmoved : ∀ other ∈ fields, other.rule.successor? ≠ some field.name) :
    (after.foldl prepareField pass).slots.get? field.name = pass.slots.get? field.name :=
  prepareFields_other fun other inside =>
    .inr ⟨fresh_turn turn distinct (.inr inside), unmoved other (mem_of_after turn inside)⟩

end Turn

/-- Whatever moves goes to a declared field that does not move in turn. -/
def Straight (fields : List Field) : Prop :=
  ∀ field ∈ fields, ∀ target, field.rule.successor? = some target →
    ∃ successor ∈ fields, successor.name = target ∧ successor.rule.successor? = none

section Kept

variable (distinct : (fields.map Field.name).Nodup) (straight : Straight fields)

include distinct

theorem stays_of_successor {successor : Field} (member : successor ∈ fields)
    (still : successor.rule.successor? = none) :
    ∀ field ∈ fields, successor.name = field.name → field.rule.successor? = none := by
  intro field inside same
  rwa [← Field.eq_of_name distinct member inside same]

theorem absent_of_clean {field : Field} {notice : Notice} (member : field ∈ fields)
    (removed : field.rule = .removed notice) (clean : (fields.foldl prepareField pass).Clean) :
    pass.slots.get? field.name = none := by
  obtain ⟨before, after, turn⟩ := List.append_of_mem member
  rw [foldl_turn turn] at clean
  have silent := ((Pass.adds_prepareField _ field).clean_iff.mp
    (clean_of_prepareFields clean).1).2
  cases held : pass.slots.get? field.name with
  | none => rfl
  | some setting =>
    have filled : pass.slots.contains field.name = true := by simp [OrderedMap.contains, held]
    have present := contains_at_turn turn distinct filled
    rw [Field.preparation, removed, Rule.prepare, if_pos present] at silent
    cases silent

include straight

theorem unmoved_of_moves {field : Field} (member : field ∈ fields) {target : String}
    (moves : field.rule.successor? = some target) :
    ∀ other ∈ fields, other.rule.successor? ≠ some field.name := by
  intro other inside into
  obtain ⟨successor, declared, same, still⟩ := straight other inside field.name into
  rw [Field.eq_of_name distinct declared member same, moves] at still
  cases still

/-- After all fields had their turn, one that was set has a successor that is filled. -/
theorem contains_after {field : Field} {notice : Notice} {inner : Option Rule}
    (member : field ∈ fields) (deprecated : field.rule = .deprecated notice inner)
    (filled : ¬ Unset (pass.slots.get? field.name)) {successor : Field}
    (declared : successor ∈ fields) (still : successor.rule.successor? = none)
    (moved : notice.movedTo = some successor.name) (apart : successor.name ≠ field.name) :
    (fields.foldl prepareField pass).slots.contains successor.name = true := by
  obtain ⟨before, after, turn⟩ := List.append_of_mem member
  have moves : field.rule.successor? = some successor.name := by
    rw [deprecated]
    exact moved
  have here : (before.foldl prepareField pass).slots.get? field.name = _ :=
    get?_at_turn turn distinct (unmoved_of_moves distinct straight member moves)
  rw [foldl_turn turn]
  refine contains_prepareFields (fun other inside same =>
    stays_of_successor distinct declared still other (mem_of_after turn inside) same) ?_
  rw [prepareField_slots, Field.preparation, deprecated]
  exact Rule.contains_successor moved apart (here.symm ▸ filled)

/-- If no field gains a value and no error is found, then nothing moved and nothing was wrong. -/
theorem idle_of_kept (clean : (fields.foldl prepareField pass).Clean)
    (kept : ∀ field ∈ fields, pass.slots.get? field.name = none →
      (fields.foldl prepareField pass).slots.get? field.name = none) :
    ∀ field ∈ fields, field.rule.Idle field.name pass.slots := by
  intro field member
  cases rule : field.rule with
  | removed notice => exact absent_of_clean distinct member rule clean
  | deprecated notice inner =>
    by_cases unset : Unset (pass.slots.get? field.name)
    · exact .inl unset
    right
    intro target moved
    have moves : field.rule.successor? = some target := by
      rw [rule]
      exact moved
    obtain ⟨successor, declared, rfl, still⟩ := straight field member target moves
    by_cases own : successor.name = field.name
    · exact .inl own
    right
    cases vacant : pass.slots.get? successor.name with
    | some setting => simp [OrderedMap.contains, vacant]
    | none =>
      have gained := contains_after distinct straight member rule unset declared still moved own
      rw [OrderedMap.contains, kept successor declared vacant] at gained
      cases gained
  | _ => trivial

end Kept

end Pass

end SiteSettings
