import SiteSettings.Proofs.Legacy

/-! Where the values go in the legacy phase. A turn leaves the slots as they are, or it takes the
field's own value out and puts it into an empty slot. So no value is lost, doubled or overwritten,
whatever the successors are, and null does not move at all. -/

namespace SiteSettings

namespace Rule

/-- What becomes of a value in the turn of a field: it stays where it is, or it is the field's
own and goes to the slot of the successor, which was empty. -/
inductive Carries (rule : Rule) (key : String) (before after : OrderedMap Setting)
    (place : String) (setting : Setting) : Prop where
  | stays (kept : after.get? place = some setting)
  | moves {into : String} (own : place = key) (goal : rule.successor? = some into)
      (vacant : before.get? into = none) (vacated : after.get? place = none)
      (arrived : after.get? into = some setting)

variable {rule : Rule} {key : String} {slots after : OrderedMap Setting}

namespace Shifts

variable (shifts : rule.Shifts key slots after)

include shifts

theorem distinct (distinct : slots.keys.Nodup) : after.keys.Nodup := by
  cases shifts with
  | still => exact distinct
  | moved => exact OrderedMap.nodup_keys_insert (OrderedMap.nodup_keys_erase distinct key) _ _

theorem values_perm (distinct : slots.keys.Nodup) : after.values.Perm slots.values := by
  cases shifts with
  | still => exact .refl _
  | moved held _ _ vacant => exact OrderedMap.perm_values_move distinct held vacant

theorem carries {place : String} {setting : Setting} (full : slots.get? place = some setting) :
    rule.Carries key slots after place setting := by
  by_cases own : place = key
  · cases shifts with
    | still => exact .stays full
    | @moved value into held present goal vacant =>
      obtain rfl : setting = value := Option.some.inj (full.symm.trans (own ▸ held))
      by_cases back : into = key
      · refine .stays ?_
        rw [own, back, OrderedMap.get?_insert_self]
      · rw [OrderedMap.get?_erase, if_neg back] at vacant
        refine .moves own (goal.resolve_left back) vacant ?_ (OrderedMap.get?_insert_self ..)
        rw [own, OrderedMap.get?_insert_of_ne _ _ (Ne.symm back), OrderedMap.get?_erase, if_pos rfl]
  · exact .stays (shifts.get?_filled own full)

/-- Null is neither taken nor put anywhere. -/
theorem null_iff (place : String) :
    after.get? place = some (.data .null) ↔ slots.get? place = some (.data .null) := by
  cases shifts with
  | still => exact Iff.rfl
  | @moved value into held present goal vacant =>
    have other {setting : Setting} (null : setting = .data .null) : value ≠ setting := by
      rintro rfl
      rw [null] at present
      cases present
    rw [OrderedMap.get?_insert, OrderedMap.get?_erase]
    by_cases here : place = into
    · subst here
      rw [if_pos rfl]
      constructor
      · intro same
        exact absurd (Option.some.inj same) (other rfl)
      · intro null
        rw [OrderedMap.get?_erase] at vacant
        split at vacant
        next own => exact absurd (Option.some.inj (held.symm.trans (own ▸ null))) (other rfl)
        next => cases vacant.symm.trans null
    · rw [if_neg here]
      split
      next own =>
        subst own
        rw [held]
        exact ⟨nofun, fun same => absurd (Option.some.inj same) (other rfl)⟩
      next => exact Iff.rfl

end Shifts

end Rule

namespace Pass

theorem prepareFields_values_perm (fields : List Field) {pass : Pass}
    (distinct : pass.slots.keys.Nodup) :
    (fields.foldl prepareField pass).slots.values.Perm pass.slots.values := by
  induction fields generalizing pass with
  | nil => exact .refl _
  | cons field rest ih =>
    have shifts := pass.shifts_prepareField field
    exact (ih (shifts.distinct distinct)).trans (shifts.values_perm distinct)

theorem prepareFields_null_iff (fields : List Field) (pass : Pass) (key : String) :
    (fields.foldl prepareField pass).slots.get? key = some (.data .null) ↔
      pass.slots.get? key = some (.data .null) := by
  induction fields generalizing pass with
  | nil => exact Iff.rfl
  | cons field rest ih =>
    exact (ih (pass.prepareField field)).trans ((pass.shifts_prepareField field).null_iff key)

/-- The legacy phase neither loses nor doubles a value, for fields with whatever successors and
for whatever is in the slots. In each turn every value stays where it is, except for the field's
own, which may go to the successor's slot if that is empty; and null always stays. -/
theorem prepareFields_conserves (fields : List Field) {pass : Pass}
    (distinct : pass.slots.keys.Nodup) :
    let prepared := fields.foldl prepareField pass
    prepared.slots.values.Perm pass.slots.values ∧
      (∀ earlier field later, fields = earlier ++ field :: later →
        let before := earlier.foldl prepareField pass
        let after := (earlier ++ [field]).foldl prepareField pass
        ∀ key setting, before.slots.get? key = some setting →
          field.rule.Carries field.name before.slots after.slots key setting) ∧
      ∀ key, prepared.slots.get? key = some (.data .null) ↔
        pass.slots.get? key = some (.data .null) := by
  refine ⟨prepareFields_values_perm fields distinct, ?_, prepareFields_null_iff fields pass⟩
  intro earlier field later turn before after key setting held
  have next : after = before.prepareField field := List.foldl_append ..
  rw [next]
  exact (before.shifts_prepareField field).carries held

end Pass

def Schema.circling : Schema where
  fields := [
    ⟨"a", .deprecated ⟨some "b", none⟩ none, none, false⟩,
    ⟨"b", .deprecated ⟨some "c", none⟩ none, none, false⟩,
    ⟨"c", .deprecated ⟨some "a", none⟩ none, none, false⟩,
    ⟨"d", .deprecated ⟨some "b", none⟩ none, none, false⟩,
    ⟨"e", .deprecated ⟨some "f", none⟩ none, none, false⟩]
  passthrough := false

def Pass.circling : Pass where
  slots := ⟨[("a", .data (.text "x")), ("c", .data (.text "y")), ("d", .data .null),
    ("e", .data (.text "x"))]⟩
  failed := []
  report := .empty
  trace := []

/-- The value of the first field goes on, and its slot takes that of the last one in the circle. -/
theorem Pass.circling_conserves :
    let prepared := Schema.circling.fields.foldl prepareField circling
    circling.slots.keys.Nodup ∧ prepared.slots.values.Perm circling.slots.values ∧
      prepared.slots.keys = ["d", "b", "a", "f"] ∧
      ((prepared.slots.get? "a").bind Setting.text?) = some "y" ∧
      ((prepared.slots.get? "b").bind Setting.text?) = some "x" ∧
      prepared.slots.get? "d" = some (.data .null) := by
  intro prepared
  have distinct : circling.slots.keys.Nodup := by decide
  obtain ⟨values, _, null⟩ := prepareFields_conserves Schema.circling.fields distinct
  exact ⟨distinct, values, by decide +kernel, by decide +kernel, by decide +kernel,
    (null "d").mpr rfl⟩

end SiteSettings
