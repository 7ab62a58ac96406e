import SiteSettings.Proofs.Composite

/-! Lists item by item. A list is accepted if each of its items is, and otherwise the first
item that is not gives the error. What the items after that one would say is never heard. -/

namespace SiteSettings

namespace Problem

/-- The problem of an item inside an item and so on, from the outermost index to the innermost. -/
def under : List Nat → Problem → Problem
  | [], problem => problem
  | index :: inside, problem => .item index (problem.under inside)

def trailText : List Nat → String
  | [] => ""
  | index :: inside => s!"[{index}] " ++ trailText inside

theorem message_item (index : Nat) (problem : Problem) :
    (item index problem).message = s!"[{index}] " ++ problem.message := by
  show s!"[{index}] {problem.message}" = _
  rw [show toString problem.message = problem.message from rfl]

theorem message_under (trail : List Nat) (problem : Problem) :
    (problem.under trail).message = trailText trail ++ problem.message := by
  induction trail with
  | nil => exact String.empty_append.symm
  | cons index inside ih => simp only [under, message_item, ih, trailText, String.append_assoc]

theorem hint?_under (trail : List Nat) (problem : Problem) :
    (problem.under trail).hint? = problem.hint? := by
  induction trail with
  | nil => rfl
  | cons index inside ih => exact ih

end Problem

namespace Coercion

variable {coerce : Value → Coercion Setting} {items before values : List Value}

/-- Accepted items in front of a list add their values and what is said of them. -/
theorem eachItem_append (lowered : List.Forall₂ (Lowers coerce) before values) (start : Nat)
    (rest : List Value) :
    let others := eachItem coerce (start + before.length) rest
    eachItem coerce start (before ++ rest) =
      ⟨others.result.map (values ++ ·),
        (before.flatMap fun item => (coerce item).warnings) ++ others.warnings,
        (before.flatMap fun item => (coerce item).trace) ++ others.trace⟩ := by
  induction lowered generalizing start with
  | nil =>
    show eachItem coerce start rest = _
    obtain ⟨result, warnings, trace⟩ := eachItem coerce (start + 0) rest
    cases result <;> simp [Except.map]
  | @cons item value before values here _ ih =>
    obtain ⟨setting, done, rfl⟩ := here
    have next := ih (start + 1)
    rw [show start + 1 + before.length = start + (item :: before).length by
      rw [List.length_cons]; omega] at next
    simp only [List.cons_append, eachItem, done, Except.mapError, andThen, next]
    cases (eachItem coerce (start + (item :: before).length) rest).result <;>
      simp [Except.map, of]

theorem eachItem_of_lowers (lowered : List.Forall₂ (Lowers coerce) items values) (start : Nat) :
    eachItem coerce start items =
      ⟨.ok values, items.flatMap fun item => (coerce item).warnings,
        items.flatMap fun item => (coerce item).trace⟩ := by
  have whole := eachItem_append lowered start []
  simpa [eachItem, of, Except.map] using whole

theorem eachItem_of_failure (lowered : List.Forall₂ (Lowers coerce) before values) {item : Value}
    {inner : Problem} (failed : (coerce item).result = .error inner) (start : Nat)
    (after : List Value) :
    eachItem coerce start (before ++ item :: after) =
      ⟨.error (.item (start + before.length) inner),
        (before ++ [item]).flatMap fun item => (coerce item).warnings,
        (before ++ [item]).flatMap fun item => (coerce item).trace⟩ := by
  rw [eachItem_append lowered, eachItem, failed]
  simp [andThen, Except.mapError, Except.map]

theorem lowers_again (lowered : List.Forall₂ (Lowers coerce) items values)
    (kept : ∀ item ∈ items, ∀ setting, (coerce item).result = .ok setting →
      Lowers coerce setting.toValue setting.toValue) :
    List.Forall₂ (Lowers coerce) values values := by
  induction lowered with
  | nil => exact .nil
  | cons here _ ih =>
    obtain ⟨setting, done, rfl⟩ := here
    obtain ⟨first, later⟩ := List.forall_mem_cons.mp kept
    exact .cons (first setting done) (ih later)

structure FirstRejected (coerce : Value → Coercion Setting) (items before : List Value)
    (item : Value) (inner : Problem) : Prop where
  found : ∃ after, items = before ++ item :: after
  accepted : ∀ earlier ∈ before, ∃ setting, (coerce earlier).result = .ok setting
  rejected : (coerce item).result = .error inner

theorem accepted_or_firstRejected (coerce : Value → Coercion Setting) (items : List Value) :
    (∀ item ∈ items, ∃ setting, (coerce item).result = .ok setting) ∨
      ∃ before item inner, FirstRejected coerce items before item inner := by
  induction items with
  | nil => exact .inl (List.forall_mem_nil _)
  | cons item rest ih =>
    cases result : (coerce item).result with
    | error inner =>
      exact .inr ⟨[], item, inner, ⟨rest, rfl⟩, List.forall_mem_nil _, result⟩
    | ok setting =>
      rcases ih with accepted | ⟨before, later, inner, ⟨after, rfl⟩, accepted, rejected⟩
      · exact .inl (List.forall_mem_cons.mpr ⟨⟨setting, result⟩, accepted⟩)
      · exact .inr ⟨item :: before, later, inner, ⟨after, rfl⟩,
          List.forall_mem_cons.mpr ⟨⟨setting, result⟩, accepted⟩, rejected⟩

end Coercion

namespace Rule

variable {item : Rule} {context : Context} {items values before : List Value}

/-- The rule takes the value for one that it made. -/
def Keeps (rule : Rule) (context : Context) (value : Value) : Prop :=
  Coercion.Lowers (fun value => rule.coerce context (.data value)) value value

theorem coerce_listOf_of_lowers
    (lowered : List.Forall₂ (Coercion.Lowers fun value => item.coerce context (.data value)) items
      values) :
    (Rule.listOf item).coerce context (.data (.list items)) =
      ⟨.ok (.data (.list values)),
        items.flatMap fun value => (item.coerce context (.data value)).warnings,
        items.flatMap fun value => (item.coerce context (.data value)).trace⟩ := by
  rw [coerce_listOf, Coercion.eachItem_of_lowers lowered]
  simp [Coercion.andThen, Coercion.of]

theorem coerce_listOf_of_firstRejected {value : Value} {inner : Problem}
    (first : Coercion.FirstRejected (fun value => item.coerce context (.data value)) items before
      value inner) :
    (Rule.listOf item).coerce context (.data (.list items)) =
      ⟨.error (.item before.length inner),
        (before ++ [value]).flatMap fun value => (item.coerce context (.data value)).warnings,
        (before ++ [value]).flatMap fun value => (item.coerce context (.data value)).trace⟩ := by
  obtain ⟨⟨after, rfl⟩, accepted, rejected⟩ := first
  obtain ⟨values, lowered⟩ := Coercion.exists_lowered_iff.mpr accepted
  rw [coerce_listOf, Coercion.eachItem_of_failure lowered rejected, Nat.zero_add]
  rfl

theorem coerce_items_eq_ok_iff {coerced : Setting} :
    ((Rule.listOf item).coerce context (.data (.list items))).result = .ok coerced ↔
      ∃ values, coerced = .data (.list values) ∧
        List.Forall₂ (Coercion.Lowers fun value => item.coerce context (.data value)) items
          values := by
  rw [coerce_listOf_eq_ok]
  constructor
  · rintro ⟨_, values, ⟨⟩, lowered, rfl⟩
    exact ⟨values, rfl, lowered⟩
  · rintro ⟨values, rfl, lowered⟩
    exact ⟨items, values, rfl, lowered, rfl⟩

theorem coerce_listOf_accepts_iff :
    (∃ coerced, ((Rule.listOf item).coerce context (.data (.list items))).result = .ok coerced) ↔
      ∀ value ∈ items, ∃ setting, (item.coerce context (.data value)).result = .ok setting := by
  rw [← Coercion.exists_lowered_iff]
  constructor
  · rintro ⟨coerced, done⟩
    obtain ⟨values, _, lowered⟩ := coerce_items_eq_ok_iff.mp done
    exact ⟨values, lowered⟩
  · rintro ⟨values, lowered⟩
    exact ⟨_, coerce_items_eq_ok_iff.mpr ⟨values, rfl, lowered⟩⟩

theorem coerce_items_eq_error_iff {problem : Problem} :
    ((Rule.listOf item).coerce context (.data (.list items))).result = .error problem ↔
      ∃ before value inner,
        Coercion.FirstRejected (fun value => item.coerce context (.data value)) items before value
          inner ∧
        problem = .item before.length inner := by
  constructor
  · intro failed
    rcases Coercion.accepted_or_firstRejected (fun value => item.coerce context (.data value)) items
      with accepted | ⟨before, value, inner, first⟩
    · obtain ⟨values, lowered⟩ := Coercion.exists_lowered_iff.mpr accepted
      rw [coerce_listOf_of_lowers lowered] at failed
      cases failed
    · rw [coerce_listOf_of_firstRejected first] at failed
      exact ⟨before, value, inner, first, (Except.error.inj failed).symm⟩
  · rintro ⟨before, value, inner, first, rfl⟩
    rw [coerce_listOf_of_firstRejected first]

/-- A list is coerced item by item, up to the first item that is rejected. Its index stands in
front of its message, and lists inside lists put one index in front of the other. -/
theorem coerce_listOf_itemwise (item : Rule) (context : Context) (items : List Value) :
    let each := fun value => item.coerce context (.data value)
    let whole := (Rule.listOf item).coerce context (.data (.list items))
    let accepted := ∀ value ∈ items, ∃ setting, (each value).result = .ok setting
    ((∃ coerced, whole.result = .ok coerced) ↔ accepted) ∧
    (∀ coerced, whole.result = .ok coerced ↔
      ∃ values, coerced = .data (.list values) ∧
        List.Forall₂ (Coercion.Lowers each) items values) ∧
    (∀ problem, whole.result = .error problem ↔
      ∃ before value inner, Coercion.FirstRejected each items before value inner ∧
        problem = .item before.length inner) ∧
    (accepted → whole.warnings = items.flatMap fun value => (each value).warnings) ∧
    (∀ before value inner, Coercion.FirstRejected each items before value inner →
      (whole.warnings = (before ++ [value]).flatMap fun value => (each value).warnings) ∧
      ∀ trail (deepest : Problem), inner = deepest.under trail →
        ∃ problem, whole.result = .error problem ∧
          problem.message = Problem.trailText (before.length :: trail) ++ deepest.message ∧
          problem.hint? = deepest.hint?) ∧
    ∀ coerced, whole.result = .ok coerced →
      (∀ value ∈ items, ∀ setting, (each value).result = .ok setting →
        item.Keeps context setting.toValue) →
      ((Rule.listOf item).coerce context coerced).result = .ok coerced := by
  intro each whole accepted
  refine ⟨?_, fun _ => coerce_items_eq_ok_iff, fun _ => coerce_items_eq_error_iff, ?_, ?_, ?_⟩
  · exact coerce_listOf_accepts_iff
  · intro all
    obtain ⟨values, lowered⟩ := Coercion.exists_lowered_iff.mpr all
    exact congrArg Coercion.warnings (coerce_listOf_of_lowers lowered)
  · intro before value inner first
    have failed := coerce_listOf_of_firstRejected first
    refine ⟨congrArg Coercion.warnings failed, ?_⟩
    rintro trail deepest rfl
    exact ⟨_, congrArg Coercion.result failed, Problem.message_under (before.length :: trail) deepest,
      Problem.hint?_under (before.length :: trail) deepest⟩
  · intro coerced done kept
    obtain ⟨values, rfl, lowered⟩ := coerce_items_eq_ok_iff.mp done
    exact coerce_items_eq_ok_iff.mpr ⟨values, rfl, Coercion.lowers_again lowered kept⟩

end Rule

end SiteSettings
