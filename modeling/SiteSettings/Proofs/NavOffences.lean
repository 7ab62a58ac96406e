import SiteSettings.Proofs.Composite
import SiteSettings.Proofs.Scalars

/-! What is wrong in a navigation, and where. A position leads from item to item through the
lists behind titles. Of all that is wrong, the checker reports what stands first when the
document is read from top to bottom. -/

namespace SiteSettings.Nav

/-- An item that is out of shape by itself, whatever else there is. -/
inductive Fault : Value → NavProblem → Prop where
  | item {item : Value} (text : ∀ path, item ≠ .text path)
      (object : ∀ members, item ≠ .object members) : Fault item (.badItem item)
  | keys {members : OrderedMap Value} (size : members.size ≠ 1) :
      Fault (.object members) (.notOneKey members.keys)
  | target {title : String} {target : Value} (text : ∀ path, target ≠ .text path)
      (list : ∀ items, target ≠ .list items) :
      Fault (.object ⟨[(title, target)]⟩) (.badTarget title target)

/-- The item at a position: one of the list, or one of a list behind the title of another. -/
inductive Stands : List Value → List Nat → Value → Prop where
  | here {items : List Value} {index : Nat} {item : Value} (found : items[index]? = some item) :
      Stands items [index] item
  | within {items children : List Value} {index : Nat} {title : String} {position : List Nat}
      {item : Value} (found : items[index]? = some (.object ⟨[(title, .list children)]⟩))
      (inside : Stands children position item) : Stands items (index :: position) item

def Offends : Value → List Nat → NavProblem → Prop
  | .list items, position, problem => ∃ item, Stands items position item ∧ Fault item problem
  | value, position, problem => position = [] ∧ problem = .notAList value

/-- What is wrong at a position of an item, the item itself being at the empty one. -/
def ItemOffends (item : Value) (position : List Nat) (problem : NavProblem) : Prop :=
  (position = [] ∧ Fault item problem) ∨
    ∃ title children, item = .object ⟨[(title, .list children)]⟩ ∧
      Offends (.list children) position problem

/-- Nothing else is met before it: an item comes before those after it, and before what is
inside it. -/
structure First (offence : List Nat → NavProblem → Prop) (position : List Nat)
    (problem : NavProblem) : Prop where
  holds : offence position problem
  earliest : ∀ other another, offence other another → ¬ List.Lex (· < ·) other position

/-- The verdict of a checker that reports the first offence. -/
inductive Told (offence : List Nat → NavProblem → Prop) : Except NavProblem Unit → Prop where
  | clean (nothing : ∀ position problem, ¬ offence position problem) : Told offence (.ok ())
  | blamed {position : List Nat} {problem : NavProblem} (first : First offence position problem) :
      Told offence (.error problem)

section Told

variable {offence other : List Nat → NavProblem → Prop} {result : Except NavProblem Unit}

theorem Told.congr (told : Told offence result)
    (same : ∀ position problem, other position problem ↔ offence position problem) :
    Told other result := by
  have alike : other = offence := funext fun position => funext fun problem =>
    propext (same position problem)
  exact alike ▸ told

theorem Told.of_fault {item : Value} {problem : NavProblem} (fault : Fault item problem) :
    Told (ItemOffends item) (.error problem) :=
  .blamed ⟨.inl ⟨rfl, fault⟩, fun _ _ _ => List.not_lex_nil⟩

end Told

theorem offends_cons {item : Value} {rest : List Value} {position : List Nat}
    {problem : NavProblem} :
    Offends (.list (item :: rest)) position problem ↔
      (∃ inner, position = 0 :: inner ∧ ItemOffends item inner problem) ∨
        ∃ index inner, position = (index + 1) :: inner ∧
          Offends (.list rest) (index :: inner) problem := by
  constructor
  · intro offends
    obtain ⟨stander, stands, fault⟩ := offends
    cases stands with
    | @here _ index _ found =>
      cases index with
      | zero =>
        cases found
        exact .inl ⟨[], rfl, .inl ⟨rfl, fault⟩⟩
      | succ index => exact .inr ⟨index, [], rfl, _, .here found, fault⟩
    | @within _ _ index _ inner _ found inside =>
      cases index with
      | zero =>
        cases found
        exact .inl ⟨inner, rfl, .inr ⟨_, _, rfl, _, inside, fault⟩⟩
      | succ index => exact .inr ⟨index, inner, rfl, _, .within found inside, fault⟩
  · intro offends
    obtain ⟨inner, rfl, ⟨rfl, fault⟩ | ⟨title, children, rfl, stander, inside, fault⟩⟩ |
      ⟨index, inner, rfl, stander, stands, fault⟩ := offends
    · exact ⟨item, .here rfl, fault⟩
    · exact ⟨stander, .within rfl inside, fault⟩
    · cases stands with
      | here found => exact ⟨stander, .here found, fault⟩
      | within found inside => exact ⟨stander, .within found inside, fault⟩

theorem position_ne_nil {items : List Value} {position : List Nat} {problem : NavProblem}
    (offends : Offends (.list items) position problem) : position ≠ [] := by
  obtain ⟨_, stands, _⟩ := offends
  cases stands <;> simp

/-- What the first item is blamed for comes before everything in the items after it. -/
theorem Told.of_head {item : Value} {rest : List Value} {problem : NavProblem}
    (told : Told (ItemOffends item) (.error problem)) :
    Told (Offends (.list (item :: rest))) (.error problem) := by
  cases told with
  | @blamed position _ first =>
    refine .blamed ⟨offends_cons.mpr (.inl ⟨position, rfl, first.holds⟩), ?_⟩
    intro other another offends before
    obtain ⟨inner, rfl, here⟩ | ⟨index, inner, rfl, _⟩ := offends_cons.mp offends
    · cases before with
      | rel less => exact Nat.lt_irrefl 0 less
      | cons inside => exact first.earliest inner another here inside
    · cases before with
      | rel less => exact Nat.not_lt_zero _ less

/-- If nothing is wrong with the first item, the items after it decide. -/
theorem Told.of_tail {item : Value} {rest : List Value} {result : Except NavProblem Unit}
    (clean : Told (ItemOffends item) (.ok ())) (told : Told (Offends (.list rest)) result) :
    Told (Offends (.list (item :: rest))) result := by
  cases clean with
  | clean nothing =>
  cases told with
  | clean later =>
    refine .clean fun position problem offends => ?_
    obtain ⟨inner, _, here⟩ | ⟨index, inner, _, there⟩ := offends_cons.mp offends
    · exact nothing _ _ here
    · exact later _ _ there
  | @blamed position problem first =>
    obtain ⟨index, inner, rfl⟩ := List.exists_cons_of_ne_nil (position_ne_nil first.holds)
    refine .blamed ⟨offends_cons.mpr (.inr ⟨index, inner, rfl, first.holds⟩), ?_⟩
    intro other another offends before
    obtain ⟨_, _, here⟩ | ⟨later, below, rfl, there⟩ := offends_cons.mp offends
    · exact nothing _ _ here
    · cases before with
      | rel less => exact first.earliest _ _ there (.rel (Nat.lt_of_succ_lt_succ less))
      | cons inside => exact first.earliest _ _ there (.cons inside)

mutual

theorem checkItems_told (items : List Value) : Told (Offends (.list items)) (checkItems items) := by
  match items with
  | [] =>
    refine .clean fun position problem offends => ?_
    obtain ⟨_, stands, _⟩ := offends
    cases stands with
    | here found => cases found
    | within found => cases found
  | item :: rest =>
    have first := checkItem_told item
    have others := checkItems_told rest
    rw [checkItems]
    cases checked : checkItem item with
    | ok _ => exact (checked ▸ first).of_tail others
    | error problem => exact (checked ▸ first).of_head

theorem checkItem_told (item : Value) : Told (ItemOffends item) (checkItem item) := by
  match item with
  | .text path =>
    refine .clean fun position problem offends => ?_
    obtain ⟨_, fault⟩ | ⟨_, _, ⟨⟩, _⟩ := offends
    cases fault with
    | item text => exact text path rfl
  | .object ⟨[(title, target)]⟩ => exact checkTarget_told title target
  | .object ⟨[]⟩ | .object ⟨_ :: _ :: _⟩ => exact .of_fault (.keys (by simp [OrderedMap.size]))
  | .null | .boolean _ | .number _ | .list _ => exact .of_fault (.item nofun nofun)

theorem checkTarget_told (title : String) (target : Value) :
    Told (ItemOffends (.object ⟨[(title, target)]⟩)) (checkTarget title target) := by
  match target with
  | .text path =>
    refine .clean fun position problem offends => ?_
    obtain ⟨_, fault⟩ | ⟨_, _, ⟨⟩, _⟩ := offends
    cases fault with
    | item _ object => exact object _ rfl
    | keys size => exact size rfl
    | target text => exact text path rfl
  | .list children =>
    refine (checkItems_told children).congr fun position problem => ?_
    constructor
    · intro offends
      obtain ⟨_, fault⟩ | ⟨_, _, ⟨⟩, inside⟩ := offends
      · cases fault with
        | item _ object => exact (object _ rfl).elim
        | keys size => exact (size rfl).elim
        | target _ list => exact (list children rfl).elim
      · exact inside
    · intro inside
      exact .inr ⟨title, children, rfl, inside⟩
  | .null | .boolean _ | .number _ | .object _ => exact .of_fault (.target nofun nofun)

end

theorem check_told (value : Value) : Told (Offends value) (check value) := by
  cases value with
  | list items => exact checkItems_told items
  | _ => exact .blamed ⟨⟨rfl, rfl⟩, fun _ _ _ => List.not_lex_nil⟩

theorem Stands.unique {items : List Value} {position : List Nat} {item other : Value}
    (first : Stands items position item) (second : Stands items position other) : item = other := by
  induction first generalizing other with
  | here found =>
    cases second with
    | here again => exact Option.some.inj (found.symm.trans again)
    | within _ inside => cases inside
  | within found inside ih =>
    cases second with
    | here => cases inside
    | within again beneath =>
      cases found.symm.trans again
      exact ih beneath

theorem Fault.unique {item : Value} {problem other : NavProblem} (first : Fault item problem)
    (second : Fault item other) : problem = other := by
  cases first with
  | item text object =>
    cases second with
    | item => rfl
    | keys | target => exact absurd rfl (object _)
  | keys size =>
    cases second with
    | item _ object => exact absurd rfl (object _)
    | keys => rfl
    | target => exact absurd rfl size
  | target text list =>
    cases second with
    | item _ object => exact absurd rfl (object _)
    | keys size => exact absurd rfl size
    | target => rfl

theorem Offends.unique {value : Value} {position : List Nat} {problem other : NavProblem}
    (first : Offends value position problem) (second : Offends value position other) :
    problem = other := by
  cases value with
  | list items =>
    obtain ⟨item, stands, fault⟩ := first
    obtain ⟨again, same, blame⟩ := second
    cases stands.unique same
    exact fault.unique blame
  | _ => exact first.2.trans second.2.symm

theorem check_eq_error_iff {value : Value} {problem : NavProblem} :
    check value = .error problem ↔ ∃ position, First (Offends value) position problem := by
  have told := check_told value
  constructor
  · intro failed
    rw [failed] at told
    cases told with
    | blamed first => exact ⟨_, first⟩
  · intro first
    obtain ⟨position, first⟩ := first
    generalize check value = result at told
    cases told with
    | clean nothing => exact absurd first.holds (nothing _ _)
    | blamed other =>
      have same := List.lex_trichotomous (fun _ _ less more => by omega)
        (first.earliest _ _ other.holds) (other.earliest _ _ first.holds)
      subst same
      rw [other.holds.unique first.holds]

/-- A navigation is taken exactly if it is a tree of the grammar, and then as it is. Any other
value is rejected for what stands first of all that is wrong with it: it is no list, or an item
is neither a page nor titled, or has no title or several, or its title stands for neither a page
nor a list. There is nothing to warn about. -/
theorem coerce_nav_exact (context : Context) (value : Value) :
    (∀ coerced, (Rule.nav.coerce context (.data value)).result = .ok coerced ↔
        coerced = .data value ∧ Tree value) ∧
      (∀ problem, (Rule.nav.coerce context (.data value)).result = .error problem ↔
        ∃ offence position, problem = .badNav offence ∧ First (Offends value) position offence) ∧
      (Rule.nav.coerce context (.data value)).warnings = [] := by
  refine ⟨fun coerced => ?_, fun problem => ?_, rfl⟩
  · simp only [Rule.coerce, Coercion.of_result, Rule.coerceNav_eq_ok, Setting.data.injEq,
      exists_eq_left']
  · simp only [← check_eq_error_iff, exists_and_left, Rule.coerce, Coercion.of_result,
      Rule.coerceNav]
    cases check value <;> simp [eq_comm]

example : check (.list [.text "index.md", .ofMembers [("Guide", .list [.text "a.md", .ofMembers
    [("B", .text "b.md"), ("C", .ofInt 3)]])], .null]) = .error (.notOneKey ["B", "C"]) := rfl

end SiteSettings.Nav
