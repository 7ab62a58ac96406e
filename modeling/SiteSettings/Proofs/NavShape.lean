import SiteSettings.Nav

/-! The grammar of navigation trees, and that the checker accepts exactly what it
generates. -/

namespace SiteSettings.Nav

/-- A page, or one title for a page or for a list of further items. -/
inductive Item : Value → Prop where
  | page (path : String) : Item (.text path)
  | titled (title path : String) : Item (.object ⟨[(title, .text path)]⟩)
  | section (title : String) (items : List Value) (shaped : ∀ item ∈ items, Item item) :
      Item (.object ⟨[(title, .list items)]⟩)

def Tree (value : Value) : Prop := ∃ items, value = .list items ∧ ∀ item ∈ items, Item item

def Target (value : Value) : Prop := (∃ path, value = .text path) ∨ Tree value

private theorem item_of_target {title : String} {target : Value} (shaped : Target target) :
    Item (.object ⟨[(title, target)]⟩) := by
  obtain ⟨path, rfl⟩ | ⟨items, rfl, each⟩ := shaped
  · exact .titled title path
  · exact .section title items each

private theorem target_of_item {title : String} {target : Value}
    (shaped : Item (.object ⟨[(title, target)]⟩)) : Target target := by
  cases shaped with
  | titled _ path => exact .inl ⟨path, rfl⟩
  | «section» _ items each => exact .inr ⟨items, rfl, each⟩

mutual

theorem checkItems_ok_iff (items : List Value) :
    checkItems items = .ok () ↔ ∀ item ∈ items, Item item := by
  match items with
  | [] => simp [checkItems]
  | item :: rest =>
    have first := checkItem_ok_iff item
    have others := checkItems_ok_iff rest
    simp only [checkItems, List.forall_mem_cons, ← first, ← others]
    cases checkItem item <;> simp

theorem checkItem_ok_iff (item : Value) : checkItem item = .ok () ↔ Item item := by
  match item with
  | .text path => simp [checkItem, Item.page]
  | .object ⟨[(title, target)]⟩ =>
    have inner := checkTarget_ok_iff title target
    simp only [checkItem, inner]
    exact ⟨item_of_target, target_of_item⟩
  | .object ⟨[]⟩ | .object ⟨_ :: _ :: _⟩ | .null | .boolean _ | .number _ | .list _ =>
    simp only [checkItem, reduceCtorEq, false_iff]
    rintro ⟨⟩

theorem checkTarget_ok_iff (title : String) (target : Value) :
    checkTarget title target = .ok () ↔ Target target := by
  match target with
  | .text path => simp [checkTarget, Target]
  | .list items =>
    have inner := checkItems_ok_iff items
    simp [checkTarget, Target, Tree, inner]
  | .null | .boolean _ | .number _ | .object _ => simp [checkTarget, Target, Tree]

end

/-- The checker accepts exactly the trees of the grammar. -/
theorem check_ok_iff (value : Value) : check value = .ok () ↔ Tree value := by
  cases value with
  | list items => simp [check, Tree, checkItems_ok_iff]
  | _ => simp [check, Tree]

end SiteSettings.Nav
