import SiteSettings.Problem

/-! Navigation trees: lists of pages, where an item is a page or gives one title to
a page or to a list of further items. Only the shape is checked. -/

namespace SiteSettings.Nav

mutual

/-- The first item out of shape decides, in document order. -/
def checkItems : List Value → Except NavProblem Unit
  | [] => .ok ()
  | item :: rest =>
    match checkItem item with
    | .ok () => checkItems rest
    | .error problem => .error problem

def checkItem : Value → Except NavProblem Unit
  | .text _ => .ok ()
  | .object ⟨[(title, target)]⟩ => checkTarget title target
  | .object members => .error (.notOneKey members.keys)
  | item => .error (.badItem item)

def checkTarget (title : String) : Value → Except NavProblem Unit
  | .text _ => .ok ()
  | .list items => checkItems items
  | target => .error (.badTarget title target)

end

def check : Value → Except NavProblem Unit
  | .list items => checkItems items
  | value => .error (.notAList value)

end SiteSettings.Nav
