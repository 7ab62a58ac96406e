import SiteSettings.Toml

/-! Tables while a document is read. What a header or a dotted key may still add to
a table depends on how the table came about. -/

namespace SiteSettings.Toml

/-- How a table came about: by a header of its own, on the way to another header's
table, or by a dotted key. -/
inductive Origin where
  | header
  | implied
  | dotted
deriving Repr, DecidableEq

mutual

inductive Item where
  | value (value : Toml)
  | table (table : Table)
  /-- Tables under one repeated header, the last one first. -/
  | tables (last : Table) (before : List Table)

structure Table where
  origin : Origin
  entries : OrderedMap Item

end

namespace Table

instance : Inhabited Table := ⟨⟨.header, .empty⟩⟩

/-- Works on the table that a path of keys leads to, making missing tables on the
way. Dotted keys may not lead into a table that has a header, and nothing leads
into a value. -/
def descend {β : Type} (dotted : Bool) (work : Table → Option (Table × β)) :
    List String → Table → Option (Table × β)
  | [], here => work here
  | key :: rest, here => do
    let put (item : Item) : Table := { here with entries := here.entries.insert key item }
    match here.entries.get? key with
    | none =>
      let (child, answer) ← descend dotted work rest ⟨if dotted then .dotted else .implied, .empty⟩
      return (put (.table child), answer)
    | some (.value _) => none
    | some (.tables last before) =>
      let (child, answer) ← descend dotted work rest last
      return (put (.tables child before), answer)
    | some (.table child) =>
      if dotted && child.origin = .header then none
      else
        let (child, answer) ← descend dotted work rest child
        return (put (.table child), answer)

/-- Adds a key and its value. The table must have come about as the key is written:
dotted keys fill tables of dotted keys only. -/
def addValue (path : List String) (key : String) (value : Toml) (whole : Table) : Option Table := do
  let (whole, _) ← descend true (fun target =>
    if (target.origin = .dotted) = path.isEmpty ∨ target.entries.contains key then none
    else some ({ target with entries := target.entries.insert key (.value value) }, ())) path whole
  return whole

/-- Takes out the table that a header names, if an earlier header implied it, or
else starts a new one. -/
def openTable (path : List String) (key : String) (root : Table) : Option (Table × Table) :=
  descend false (fun parent =>
    match parent.entries.get? key with
    | none => some (parent, ⟨.header, .empty⟩)
    | some (.table child) =>
      if child.origin = .implied then
        some ({ parent with entries := parent.entries.erase key }, { child with origin := .header })
      else none
    | some _ => none) path root

/-- Puts a finished table under its key. -/
def closeTable (path : List String) (key : String) (finished root : Table) : Option Table := do
  let (root, _) ← descend false (fun parent =>
    if parent.entries.contains key then none
    else some ({ parent with entries := parent.entries.insert key (.table finished) }, ())) path root
  return root

/-- Checks that a repeated header may add a table under its key. -/
def canAppend (path : List String) (key : String) (root : Table) : Bool :=
  (descend false (fun parent =>
    match parent.entries.get? key with
    | none | some (.tables ..) => some (parent, ())
    | some _ => none) path root).isSome

def appendTable (path : List String) (key : String) (finished root : Table) : Option Table := do
  let (root, _) ← descend false (fun parent =>
    match parent.entries.get? key with
    | none => some ({ parent with entries := parent.entries.insert key (.tables finished []) }, ())
    | some (.tables last before) =>
      some ({ parent with entries := parent.entries.insert key (.tables finished (last :: before)) }, ())
    | some _ => none) path root
  return root

end Table

mutual

def Item.toToml : Item → Toml
  | .value value => value
  | .table ⟨_, ⟨entries⟩⟩ => .table ⟨Table.toMembers entries⟩
  | .tables ⟨_, ⟨entries⟩⟩ before =>
    .array ((Table.toTomls before).reverse ++ [.table ⟨Table.toMembers entries⟩])

def Table.toMembers : List (String × Item) → List (String × Toml)
  | [] => []
  | (key, item) :: rest => (key, item.toToml) :: Table.toMembers rest

def Table.toTomls : List Table → List Toml
  | [] => []
  | ⟨_, ⟨entries⟩⟩ :: rest => .table ⟨Table.toMembers entries⟩ :: Table.toTomls rest

end

end SiteSettings.Toml
