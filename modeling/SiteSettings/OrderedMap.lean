/-! Maps that remember insertion order. Overwriting a key keeps its place, so a
document keeps the order its author gave it through every later update. -/

namespace SiteSettings

/-- Entries in the order their keys were first inserted. Every operation below
keeps the keys distinct. -/
structure OrderedMap (α : Type) where
  entries : List (String × α)
deriving Repr, BEq, DecidableEq

namespace OrderedMap

variable {α β : Type}

def empty : OrderedMap α := ⟨[]⟩

instance : EmptyCollection (OrderedMap α) := ⟨empty⟩
instance : Inhabited (OrderedMap α) := ⟨empty⟩

def keys (map : OrderedMap α) : List String := map.entries.map (·.1)

def size (map : OrderedMap α) : Nat := map.entries.length

def get? (map : OrderedMap α) (key : String) : Option α := go map.entries
where
  go : List (String × α) → Option α
    | [] => none
    | (other, value) :: rest => if other = key then some value else go rest

def contains (map : OrderedMap α) (key : String) : Bool := (map.get? key).isSome

/-- A new key goes last, a known one keeps its place. -/
def insert (map : OrderedMap α) (key : String) (value : α) : OrderedMap α := ⟨go map.entries⟩
where
  go : List (String × α) → List (String × α)
    | [] => [(key, value)]
    | (other, old) :: rest =>
      if other = key then (key, value) :: rest else (other, old) :: go rest

def erase (map : OrderedMap α) (key : String) : OrderedMap α :=
  ⟨map.entries.filter fun entry => entry.1 != key⟩

/-- The entries of `later` inserted one by one. -/
def merge (map later : OrderedMap α) : OrderedMap α :=
  later.entries.foldl (fun sum entry => sum.insert entry.1 entry.2) map

/-- Repeated keys keep the first place and the last value. -/
def ofList (entries : List (String × α)) : OrderedMap α := merge empty ⟨entries⟩

def filterKeys (keep : String → Bool) (map : OrderedMap α) : OrderedMap α :=
  ⟨map.entries.filter fun entry => keep entry.1⟩

def mapValues (f : α → β) (map : OrderedMap α) : OrderedMap β :=
  ⟨map.entries.map fun entry => (entry.1, f entry.2)⟩

@[simp] theorem get?_empty (key : String) : (empty : OrderedMap α).get? key = none := rfl

@[simp] theorem keys_empty : (empty : OrderedMap α).keys = [] := rfl

private theorem go_insert (key : String) (value : α) (other : String)
    (entries : List (String × α)) :
    get?.go other (insert.go key value entries) =
      if other = key then some value else get?.go other entries := by
  induction entries with
  | nil => simp [insert.go, get?.go, eq_comm]
  | cons entry rest ih =>
    obtain ⟨name, old⟩ := entry
    by_cases same : name = key
    · subst same
      by_cases here : other = name
      · simp [insert.go, get?.go, here]
      · simp [insert.go, get?.go, here, Ne.symm here]
    · by_cases here : name = other
      · subst here
        simp [insert.go, get?.go, same]
      · simp [insert.go, get?.go, same, here, ih]

theorem get?_insert (map : OrderedMap α) (key : String) (value : α) (other : String) :
    (map.insert key value).get? other = if other = key then some value else map.get? other :=
  go_insert key value other map.entries

@[simp] theorem get?_insert_self (map : OrderedMap α) (key : String) (value : α) :
    (map.insert key value).get? key = some value := by
  simp [get?_insert]

theorem get?_insert_of_ne (map : OrderedMap α) {key other : String} (value : α)
    (ne : other ≠ key) : (map.insert key value).get? other = map.get? other := by
  simp [get?_insert, ne]

private theorem go_filter (key other : String) (entries : List (String × α)) :
    get?.go other (entries.filter fun entry => entry.1 != key) =
      if other = key then none else get?.go other entries := by
  induction entries with
  | nil => simp [get?.go]
  | cons entry rest ih =>
    obtain ⟨name, old⟩ := entry
    by_cases same : name = key
    · subst same
      by_cases here : other = name
      · simp [here] at ih ⊢
        exact ih
      · simp [ih, here, get?.go, Ne.symm here]
    · by_cases here : name = other
      · subst here
        simp [get?.go, same]
      · simp [get?.go, same, here, ih]

theorem get?_erase (map : OrderedMap α) (key other : String) :
    (map.erase key).get? other = if other = key then none else map.get? other :=
  go_filter key other map.entries

theorem get?_isSome_iff (map : OrderedMap α) (key : String) :
    (map.get? key).isSome ↔ key ∈ map.keys := by
  obtain ⟨entries⟩ := map
  show (get?.go key entries).isSome ↔ key ∈ entries.map (·.1)
  induction entries with
  | nil => simp [get?.go]
  | cons entry rest ih =>
    by_cases same : entry.1 = key
    · simp [get?.go, same]
    · simp [get?.go, same, Ne.symm same, ih]

theorem keys_insert (map : OrderedMap α) (key : String) (value : α) :
    (map.insert key value).keys = if key ∈ map.keys then map.keys else map.keys ++ [key] := by
  obtain ⟨entries⟩ := map
  show (insert.go key value entries).map (·.1) =
    if key ∈ entries.map (·.1) then entries.map (·.1) else entries.map (·.1) ++ [key]
  induction entries with
  | nil => simp [insert.go]
  | cons entry rest ih =>
    by_cases same : entry.1 = key
    · simp [insert.go, same]
    · simp only [insert.go, same, if_false, List.map_cons, ih, List.mem_cons, Ne.symm same,
        false_or]
      split <;> simp

theorem nodup_keys_insert {map : OrderedMap α} (distinct : map.keys.Nodup) (key : String)
    (value : α) : (map.insert key value).keys.Nodup := by
  rw [keys_insert]
  split
  · exact distinct
  · next absent =>
    rw [List.nodup_append]
    exact ⟨distinct, by simp, fun _ here _ last => by simp at last; grind⟩

end OrderedMap

end SiteSettings
