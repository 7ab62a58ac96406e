import SiteSettings.OrderedMap

/-! Reading ordered maps. Two maps are alike when every key reads the same in both;
with distinct keys in one order they are equal. -/

namespace SiteSettings

/-- One more name is new, or it was listed before. -/
theorem eraseDups_append_singleton (names : List String) (name : String) :
    (names ++ [name]).eraseDups =
      if name ∈ names then names.eraseDups else names.eraseDups ++ [name] := by
  rw [List.eraseDups_append, List.removeAll]
  split
  next known => simp [known]
  next fresh => simp [fresh, List.eraseDups_cons]

namespace OrderedMap

variable {α β : Type}

/-- Nothing that looks keys up can tell the two maps apart. -/
def Alike (first second : OrderedMap α) : Prop := ∀ key, first.get? key = second.get? key

namespace Alike

variable {first second third : OrderedMap α}

theorem refl (map : OrderedMap α) : Alike map map := fun _ => rfl

theorem trans (left : Alike first second) (right : Alike second third) : Alike first third :=
  fun key => (left key).trans (right key)

theorem contains (alike : Alike first second) (key : String) :
    first.contains key = second.contains key := by
  simp only [OrderedMap.contains, alike key]

theorem symm (alike : Alike first second) : Alike second first := fun key => (alike key).symm

theorem erase (alike : Alike first second) (key : String) :
    Alike (first.erase key) (second.erase key) := by
  intro other
  rw [get?_erase, get?_erase, alike other]

theorem insert (alike : Alike first second) (key : String) (value : α) :
    Alike (first.insert key value) (second.insert key value) := by
  intro other
  rw [get?_insert, get?_insert, alike other]

end Alike

/-- Taking a value out and putting it back changes nothing that can be read. -/
theorem alike_insert_erase {map : OrderedMap α} {key : String} {value : α}
    (found : map.get? key = some value) : Alike ((map.erase key).insert key value) map := by
  intro other
  rw [get?_insert, get?_erase]
  split
  next same => rw [same, found]
  next => rfl

theorem get?_eq_none_iff {map : OrderedMap α} {key : String} :
    map.get? key = none ↔ key ∉ map.keys := by
  rw [← get?_isSome_iff, Bool.not_eq_true, Option.isSome_eq_false_iff, Option.isNone_iff_eq_none]

theorem contains_eq_false_iff {map : OrderedMap α} {key : String} :
    map.contains key = false ↔ map.get? key = none := by
  simp [contains]

theorem insert_of_not_mem {map : OrderedMap α} {key : String} (absent : key ∉ map.keys)
    (value : α) : map.insert key value = ⟨map.entries ++ [(key, value)]⟩ := by
  obtain ⟨entries⟩ := map
  show (⟨insert.go key value entries⟩ : OrderedMap α) = ⟨entries ++ [(key, value)]⟩
  congr 1
  induction entries with
  | nil => rfl
  | cons entry rest ih =>
    obtain ⟨name, old⟩ := entry
    have different : name ≠ key := by
      intro same
      subst same
      exact absent (by simp [keys])
    have rest_absent : key ∉ (⟨rest⟩ : OrderedMap α).keys := by
      intro present
      exact absent (by simpa [keys] using Or.inr (by simpa [keys] using present))
    simp only [insert.go, if_neg different, ih rest_absent, List.cons_append]

theorem merge_cons (map : OrderedMap α) (entry : String × α) (rest : List (String × α)) :
    map.merge ⟨entry :: rest⟩ = (map.insert entry.1 entry.2).merge ⟨rest⟩ := rfl

/-- What a merge overwrites is what the later entries hold by themselves. -/
theorem get?_merge (map later : OrderedMap α) (key : String) :
    (map.merge later).get? key = ((ofList later.entries).get? key).or (map.get? key) := by
  obtain ⟨entries⟩ := later
  induction entries generalizing map with
  | nil => simp [ofList, merge]
  | cons entry rest ih =>
    have first : (ofList (entry :: rest)).get? key =
        ((ofList rest).get? key).or ((empty.insert entry.1 entry.2).get? key) := ih _
    rw [merge_cons, ih, first, get?_insert, get?_insert, get?_empty]
    split <;> cases (ofList rest).get? key <;> rfl

theorem get?_ofList_cons (entry : String × α) (rest : List (String × α)) (key : String) :
    (ofList (entry :: rest)).get? key =
      ((ofList rest).get? key).or (if key = entry.1 then some entry.2 else none) := by
  have first : (ofList (entry :: rest)).get? key = _ := get?_merge (empty.insert entry.1 entry.2) ⟨rest⟩ key
  rw [first, get?_insert, get?_empty]

theorem nodup_keys_merge {map : OrderedMap α} (distinct : map.keys.Nodup)
    (later : OrderedMap α) : (map.merge later).keys.Nodup := by
  obtain ⟨entries⟩ := later
  induction entries generalizing map with
  | nil => exact distinct
  | cons entry rest ih => exact ih (nodup_keys_insert distinct entry.1 entry.2)

theorem nodup_keys_ofList (entries : List (String × α)) : (ofList entries).keys.Nodup :=
  nodup_keys_merge (by simp) _

theorem merge_of_disjoint (map later : OrderedMap α) (distinct : later.keys.Nodup)
    (disjoint : ∀ key ∈ later.keys, key ∉ map.keys) :
    map.merge later = ⟨map.entries ++ later.entries⟩ := by
  obtain ⟨entries⟩ := later
  induction entries generalizing map with
  | nil => simp [merge]
  | cons entry rest ih =>
    obtain ⟨name, value⟩ := entry
    have fresh : name ∉ map.keys := disjoint name (by simp [keys])
    have parts := List.nodup_cons.mp (show (name :: rest.map (·.1)).Nodup from distinct)
    rw [merge_cons, insert_of_not_mem fresh, ih _ parts.2]
    · simp
    · intro key inside
      have outside := disjoint key (by simpa [keys] using Or.inr (by simpa [keys] using inside))
      have different : key ≠ name := by
        intro same
        subst same
        exact parts.1 inside
      simpa [keys, different] using outside

theorem ofList_entries {map : OrderedMap α} (distinct : map.keys.Nodup) :
    ofList map.entries = map := by
  have joined := merge_of_disjoint (empty : OrderedMap α) ⟨map.entries⟩ distinct (by simp)
  simpa [ofList, empty] using joined

theorem mem_keys_merge {map later : OrderedMap α} {key : String} :
    key ∈ (map.merge later).keys ↔ key ∈ map.keys ∨ key ∈ later.keys := by
  obtain ⟨entries⟩ := later
  induction entries generalizing map with
  | nil => simp [merge, keys]
  | cons entry rest ih =>
    rw [merge_cons, ih, keys_insert]
    split
    next present =>
      simp only [keys, List.map_cons, List.mem_cons]
      constructor
      · intro found
        rcases found with old | new
        · exact .inl old
        · exact .inr (.inr new)
      · intro found
        rcases found with old | rfl | new
        · exact .inl old
        · exact .inl present
        · exact .inr new
    next => simp [keys, or_assoc]

theorem mem_keys_ofList {entries : List (String × α)} {key : String} :
    key ∈ (ofList entries).keys ↔ key ∈ entries.map (·.1) := by
  rw [ofList, mem_keys_merge]
  simp [keys, empty]

/-- The order of the keys and what they read is all there is to a map. -/
theorem ext_of_keys {first second : OrderedMap α} (distinct : first.keys.Nodup)
    (same : first.keys = second.keys) (alike : Alike first second) : first = second := by
  obtain ⟨left⟩ := first
  obtain ⟨right⟩ := second
  congr 1
  induction left generalizing right with
  | nil =>
    cases right with
    | nil => rfl
    | cons other more => simp [keys] at same
  | cons entry rest ih =>
    obtain ⟨name, value⟩ := entry
    cases right with
    | nil => simp [keys] at same
    | cons other more =>
      obtain ⟨otherName, otherValue⟩ := other
      have heads : name = otherName ∧ rest.map (·.1) = more.map (·.1) := by
        simpa [keys] using same
      obtain ⟨rfl, tails⟩ := heads
      have parts := List.nodup_cons.mp (show (name :: rest.map (·.1)).Nodup from distinct)
      have values : value = otherValue := by
        have here := alike name
        simpa [get?, get?.go] using here
      subst values
      rw [ih parts.2 more tails]
      intro key
      have here := alike key
      by_cases same : name = key
      · subst same
        have absent : ∀ list : List (String × α), name ∉ list.map (·.1) →
            (⟨list⟩ : OrderedMap α).get? name = none := fun list outside =>
          get?_eq_none_iff.mpr outside
        rw [absent rest parts.1, absent more (tails ▸ parts.1)]
      · simpa [get?, get?.go, same] using here

theorem get?_filterKeys (keep : String → Bool) (map : OrderedMap α) (key : String) :
    (map.filterKeys keep).get? key = if keep key then map.get? key else none := by
  obtain ⟨entries⟩ := map
  show get?.go key (entries.filter fun entry => keep entry.1) =
    if keep key then get?.go key entries else none
  induction entries with
  | nil => simp [get?.go]
  | cons entry rest ih =>
    obtain ⟨name, old⟩ := entry
    by_cases same : name = key
    · subst same
      by_cases kept : keep name
      · simp [kept, get?.go]
      · simpa [kept] using ih
    · by_cases kept : keep name
      · simp [kept, get?.go, same, ih]
      · simp [kept, get?.go, same, ih]

theorem keys_filterKeys (keep : String → Bool) (map : OrderedMap α) :
    (map.filterKeys keep).keys = map.keys.filter keep := by
  simp [filterKeys, keys, List.filter_map, Function.comp_def]

theorem merge_append (map : OrderedMap α) (first second : List (String × α)) :
    map.merge ⟨first ++ second⟩ = (map.merge ⟨first⟩).merge ⟨second⟩ := List.foldl_append ..

theorem keys_prefix_merge (map later : OrderedMap α) : map.keys <+: (map.merge later).keys := by
  obtain ⟨entries⟩ := later
  induction entries generalizing map with
  | nil => exact List.prefix_refl _
  | cons entry rest ih =>
    refine List.IsPrefix.trans ?_ (ih (map.insert entry.1 entry.2))
    rw [keys_insert]
    split
    · exact List.prefix_refl _
    · exact List.prefix_append ..

/-- Keys are listed in the order in which they were first seen. -/
theorem keys_merge_eq {map : OrderedMap α} {seen : List String} (first : map.keys = seen.eraseDups)
    (later : OrderedMap α) : (map.merge later).keys = (seen ++ later.keys).eraseDups := by
  obtain ⟨entries⟩ := later
  induction entries generalizing map seen with
  | nil => exact first.trans (congrArg _ (List.append_nil seen).symm)
  | cons entry rest ih =>
    have inserted : (map.insert entry.1 entry.2).keys = (seen ++ [entry.1]).eraseDups := by
      rw [keys_insert, eraseDups_append_singleton, first]
      simp only [List.mem_eraseDups]
    rw [merge_cons, ih inserted, List.append_assoc]
    rfl

theorem keys_merge_of_known {map later : OrderedMap α} (known : ∀ key ∈ later.keys, key ∈ map.keys) :
    (map.merge later).keys = map.keys := by
  obtain ⟨entries⟩ := later
  induction entries generalizing map with
  | nil => rfl
  | cons entry rest ih =>
    obtain ⟨here, later⟩ := List.forall_mem_cons.mp known
    have kept : (map.insert entry.1 entry.2).keys = map.keys := by
      rw [keys_insert, if_pos here]
    rw [merge_cons, ih (by rw [kept]; exact later), kept]

/-- Merging part of an extension back into what it extends restores its keys, if the
part has all that is new. -/
theorem keys_merge_filterKeys {map extended : OrderedMap α} {keep : String → Bool}
    (distinct : extended.keys.Nodup) (extends_ : map.keys <+: extended.keys)
    (fresh : ∀ key ∈ extended.keys, key ∉ map.keys → keep key = true) :
    (map.merge (extended.filterKeys keep)).keys = extended.keys := by
  obtain ⟨entries⟩ := extended
  obtain ⟨new, shape⟩ := extends_
  obtain ⟨known, added, rfl, known_keys, added_keys⟩ := List.map_eq_append_iff.mp shape.symm
  rw [← shape] at distinct fresh ⊢
  obtain ⟨_, new_distinct, apart⟩ := List.nodup_append.mp distinct
  have added_kept : added.filter (fun entry => keep entry.1) = added := by
    apply List.filter_eq_self.mpr
    intro entry member
    have inside : entry.1 ∈ new := added_keys ▸ List.mem_map_of_mem member
    exact fresh entry.1 (List.mem_append_right _ inside) fun old => apart _ old _ inside rfl
  have first : (map.merge ⟨known.filter fun entry => keep entry.1⟩).keys = map.keys := by
    apply keys_merge_of_known
    intro key member
    obtain ⟨entry, inside, rfl⟩ := List.mem_map.mp member
    rw [← known_keys]
    exact List.mem_map_of_mem (List.mem_filter.mp inside).1
  rw [filterKeys, List.filter_append, merge_append, added_kept]
  generalize map.merge ⟨known.filter fun entry => keep entry.1⟩ = merged at first ⊢
  have added_distinct : (⟨added⟩ : OrderedMap α).keys.Nodup := by
    rw [keys, added_keys]
    exact new_distinct
  rw [merge_of_disjoint merged ⟨added⟩ added_distinct]
  · rw [keys, List.map_append, added_keys]
    exact congrArg (· ++ new) first
  · intro key member old
    rw [first] at old
    exact apart _ old _ (added_keys ▸ member) rfl

def values (map : OrderedMap α) : List α := map.entries.map (·.2)

theorem nodup_keys_erase {map : OrderedMap α} (distinct : map.keys.Nodup) (key : String) :
    (map.erase key).keys.Nodup := by
  have kept : (map.erase key).keys = map.keys.filter (· != key) :=
    keys_filterKeys (fun other => other != key) map
  rw [kept]
  exact distinct.filter _

/-- A map is the entry of one of its keys and what is left when that key is erased. -/
theorem perm_erase {map : OrderedMap α} (distinct : map.keys.Nodup) {key : String} {value : α}
    (held : map.get? key = some value) :
    map.entries.Perm ((key, value) :: (map.erase key).entries) := by
  obtain ⟨entries⟩ := map
  induction entries with
  | nil => cases held
  | cons entry rest ih =>
    obtain ⟨name, old⟩ := entry
    have parts := List.nodup_cons.mp (show (name :: rest.map (·.1)).Nodup from distinct)
    by_cases here : name = key
    · subst here
      have found : old = value := by simpa [get?, get?.go] using held
      have kept : rest.filter (fun entry => entry.1 != name) = rest := by
        apply List.filter_eq_self.mpr
        intro entry inside
        have apart : entry.1 ≠ name := fun same => parts.1 (same ▸ List.mem_map_of_mem inside)
        simpa using apart
      simp [erase, kept, found]
    · have later : (⟨rest⟩ : OrderedMap α).get? key = some value := by
        simpa [get?, get?.go, here] using held
      have moved := (ih parts.2 later).cons (name, old)
      simpa [erase, here] using moved.trans (.swap ..)

/-- A value that goes from its key to a vacant one is neither lost nor doubled. -/
theorem perm_values_move {map : OrderedMap α} (distinct : map.keys.Nodup) {key into : String}
    {value : α} (held : map.get? key = some value) (vacant : (map.erase key).get? into = none) :
    ((map.erase key).insert into value).values.Perm map.values := by
  have taken : map.values.Perm (value :: (map.erase key).values) :=
    (perm_erase distinct held).map _
  rw [insert_of_not_mem (get?_eq_none_iff.mp vacant), values, List.map_append]
  exact List.perm_append_comm.trans taken.symm

end OrderedMap

end SiteSettings
