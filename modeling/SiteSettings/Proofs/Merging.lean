import SiteSettings.Proofs.Loading

/-! Merging ordered maps, and loading as a merge. Each part of a configuration takes in its share
of a document, so loading one document after another is the same as loading the two merged. -/

namespace SiteSettings

namespace OrderedMap

variable {α β : Type}

theorem insert_insert (map : OrderedMap α) (key : String) (old new : α) :
    (map.insert key old).insert key new = map.insert key new := by
  obtain ⟨entries⟩ := map
  show (⟨insert.go key new (insert.go key old entries)⟩ : OrderedMap α) =
    ⟨insert.go key new entries⟩
  congr 1
  induction entries with
  | nil => simp [insert.go]
  | cons entry rest ih =>
    by_cases here : entry.1 = key
    · simp [insert.go, here]
    · simp [insert.go, here, ih]

/-- A known key keeps its place, so it makes no difference when it is overwritten. -/
theorem insert_comm_of_mem {map : OrderedMap α} {key other : String} (known : key ∈ map.keys)
    (apart : other ≠ key) (value more : α) :
    (map.insert other more).insert key value = (map.insert key value).insert other more := by
  obtain ⟨entries⟩ := map
  show (⟨insert.go key value (insert.go other more entries)⟩ : OrderedMap α) =
    ⟨insert.go other more (insert.go key value entries)⟩
  congr 1
  induction entries with
  | nil => cases known
  | cons entry rest ih =>
    obtain ⟨name, old⟩ := entry
    by_cases here : name = key
    · subst here
      simp [insert.go, Ne.symm apart]
    · have later : key ∈ (⟨rest⟩ : OrderedMap α).keys := by
        simpa [keys, Ne.symm here] using known
      by_cases there : name = other
      · subst there
        simp [insert.go, here]
      · simp [insert.go, here, there, ih later]

theorem insert_merge_of_mem {map later : OrderedMap α} {key : String} (known : key ∈ map.keys)
    (untouched : key ∉ later.keys) (value : α) :
    (map.merge later).insert key value = (map.insert key value).merge later := by
  obtain ⟨entries⟩ := later
  induction entries generalizing map with
  | nil => rfl
  | cons entry rest ih =>
    obtain ⟨apart, outside⟩ := List.ne_and_not_mem_of_not_mem_cons
      (show key ∉ entry.1 :: rest.map (·.1) from untouched)
    have still : key ∈ (map.insert entry.1 entry.2).keys := by
      rw [keys_insert]
      split
      · exact known
      · exact List.mem_append_left _ known
    rw [merge_cons, ih still outside, insert_comm_of_mem known (Ne.symm apart), merge_cons]

theorem merge_insert (map : OrderedMap α) {later : OrderedMap α} (distinct : later.keys.Nodup)
    (key : String) (value : α) :
    map.merge (later.insert key value) = (map.merge later).insert key value := by
  obtain ⟨entries⟩ := later
  induction entries generalizing map with
  | nil => rfl
  | cons entry rest ih =>
    obtain ⟨name, old⟩ := entry
    obtain ⟨fresh, distinct⟩ := List.nodup_cons.mp
      (show (name :: rest.map (·.1)).Nodup from distinct)
    by_cases here : name = key
    · subst here
      have replaced : (⟨(name, old) :: rest⟩ : OrderedMap α).insert name value =
          ⟨(name, value) :: rest⟩ := by
        simp [insert, insert.go]
      have known : name ∈ (map.insert name old).keys := by
        rw [← get?_isSome_iff, get?_insert_self]
        rfl
      rw [replaced, merge_cons, merge_cons, insert_merge_of_mem known fresh, insert_insert]
    · have kept : (⟨(name, old) :: rest⟩ : OrderedMap α).insert key value =
          ⟨(name, old) :: ((⟨rest⟩ : OrderedMap α).insert key value).entries⟩ := by
        simp [insert, insert.go, here]
      rw [kept, merge_cons, merge_cons]
      exact ih _ distinct

/-- Merging is an action of the maps on each other. -/
theorem merge_merge (map : OrderedMap α) {first : OrderedMap α} (distinct : first.keys.Nodup)
    (second : OrderedMap α) : map.merge (first.merge second) = (map.merge first).merge second := by
  obtain ⟨entries⟩ := second
  induction entries generalizing first with
  | nil => rfl
  | cons entry rest ih =>
    rw [merge_cons, ih (nodup_keys_insert distinct entry.1 entry.2), merge_insert map distinct,
      merge_cons]

theorem filterKeys_insert (keep : String → Bool) (map : OrderedMap α) (key : String) (value : α) :
    (map.insert key value).filterKeys keep =
      if keep key then (map.filterKeys keep).insert key value else map.filterKeys keep := by
  obtain ⟨entries⟩ := map
  suffices kept : (insert.go key value entries).filter (fun entry => keep entry.1) =
      if keep key then insert.go key value (entries.filter fun entry => keep entry.1)
      else entries.filter fun entry => keep entry.1 by
    simp only [insert, filterKeys, kept]
    split <;> rfl
  induction entries with
  | nil => cases wanted : keep key <;> simp [insert.go, wanted]
  | cons entry rest ih =>
    by_cases here : entry.1 = key
    · subst here
      cases wanted : keep entry.1 <;> simp [insert.go, wanted]
    · cases wanted : keep key <;> cases other : keep entry.1 <;>
        simp [insert.go, here, wanted, other, ih]

theorem filterKeys_merge (keep : String → Bool) (map later : OrderedMap α) :
    (map.merge later).filterKeys keep = (map.filterKeys keep).merge (later.filterKeys keep) := by
  obtain ⟨entries⟩ := later
  induction entries generalizing map with
  | nil => rfl
  | cons entry rest ih =>
    rw [merge_cons, ih, filterKeys_insert]
    simp only [filterKeys, List.filter_cons]
    split <;> rfl

theorem keys_mapValues (f : α → β) (map : OrderedMap α) : (map.mapValues f).keys = map.keys := by
  simp [mapValues, keys]

theorem mapValues_insert (f : α → β) (map : OrderedMap α) (key : String) (value : α) :
    (map.insert key value).mapValues f = (map.mapValues f).insert key (f value) := by
  obtain ⟨entries⟩ := map
  suffices mapped : (insert.go key value entries).map (fun entry => (entry.1, f entry.2)) =
      insert.go key (f value) (entries.map fun entry => (entry.1, f entry.2)) by
    simp only [insert, mapValues, mapped]
  induction entries with
  | nil => rfl
  | cons entry rest ih =>
    by_cases here : entry.1 = key
    · simp [insert.go, here]
    · simp [insert.go, here, ih]

theorem mapValues_merge (f : α → β) (map later : OrderedMap α) :
    (map.merge later).mapValues f = (map.mapValues f).merge (later.mapValues f) := by
  obtain ⟨entries⟩ := later
  induction entries generalizing map with
  | nil => rfl
  | cons entry rest ih =>
    rw [merge_cons, ih, mapValues_insert]
    rfl

def ofKeys (keys : List String) : OrderedMap Unit := ⟨keys.map fun key => (key, ())⟩

theorem keys_ofKeys (keys : List String) : (ofKeys keys).keys = keys := by
  simp [ofKeys, OrderedMap.keys, Function.comp_def]

theorem ofKeys_keys (map : OrderedMap Unit) : ofKeys map.keys = map := by
  simp [ofKeys, keys, Function.comp_def]

theorem ofKeys_insert (keys : List String) (key : String) :
    ofKeys (if key ∈ keys then keys else keys ++ [key]) = (ofKeys keys).insert key () := by
  rw [← ofKeys_keys ((ofKeys keys).insert key ()), keys_insert, keys_ofKeys]

end OrderedMap

namespace Config

theorem loadMembers_slots (config : Config) (members : OrderedMap Value) :
    (config.loadMembers members).slots =
      config.slots.merge ((members.filterKeys config.schema.declares).mapValues .data) := by
  obtain ⟨entries⟩ := members
  induction entries generalizing config with
  | nil => rfl
  | cons entry rest ih =>
    rw [loadMembers_cons, ih, loadEntry_schema]
    simp only [OrderedMap.filterKeys, List.filter_cons, loadEntry]
    cases config.schema.declares entry.1 <;> rfl

/-- Unless the schema passes through, the unrecognised keys grow like the keys of a map. -/
theorem loadMembers_unrecognised (config : Config) (members : OrderedMap Value) :
    (config.loadMembers members).unrecognised =
      if config.schema.passthrough then config.unrecognised
      else ((OrderedMap.ofKeys config.unrecognised).merge
        ((members.filterKeys fun key => !config.schema.declares key).mapValues fun _ => ())).keys := by
  obtain ⟨entries⟩ := members
  induction entries generalizing config with
  | nil =>
    split
    · rfl
    · exact (OrderedMap.keys_ofKeys _).symm
  | cons entry rest ih =>
    rw [loadMembers_cons, ih, loadEntry_schema]
    simp only [OrderedMap.filterKeys, List.filter_cons, loadEntry]
    cases config.schema.declares entry.1 with
    | true => rfl
    | false =>
      cases config.schema.passthrough with
      | true => rfl
      | false =>
        have noticed : OrderedMap.ofKeys (if config.unrecognised.contains entry.1
            then config.unrecognised else config.unrecognised ++ [entry.1]) =
              (OrderedMap.ofKeys config.unrecognised).insert entry.1 () := by
          simp only [← OrderedMap.ofKeys_insert, List.contains_iff_mem]
        simp only [Bool.false_eq_true, if_false, Bool.false_or, noticed]
        rfl

theorem SameBeside.eq_of_slots {first second : Config} (beside : first.SameBeside second)
    (slots : first.slots = second.slots) : first = second := by
  obtain ⟨schema, firstSlots, extras, unrecognised, baseDirectory⟩ := first
  obtain ⟨rfl, rfl, rfl, rfl⟩ := beside
  obtain rfl : firstSlots = second.slots := slots
  rfl

/-- Loading is an action of merging: one document after another leaves the same configuration as
the one document that the first becomes when the entries of the second are inserted into it. -/
theorem loadMembers_merge (config : Config) {first : OrderedMap Value}
    (distinct : first.keys.Nodup) (second : OrderedMap Value) :
    (config.loadMembers first).loadMembers second = config.loadMembers (first.merge second) := by
  have part (keep : String → Bool) : (first.filterKeys keep).keys.Nodup := by
    rw [OrderedMap.keys_filterKeys]
    exact distinct.filter _
  have mapped {α : Type} (f : Value → α) (keep : String → Bool) :
      ((first.filterKeys keep).mapValues f).keys.Nodup := by
    rw [OrderedMap.keys_mapValues]
    exact part keep
  apply SameBeside.eq_of_slots
  · refine ⟨?_, ?_, ?_, ?_⟩
    · simp only [loadMembers_schema]
    · rw [loadMembers_extras, loadMembers_schema, loadMembers_extras, loadMembers_extras,
        OrderedMap.filterKeys_merge, OrderedMap.merge_merge _ (part _)]
    · rw [loadMembers_unrecognised, loadMembers_schema, loadMembers_unrecognised,
        loadMembers_unrecognised]
      split
      · rfl
      · rw [OrderedMap.ofKeys_keys, OrderedMap.filterKeys_merge, OrderedMap.mapValues_merge,
          OrderedMap.merge_merge _ (mapped _ _)]
    · simp only [loadMembers_baseDirectory]
  · rw [loadMembers_slots, loadMembers_schema, loadMembers_slots, loadMembers_slots,
      OrderedMap.filterKeys_merge, OrderedMap.mapValues_merge,
      OrderedMap.merge_merge _ (mapped _ _)]

end Config

def Schema.titled : Schema := ⟨[⟨"title", .type .text none, none, false⟩], false⟩

/-- The second document overwrites a declared key and another one, and brings a new one. -/
theorem Config.titled_merge :
    let first : OrderedMap Value := ⟨[("b", .null), ("title", .text "x"), ("a", .null)]⟩
    let second : OrderedMap Value := ⟨[("c", .null), ("a", .text "y"), ("title", .text "z")]⟩
    let merged := (new .titled).loadMembers (first.merge second)
    first.keys.Nodup ∧ ((new .titled).loadMembers first).loadMembers second = merged ∧
      merged.text? "title" = some "z" ∧ merged.extras.keys = ["b", "a", "c"] ∧
      (merged.extras.get? "a").bind Value.text? = some "y" ∧
      merged.unrecognised = ["b", "a", "c"] := by
  intro first second merged
  have distinct : first.keys.Nodup := by decide
  exact ⟨distinct, loadMembers_merge (new .titled) distinct second, by decide +kernel,
    by decide +kernel, by decide +kernel, by decide +kernel⟩

end SiteSettings
