import SiteSettings.Proofs.LoweredThemes

/-! Which values their own rule leaves alone: an admitted value is coerced to itself
exactly if nothing in it is unsettled. -/

namespace SiteSettings

namespace Config

variable {config : Config} {environment : Environment} {base : Path}

/-- A configuration that was written out and is read back below the same base. -/
structure ReadsBack (config again : Config) (environment : Environment) (base : Path) : Prop where
  schema : again.schema = config.schema
  extras : again.extras = config.extras
  start : again.baseDir environment = base
  slot : ∀ name ∈ config.schema.names,
    again.get? name = (config.get? name).map fun setting => .data setting.toValue

theorem readsBack_nested (config : Config) (environment : Environment)
    (distinct : config.schema.names.Nodup) (tidy : config.Tidy) (canonical : base.Canonical) :
    config.ReadsBack (nested config.schema base config.toMembers) environment base where
  schema := nested_schema ..
  extras := reloaded_extras distinct tidy ((new config.schema).withBase base) rfl rfl
  start := by rw [nested_baseDir, Environment.absolute_eq canonical]
  slot name member :=
    (get?_reloaded distinct tidy ((new config.schema).withBase base) rfl rfl).trans (if_pos member)

namespace ReadsBack

variable {again : Config} (back : config.ReadsBack again environment base)

include back

theorem read {field : Field} (member : field ∈ config.schema.fields) :
    (again.get? field.name).map Setting.toValue =
      (config.get? field.name).map Setting.toValue := by
  rw [back.slot field.name (List.mem_map_of_mem member), Option.map_map]
  rfl

theorem data {field : Field} (member : field ∈ config.schema.fields) {original setting : Setting}
    (found : again.get? field.name = some setting) (same : setting.toValue = original.toValue) :
    setting = .data original.toValue := by
  rw [back.slot field.name (List.mem_map_of_mem member)] at found
  obtain ⟨held, _, rfl⟩ := Option.map_eq_some_iff.mp found
  exact congrArg Setting.data same

/-- If it is quiet and every field stands, validation writes it out as it was. -/
theorem validated (distinct : config.schema.names.Nodup) (quiet : again.Quiet environment)
    (stand : ∀ field ∈ config.schema.fields,
      (field.verdict environment base (again.get? field.name)).problem = none ∧
        (field.verdict environment base (again.get? field.name)).slot.map Setting.toValue =
          (again.get? field.name).map Setting.toValue) :
    (again.validate environment).report.errors = [] ∧
      (again.validate environment).config.toMembers = config.toMembers := by
  have again_distinct : again.schema.names.Nodup := back.schema ▸ distinct
  have stands : ∀ field ∈ again.schema.fields,
      (again.standing environment field).problem = none ∧
        (again.standing environment field).slot.map Setting.toValue =
          (again.get? field.name).map Setting.toValue := by
    intro field member
    rw [back.schema] at member
    rw [standing, back.start]
    exact stand field member
  refine ⟨quiet.faultless again_distinct stands, ?_⟩
  refine toMembers_congr back.schema back.extras fun name declared => ?_
  obtain ⟨field, member, rfl⟩ := List.mem_map.mp declared
  rw [quiet.read_validated again_distinct (Option.map Setting.toValue)
    (fun field member => (stands field member).2)]
  exact back.read (back.schema ▸ member)

/-- If validation writes it out as it was, it does so field by field. -/
theorem kept (distinct : config.schema.names.Nodup) (tidy : config.Tidy) (again_tidy : again.Tidy)
    (same : (again.validate environment).config.toMembers = config.toMembers) {field : Field}
    (member : field ∈ again.schema.fields) :
    ((again.validate environment).config.get? field.name).map Setting.toValue =
      (again.get? field.name).map Setting.toValue := by
  have name : field.name ∈ again.schema.names := List.mem_map_of_mem member
  have validated_distinct : (again.validate environment).config.schema.names.Nodup := by
    show again.schema.names.Nodup
    rw [back.schema]
    exact distinct
  calc ((again.validate environment).config.get? field.name).map Setting.toValue
      = (again.validate environment).config.toMembers.get? field.name :=
        (get?_toMembers validated_distinct (again_tidy.validate environment) name).symm
    _ = config.toMembers.get? field.name := by rw [same]
    _ = (config.get? field.name).map Setting.toValue :=
        get?_toMembers distinct tidy (back.schema ▸ name)
    _ = (again.get? field.name).map Setting.toValue :=
        (back.read (back.schema ▸ member)).symm

end ReadsBack

end Config

namespace Rule

variable {environment : Environment} {base : Path}

theorem coerceUrl_of_readsBack {directory : Bool} {text : String}
    (back : ReadsBack directory text) :
    coerceUrl directory (.data (.text text)) = .ok (.data (.text text)) := by
  rw [coerceUrl_eq_ok]
  by_cases empty : text = ""
  · rw [empty]
    exact .inl ⟨rfl, rfl⟩
  · obtain ⟨url, parsed, host, same⟩ := back.resolve_left empty
    exact .inr ⟨text, url, rfl, empty, parsed, host, by rw [same]⟩

/-- An admitted value in which nothing is unsettled is coerced to itself. -/
theorem coerce_of_settled (canonical : base.Canonical) (rule : Rule)
    (declared : rule.Everywhere Schema.Accepted) {given : Theme → Prop} {key : String}
    {default : Option Value} {setting : Setting} (admitted : rule.Admits environment given setting)
    (settled : rule.Settled environment base setting) :
    (rule.coerce ⟨environment, base, key, default⟩ setting).result = .ok setting := by
  induction rule using Rule.induct generalizing given key default setting with
  | removed notice | retired notice => rfl
  | deprecated notice inner ih => exact ih declared admitted settled
  | type kind length =>
    simp only [coerce, Coercion.of_result, coerceType_eq_ok]
    exact ⟨trivial, admitted⟩
  | choice choices =>
    simp only [coerce, Coercion.of_result, coerceChoice_eq_ok]
    exact ⟨trivial, admitted⟩
  | directory mustExist =>
    obtain ⟨path, rfl, normal, present⟩ := admitted
    simp only [coerce, Coercion.of_result, coerceDirectory_eq_ok]
    exact ⟨_, rfl, by rw [Environment.locate_eq normal], by rwa [Environment.locate_eq normal]⟩
  | file mustExist =>
    obtain ⟨path, rfl, normal, present⟩ := admitted
    simp only [coerce, Coercion.of_result, coerceFile_eq_ok]
    exact ⟨_, rfl, by rw [Environment.locate_eq normal], by rwa [Environment.locate_eq normal]⟩
  | siteDirectory docsKey =>
    obtain ⟨path, rfl, normal⟩ := admitted
    simp only [coerce, Coercion.of_result, coerceDirectory_eq_ok]
    exact ⟨_, rfl, by rw [Environment.locate_eq normal], by simp⟩
  | url directory =>
    obtain rfl | ⟨_, url, _, _, rfl⟩ := admitted
    · exact coerceUrl_of_readsBack (settled "" rfl)
    · exact coerceUrl_of_readsBack (settled (urlText directory url) rfl)
  | socketAddress =>
    obtain ⟨address, rfl⟩ := admitted
    rw [coerce_socketAddress_eq_ok]
    exact ⟨address, parseAddress_eq_ok.mpr ⟨_, rfl, SocketAddress.ofText?_toText address⟩, rfl⟩
  | nav =>
    simp only [coerce, Coercion.of_result, coerceNav_eq_ok]
    exact ⟨trivial, admitted⟩
  | listOf item ih =>
    obtain ⟨items, rfl, each⟩ := admitted
    rw [coerce_listOf_eq_ok]
    refine ⟨items, items, rfl, List.forall₂_same.mpr fun value member => ?_, rfl⟩
    obtain ⟨inner, rfl, inside⟩ := each value member
    have inner_settled := settled items rfl inner.toValue member
    cases inner with
    | data value => exact ⟨_, ih declared inside inner_settled, rfl⟩
    | theme theme => exact coerce_of_lowered canonical item declared inside inner_settled
  | mapping fields passthrough ih =>
    obtain ⟨config, schema, tidy, rfl, hold⟩ := admitted
    obtain ⟨quiet, each⟩ := settled _ rfl
    rw [Field.allHold_iff] at hold
    rw [Field.allSettled_iff] at each
    have declared : Schema.Declared ⟨fields, passthrough⟩ :=
      Schema.everywhere_mapping_iff.mp declared
    refine (coerce_mapping_eq_ok _).mpr ⟨config.toMembers, rfl, ?_⟩
    rw [← schema] at quiet each declared ⊢
    have back := config.readsBack_nested environment declared.distinct tidy canonical
    generalize Config.nested config.schema base config.toMembers = again at *
    have stand : ∀ field ∈ config.schema.fields,
        (field.verdict environment base (again.get? field.name)).problem = none ∧
          (field.verdict environment base (again.get? field.name)).slot.map Setting.toValue =
            (again.get? field.name).map Setting.toValue := by
      intro field member
      have inside : field ∈ fields := by rwa [schema] at member
      apply Field.stands_of_holds (hold field inside) (back.read member)
      intro original setting found same admitted
      have settled := each field inside setting found
      rw [back.data member found same] at settled ⊢
      cases original with
      | data value => exact ⟨_, ih field inside (declared.rule member) admitted settled, rfl⟩
      | theme theme =>
        exact coerce_of_lowered canonical field.rule (declared.rule member) admitted settled
    obtain ⟨faultless, written_out⟩ := back.validated declared.distinct quiet stand
    exact ⟨faultless, by rw [written_out]⟩
  | theme registry settings =>
    obtain ⟨theme, rfl, _⟩ := admitted
    obtain ⟨fields, passthrough⟩ := settings
    rfl

/-- Whatever is written the same after it was read back and coerced was settled. -/
theorem settled_of_coerce (canonical : base.Canonical) (rule : Rule)
    (declared : rule.Everywhere Schema.Accepted) (straight : rule.Everywhere Pass.Straight)
    {given : Theme → Prop} {key : String} {default : Option Value} {setting coerced : Setting}
    (fresh : ∀ theme, setting = .theme theme → ¬ given theme)
    (admitted : rule.Admits environment given setting)
    (done : (rule.coerce ⟨environment, base, key, default⟩ (.data setting.toValue)).result =
      .ok coerced) (same : coerced.toValue = setting.toValue) :
    rule.Settled environment base (.data setting.toValue) := by
  induction rule using Rule.induct generalizing given key default setting coerced with
  | deprecated notice inner ih => exact ih declared straight fresh admitted done same
  | url directory =>
    intro text held
    simp only [coerce, Coercion.of_result, coerceUrl_eq_ok, held] at done
    obtain ⟨empty, _⟩ | ⟨_, url, read, _, parsed, host, rfl⟩ := done
    · cases empty
      exact .inl rfl
    · cases read
      rw [Setting.data.inj held] at same
      exact .inr ⟨url, parsed, host, Value.text.inj same⟩
  | listOf item ih =>
    obtain ⟨items, rfl, each⟩ := admitted
    rintro _ ⟨⟩ value member
    obtain ⟨_, values, ⟨⟩, coerced_items, rfl⟩ := (coerce_listOf_eq_ok _).mp done
    cases same
    obtain ⟨again, alone, same⟩ := List.forall₂_same.mp coerced_items value member
    obtain ⟨inner, rfl, inside⟩ := each value member
    exact ih declared straight (fun _ _ => id) inside alone same
  | mapping fields passthrough ih =>
    obtain ⟨config, schema, tidy, rfl, hold⟩ := admitted
    rw [Field.allHold_iff] at hold
    have declared : Schema.Declared ⟨fields, passthrough⟩ :=
      Schema.everywhere_mapping_iff.mp declared
    obtain ⟨straight, straight_inside⟩ := Schema.everywhere_mapping_iff.mp straight
    obtain ⟨_, ⟨⟩, faultless, rfl⟩ := (coerce_mapping_eq_ok _).mp done
    rintro _ ⟨⟩
    rw [← schema] at same declared straight straight_inside faultless ⊢
    have back := config.readsBack_nested environment declared.distinct tidy canonical
    have again_tidy := Config.nested_tidy config.schema base config.toMembers
    generalize Config.nested config.schema base config.toMembers = again at *
    have distinct : again.schema.names.Nodup := back.schema ▸ declared.distinct
    have kept : ∀ field ∈ again.schema.fields,
        ((again.validate environment).config.get? field.name).map Setting.toValue =
          (again.get? field.name).map Setting.toValue :=
      fun field => back.kept declared.distinct tidy again_tidy (Value.object.inj same)
    have quiet := Config.quiet_of_kept distinct (back.schema ▸ straight) faultless kept
    refine ⟨quiet, Field.allSettled_iff.mpr fun field inside setting found => ?_⟩
    have member : field ∈ config.schema.fields := schema ▸ inside
    have again_member : field ∈ again.schema.fields := back.schema ▸ member
    have stands := ((Config.validate_faultless_iff distinct environment).mp faultless).settled
      field again_member
    have stays := kept field again_member
    rw [Config.validate_slot distinct again_member] at stays
    rw [quiet.verdict_eq, Config.standing, back.start] at stands stays
    obtain null | ⟨original, coerced, same, held, admitted, done, kept⟩ :=
      Field.coerce_of_stands (hold field inside) (back.read member) stands stays found
    · rw [Setting.eq_null null]
      exact settled_null field.rule
    · rw [back.data member found same] at done kept ⊢
      exact ih field inside (declared.rule member) (straight_inside field member) (fun _ _ => id)
        admitted done kept
  | theme registry settings =>
    obtain rfl : settings = themeSettings := declared
    obtain ⟨theme, rfl, known | ⟨_, apart, resolved⟩⟩ := admitted
    · exact absurd known (fresh theme rfl)
    rintro _ ⟨⟩
    exact (coerce_lowered_iff resolved canonical apart).mp ⟨coerced, done, same⟩
  | _ => trivial

end Rule

end SiteSettings
