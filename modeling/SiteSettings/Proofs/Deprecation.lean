import SiteSettings.Proofs.ReportOrder
import SiteSettings.Proofs.Staging

/-! Announcing that a field will go away. Its rule goes on coercing its values, but a deprecated
field takes part in the legacy phase and in the cross-checks in its own way, whatever its rule
would do there. -/

namespace SiteSettings

def Gains {α : Type} (part first second : List α) : Prop :=
  ∃ before after, first = before ++ after ∧ second = before ++ part ++ after

namespace Gains

variable {α : Type} {part first second : List α}

theorem append (gains : Gains part first second) (more : List α) :
    Gains part (first ++ more) (second ++ more) := by
  obtain ⟨before, after, rfl, rfl⟩ := gains
  exact ⟨before, after ++ more, by simp, by simp⟩

theorem prepend (gains : Gains part first second) (more : List α) :
    Gains part (more ++ first) (more ++ second) := by
  obtain ⟨before, after, rfl, rfl⟩ := gains
  exact ⟨more ++ before, after, by simp, by simp⟩

theorem length_eq (gains : Gains part first second) :
    second.length = first.length + part.length := by
  obtain ⟨before, after, rfl, rfl⟩ := gains
  simp only [List.length_append]
  omega

theorem nil_of_back {other : List α} (gains : Gains part first second)
    (back : Gains other second first) : part = [] ∧ other = [] := by
  have there := gains.length_eq
  have here := back.length_eq
  exact ⟨List.eq_nil_of_length_eq_zero (by omega), List.eq_nil_of_length_eq_zero (by omega)⟩

theorem nil_of_both {third more : List α} (gains : Gains part first second)
    (left : Gains more first third) (right : Gains more second third) : part = [] := by
  have lengths := gains.length_eq
  have same := left.length_eq.symm.trans right.length_eq
  exact List.eq_nil_of_length_eq_zero (by omega)

theorem eq_of_nil (gains : Gains [] first second) : second = first := by
  obtain ⟨before, after, rfl, rfl⟩ := gains
  rw [List.append_nil]

end Gains

namespace Field

def phaseOut (message : Option String) (field : Field) : Field :=
  { field with rule := .deprecated ⟨none, message⟩ (some field.rule) }

def phaseOutNamed (name : String) (message : Option String) (field : Field) : Field :=
  if field.name = name then field.phaseOut message else field

/-- The announcement, if there is a value to make it for. -/
def announcement (message : Option String) (field : Field) (held : Option Setting) :
    List Diagnostic :=
  match held with
  | none => []
  | some setting =>
    if setting.isNull then []
    else [⟨field.name, Rule.deprecatedText ⟨none, message⟩ field.name, none⟩]

variable {message : Option String} {field : Field}

theorem phaseOutNamed_self : field.phaseOutNamed field.name message = field.phaseOut message :=
  if_pos rfl

theorem phaseOutNamed_other {name : String} (other : field.name ≠ name) :
    field.phaseOutNamed name message = field := if_neg other

theorem name_phaseOutNamed (name : String) :
    (field.phaseOutNamed name message).name = field.name := by
  unfold phaseOutNamed
  split <;> rfl

/-- Coercion does not notice the announcement. -/
theorem verdict_phaseOutNamed (name : String) (environment : Environment) (base : Path)
    (slot : Option Setting) :
    (field.phaseOutNamed name message).verdict environment base slot =
      field.verdict environment base slot := by
  unfold phaseOutNamed
  split
  · cases source : field.source? slot with
    | none =>
      rw [verdict_of_no_source source]
      exact verdict_of_no_source source
    | some setting =>
      rw [verdict_of_source source]
      exact verdict_of_source source
  · rfl

theorem complaints_phaseOut (message : Option String) (field : Field)
    (slots : OrderedMap Setting) :
    ((field.phaseOut message).complaints slots).problem = none ∧
      ((field.phaseOut message).complaints slots).notes field.name =
        field.announcement message (slots.get? field.name) := by
  simp only [complaints, preparation, phaseOut, Rule.prepare, announcement, Verdict.notes]
  cases slots.get? field.name with
  | none => exact ⟨rfl, rfl⟩
  | some setting =>
    simp only
    split <;> exact ⟨rfl, rfl⟩

end Field

namespace Rule

variable {rule : Rule} {key : String} {slots : OrderedMap Setting}

theorem prepare_alike (rule : Rule) (key : String) {first second : OrderedMap Setting}
    (alike : first.Alike second) :
    (rule.prepare key first).slots.Alike (rule.prepare key second).slots := by
  cases rule with
  | removed notice =>
    simp only [prepare, alike.contains]
    split <;> exact alike
  | deprecated notice inner =>
    simp only [prepare, alike key]
    cases second.get? key with
    | none => exact alike
    | some value =>
      simp only
      split
      · exact alike
      · have vacated := alike.erase key
        cases notice.movedTo with
        | none => exact vacated.insert key value
        | some target =>
          simp only [moveValue, vacated.contains]
          split
          · exact vacated.insert key value
          · exact vacated.insert target value
  | _ => exact alike

/-- No field moves its value in silence. -/
theorem prepare_of_silent (silent : (rule.prepare key slots).warnings = []) :
    (rule.prepare key slots).slots.Alike slots := by
  cases rule with
  | removed notice => exact prepare_still rfl key slots
  | deprecated notice inner =>
    simp only [prepare] at silent ⊢
    cases held : slots.get? key with
    | none => exact .refl slots
    | some value =>
      simp only [held] at silent ⊢
      split at silent
      next null => rw [if_pos null]; exact .refl slots
      next => cases silent
  | _ => exact .refl slots

/-- A field that does not leave the slots as they are has moved its value away. -/
theorem vacated_of_moved (moved : ¬ (rule.prepare key slots).slots.Alike slots) :
    rule.successor? ≠ none ∧ slots.get? key ≠ none ∧
      (rule.prepare key slots).slots.get? key = none := by
  have busy : ¬ rule.Idle key slots := fun idle => moved (prepare_of_idle idle).2
  cases rule with
  | deprecated notice inner =>
    simp only [Idle, not_or, not_forall, Bool.not_eq_true, OrderedMap.contains_eq_false_iff] at busy
    obtain ⟨filled, target, moves, apart, vacant⟩ := busy
    obtain ⟨value, held, present⟩ := exists_of_not_unset filled
    refine ⟨?_, ?_, ?_⟩
    · simp [successor?, moves]
    · simp [held]
    · rw [prepare_moves moves apart held present vacant,
        OrderedMap.get?_insert_of_ne _ _ (Ne.symm apart), OrderedMap.get?_erase, if_pos rfl]
  | removed notice => exact absurd (prepare_still rfl key slots) moved
  | _ => exact absurd trivial busy

end Rule

namespace Pass

structure Grows (before after : Pass) (failed : List String) (errors warnings : List Diagnostic) :
    Prop where
  failed : after.failed = before.failed ++ failed
  errors : after.report.errors = before.report.errors ++ errors
  warnings : after.report.warnings = before.report.warnings ++ warnings

theorem Adds.grows {before after : Pass} {name : String} {problem : Option Problem}
    {warnings : List String} (adds : Adds before after name problem warnings) :
    before.Grows after (if problem.isSome then [name] else [])
      (problem.map (Problem.toDiagnostic name)).toList
      (warnings.map fun message => ⟨name, message, none⟩) :=
  ⟨adds.failed, adds.errors, adds.warnings⟩

theorem Grows.trans {first second third : Pass} {failed later_failed : List String}
    {errors later_errors warnings later_warnings : List Diagnostic}
    (now : first.Grows second failed errors warnings)
    (later : second.Grows third later_failed later_errors later_warnings) :
    first.Grows third (failed ++ later_failed) (errors ++ later_errors)
      (warnings ++ later_warnings) where
  failed := by rw [later.failed, now.failed, List.append_assoc]
  errors := by rw [later.errors, now.errors, List.append_assoc]
  warnings := by rw [later.warnings, now.warnings, List.append_assoc]

/-- Two passes that read the same go through the legacy phase alike, whatever was said before. -/
theorem prepareFields_alike (fields : List Field) {first second : Pass}
    (alike : first.slots.Alike second.slots) :
    (fields.foldl prepareField first).slots.Alike (fields.foldl prepareField second).slots ∧
      ∃ failed errors warnings,
        first.Grows (fields.foldl prepareField first) failed errors warnings ∧
          second.Grows (fields.foldl prepareField second) failed errors warnings := by
  induction fields generalizing first second with
  | nil => exact ⟨alike, [], [], [], ⟨by simp, by simp, by simp⟩, ⟨by simp, by simp, by simp⟩⟩
  | cons field rest ih =>
    have here := first.adds_prepareField field
    have there := second.adds_prepareField field
    obtain ⟨problem, warnings⟩ := field.rule.prepare_says_congr (alike field.name)
    simp only [Field.preparation, problem, warnings] at here there
    have next : (first.prepareField field).slots.Alike (second.prepareField field).slots := by
      rw [prepareField_slots, prepareField_slots]
      exact field.rule.prepare_alike field.name alike
    obtain ⟨after, _, _, _, left, right⟩ := ih next
    exact ⟨after, _, _, _, here.grows.trans left, there.grows.trans right⟩

end Pass

namespace Schema

def phaseOut (schema : Schema) (name : String) (message : Option String) : Schema :=
  { schema with fields := schema.fields.map (Field.phaseOutNamed name message) }

variable {schema : Schema} (name : String) (message : Option String)

theorem names_phaseOut : (schema.phaseOut name message).names = schema.names := by
  simp only [names, phaseOut, List.map_map, Function.comp_def, Field.name_phaseOutNamed]

theorem declares_phaseOut (key : String) :
    (schema.phaseOut name message).declares key = schema.declares key := by
  rw [Bool.eq_iff_iff, declares_iff, declares_iff, names_phaseOut]

end Schema

namespace Config

def phaseOut (config : Config) (name : String) (message : Option String) : Config :=
  { config with schema := config.schema.phaseOut name message }

theorem distinct_phaseOut {config : Config} (distinct : config.schema.names.Nodup) (name : String)
    (message : Option String) : (config.phaseOut name message).schema.names.Nodup := by
  show (config.schema.phaseOut name message).names.Nodup
  rwa [Schema.names_phaseOut]

theorem loadMembers_phaseOut (config : Config) (name : String) (message : Option String)
    (members : OrderedMap Value) :
    (config.phaseOut name message).loadMembers members =
      (config.loadMembers members).phaseOut name message := by
  obtain ⟨entries⟩ := members
  induction entries generalizing config with
  | nil => rfl
  | cons entry rest ih =>
    have here : (config.phaseOut name message).loadEntry entry.1 entry.2 =
        (config.loadEntry entry.1 entry.2).phaseOut name message := by
      simp only [loadEntry, phaseOut, Schema.declares_phaseOut]
      split <;> rfl
    rw [loadMembers_cons, here, ih, loadMembers_cons]

theorem load_phaseOut (config : Config) (name : String) (message : Option String)
    (document : Value) :
    (config.phaseOut name message).load document =
      (config.load document).map (·.phaseOut name message) := by
  cases document with
  | object members => exact congrArg Except.ok (config.loadMembers_phaseOut name message members)
  | _ => rfl

def slotsAtTurn (config : Config) (environment : Environment) (name : String) : OrderedMap Setting :=
  ((config.schema.fields.takeWhile fun other => other.name ≠ name).foldl Pass.prepareField
    (config.opened environment)).slots

/-- Coercion is all that the field has a part in: when its turn comes in the legacy phase it neither
complains nor warns, and no cross-check of its own finds fault with it. -/
structure Silent (config : Config) (environment : Environment) (field : Field) : Prop where
  content : (field.preparation (config.slotsAtTurn environment field.name)).problem = none
  quiet : (field.preparation (config.slotsAtTurn environment field.name)).warnings = []
  apart : config.crossErrors environment field = []

section Turn

variable {config : Config} {before after : List Field} {field : Field}
  (turn : config.schema.fields = before ++ field :: after) (distinct : config.schema.names.Nodup)
  (environment : Environment) (message : Option String)

include turn distinct

theorem slotsAtTurn_eq :
    config.slotsAtTurn environment field.name =
      (before.foldl Pass.prepareField (config.opened environment)).slots := by
  have earlier : ∀ other ∈ before, decide (other.name ≠ field.name) = true := by
    intro other inside
    exact decide_eq_true (Pass.fresh_turn turn distinct (.inl inside)).symm
  rw [slotsAtTurn, turn, List.takeWhile_append_of_pos earlier, List.takeWhile_cons_of_neg (by simp),
    List.append_nil]

theorem fields_phaseOut :
    (config.phaseOut field.name message).schema.fields =
      before ++ field.phaseOut message :: after := by
  have others {fields : List Field} (fresh : ∀ other ∈ fields, other ∈ before ∨ other ∈ after) :
      fields.map (Field.phaseOutNamed field.name message) = fields := by
    refine (List.map_congr_left fun other inside => ?_).trans fields.map_id
    exact Field.phaseOutNamed_other (Pass.fresh_turn turn distinct (fresh other inside)).symm
  show config.schema.fields.map _ = _
  rw [turn, List.map_append, List.map_cons, others fun _ => .inl, others fun _ => .inr,
    Field.phaseOutNamed_self]

omit turn distinct in
theorem opened_phaseOut (name : String) :
    (config.phaseOut name message).opened environment = config.opened environment := by
  have fields : (config.phaseOut name message).schema.fields.length =
      config.schema.fields.length := List.length_map _
  simp only [opened, fields]
  rfl

/-- What the announcement makes of the legacy phase: instead of what the field has to say there
itself, it is announced to go away. -/
theorem prepared_phaseOut
    (stays : (field.preparation (config.slotsAtTurn environment field.name)).slots.Alike
      (config.slotsAtTurn environment field.name)) :
    let own := field.complaints (config.slotsAtTurn environment field.name)
    let told := field.announcement message
      ((config.slotsAtTurn environment field.name).get? field.name)
    let plain := config.prepared environment
    let announced := (config.phaseOut field.name message).prepared environment
    announced.slots.Alike plain.slots ∧
      (∀ name, name ≠ field.name → (name ∈ announced.failed ↔ name ∈ plain.failed)) ∧
      Gains (own.errors field.name) announced.report.errors plain.report.errors ∧
      ∃ rest, Gains (own.notes field.name) rest plain.report.warnings ∧
        Gains told rest announced.report.warnings := by
  intro own told plain announced
  have plain_eq : plain = _ := Pass.foldl_turn turn
  have announced_eq : announced = _ := Pass.foldl_turn (fields_phaseOut turn distinct message)
  rw [opened_phaseOut] at announced_eq
  rw [slotsAtTurn_eq turn distinct] at stays
  simp only [own, told, slotsAtTurn_eq turn distinct]
  -- up to the field's turn it is one and the same pass, and the later fields find the same slots
  generalize before.foldl Pass.prepareField (config.opened environment) = start at *
  have alike : (start.prepareField (field.phaseOut message)).slots.Alike
      (start.prepareField field).slots := by
    rw [Pass.prepareField_slots, Pass.prepareField_slots]
    exact (Rule.prepare_still rfl field.name start.slots).trans stays.symm
  obtain ⟨slots, failed, errors, warnings, announced_grows, plain_grows⟩ :=
    Pass.prepareFields_alike after alike
  rw [← announced_eq, ← plain_eq] at slots
  rw [← announced_eq] at announced_grows
  rw [← plain_eq] at plain_grows
  have plain_all := (start.adds_prepareField field).grows.trans plain_grows
  have announced_all :=
    (start.adds_prepareField (field.phaseOut message)).grows.trans announced_grows
  obtain ⟨content, said⟩ := Field.complaints_phaseOut message field start.slots
  simp only [Field.complaints] at content
  refine ⟨slots, fun name other => ?_, ?_, ?_⟩
  · rw [plain_all.failed, announced_all.failed, content]
    simp [other]
  · refine ⟨start.report.errors, errors, ?_, ?_⟩
    · simpa [content] using announced_all.errors
    · rw [plain_all.errors, List.append_assoc]
      rfl
  · refine ⟨start.report.warnings ++ warnings, ⟨_, _, rfl, ?_⟩, ⟨_, _, rfl, ?_⟩⟩
    · rw [plain_all.warnings, List.append_assoc]
      rfl
    · rw [announced_all.warnings, List.append_assoc, ← said]
      rfl

end Turn

section Settled

variable {config : Config} {environment : Environment} {name : String} {message : Option String}
  (alike : ((config.phaseOut name message).prepared environment).slots.Alike
    (config.prepared environment).slots)

include alike

theorem verdict_phaseOut (field : Field) :
    (config.phaseOut name message).verdict environment (field.phaseOutNamed name message) =
      config.verdict environment field := by
  simp only [verdict, Field.name_phaseOutNamed, alike field.name]
  exact Field.verdict_phaseOutNamed name environment _ _

/-- What the fields say when they are coerced is said of each of them all the same. -/
theorem flatMap_phaseOut (speech : Verdict → String → List Diagnostic) :
    ((config.phaseOut name message).schema.fields.flatMap fun field =>
        speech ((config.phaseOut name message).verdict environment field) field.name) =
      config.schema.fields.flatMap fun field =>
        speech (config.verdict environment field) field.name := by
  show (config.schema.fields.map _).flatMap _ = _
  simp only [List.flatMap_map, verdict_phaseOut alike, Field.name_phaseOutNamed]

variable (distinct : config.schema.names.Nodup)

include distinct

/-- The announcement changes nothing about what is coerced, nor to what. -/
theorem coerced_phaseOut :
    ((config.phaseOut name message).coerced environment).slots.Alike
      (config.coerced environment).slots := by
  intro key
  rw [← validate_get?, ← validate_get?]
  refine (validate_slot_congr distinct (distinct_phaseOut distinct _ _) ?_ fun undeclared =>
    ⟨?_, alike key⟩).symm
  · intro field member same
    exact ⟨_, List.mem_map_of_mem member, (Field.name_phaseOutNamed name).trans same,
      verdict_phaseOut alike field⟩
  · exact config.schema.names_phaseOut name message ▸ undeclared

theorem mem_failed_phaseOut_iff {other : String}
    (same : other ∈ ((config.phaseOut name message).prepared environment).failed ↔
      other ∈ (config.prepared environment).failed) :
    other ∈ ((config.phaseOut name message).coerced environment).failed ↔
      other ∈ (config.coerced environment).failed := by
  have failing : ((config.phaseOut name message).schema.fields.filter fun field =>
        ((config.phaseOut name message).verdict environment field).problem.isSome).map Field.name =
      (config.schema.fields.filter fun field =>
        (config.verdict environment field).problem.isSome).map Field.name := by
    show ((config.schema.fields.map _).filter _).map _ = _
    simp only [List.filter_map, List.map_map, Function.comp_def, verdict_phaseOut alike,
      Field.name_phaseOutNamed]
  rw [coerced_failed distinct, coerced_failed (distinct_phaseOut distinct _ _), failing,
    List.mem_append, List.mem_append, same]

theorem crossErrors_phaseOut {field : Field}
    (same : field.name ∈ ((config.phaseOut name message).prepared environment).failed ↔
      field.name ∈ (config.prepared environment).failed) :
    (config.phaseOut name message).crossErrors environment field =
      config.crossErrors environment field := by
  have slots := coerced_phaseOut alike distinct
  exact crossErrors_congr (mem_failed_phaseOut_iff alike distinct same)
    (field.rule.crossCheck_congr environment (config.baseDir environment) field.name
      fun key => congrArg (Option.map Setting.toValue) (slots key))

end Settled

/-- A deprecated field is never cross-checked. -/
theorem crossErrors_deprecated (config : Config) (environment : Environment)
    (message : Option String) (field : Field) :
    config.crossErrors environment (field.phaseOut message) = [] := by
  have unchecked : Pass.crossProblem? environment (config.baseDir environment)
      (config.coerced environment).failed (config.coerced environment).slots
      (field.phaseOut message) = none := ite_self none
  simp only [crossErrors, unchecked]
  rfl

end Config

/-- The second validation leaves the same behind as the first, with these warnings besides. -/
structure Validation.Announces (first second : Validation) (told : List Diagnostic) : Prop where
  slots : second.config.slots.Alike first.config.slots
  errors : second.report.errors = first.report.errors
  warnings : Gains told first.report.warnings second.report.warnings

namespace Config

section Turn

variable {config : Config} {before after : List Field} {field : Field}
  (turn : config.schema.fields = before ++ field :: after) (distinct : config.schema.names.Nodup)
  (environment : Environment) (message : Option String)

include turn distinct

/-- Of the cross-checks only that of the field itself is lost. -/
theorem crossed_phaseOut
    (alike : ((config.phaseOut field.name message).prepared environment).slots.Alike
      (config.prepared environment).slots)
    (failed : ∀ name, name ≠ field.name →
      (name ∈ ((config.phaseOut field.name message).prepared environment).failed ↔
        name ∈ (config.prepared environment).failed)) :
    Gains (config.crossErrors environment field)
      ((config.phaseOut field.name message).schema.fields.flatMap
        ((config.phaseOut field.name message).crossErrors environment))
      (config.schema.fields.flatMap (config.crossErrors environment)) := by
  have others {fields : List Field} (fresh : ∀ other ∈ fields, other ∈ before ∨ other ∈ after) :
      fields.flatMap ((config.phaseOut field.name message).crossErrors environment) =
        fields.flatMap (config.crossErrors environment) :=
    List.flatMap_congr fun other inside => crossErrors_phaseOut alike distinct
      (failed _ (Pass.fresh_turn turn distinct (fresh other inside)).symm)
  rw [fields_phaseOut turn distinct, turn, List.flatMap_append, List.flatMap_append,
    List.flatMap_cons, List.flatMap_cons, crossErrors_deprecated, others fun _ => .inl,
    others fun _ => .inr]
  exact ⟨_, _, rfl, (List.append_assoc ..).symm⟩

/-- A field that moves nothing is coerced as before when it is announced to go away. What is lost
from the report is what its own rule says in the legacy phase and the cross-checks. -/
theorem validate_phaseOut
    (stays : (field.preparation (config.slotsAtTurn environment field.name)).slots.Alike
      (config.slotsAtTurn environment field.name)) :
    let own := field.complaints (config.slotsAtTurn environment field.name)
    let told := field.announcement message
      ((config.slotsAtTurn environment field.name).get? field.name)
    let first := config.validate environment
    let second := (config.phaseOut field.name message).validate environment
    second.config.slots.Alike first.config.slots ∧
      (∃ errors, Gains (own.errors field.name) second.report.errors errors ∧
        Gains (config.crossErrors environment field) errors first.report.errors) ∧
      ∃ warnings, Gains (own.notes field.name) warnings first.report.warnings ∧
        Gains told warnings second.report.warnings := by
  intro own told first second
  obtain ⟨alike, failed, complaints, rest, notes, announced⟩ :=
    prepared_phaseOut turn distinct environment message stays
  have checked := crossed_phaseOut turn distinct environment message alike failed
  have first_errors : first.report.errors = _ := validate_errors distinct environment
  have second_errors : second.report.errors = _ :=
    validate_errors (distinct_phaseOut distinct _ _) environment
  have first_warnings : first.report.warnings = _ := validate_warnings distinct environment
  have second_warnings : second.report.warnings = _ :=
    validate_warnings (distinct_phaseOut distinct _ _) environment
  rw [flatMap_phaseOut alike Verdict.errors] at second_errors
  rw [flatMap_phaseOut alike Verdict.notes] at second_warnings
  refine ⟨?_, ?_, ?_⟩
  · simp only [first, second, validate_config]
    exact coerced_phaseOut alike distinct
  · rw [first_errors, second_errors]
    exact ⟨_, (complaints.append _).append _, checked.prepend _⟩
  · rw [first_warnings, second_warnings]
    exact ⟨_, (notes.append _).append _, (announced.append _).append _⟩

/-- A field that moves its value away has nothing left in the end, unless another value moves in. -/
theorem vacated_of_moved (bare : field.default = none)
    (unfed : ∀ other ∈ config.schema.fields, other.rule.successor? ≠ some field.name)
    (moved : ¬ (field.preparation (config.slotsAtTurn environment field.name)).slots.Alike
      (config.slotsAtTurn environment field.name)) :
    (config.validate environment).config.get? field.name = none ∧
      ((config.phaseOut field.name message).validate environment).config.get? field.name ≠ none := by
  obtain ⟨_, held, vacated⟩ := Rule.vacated_of_moved moved
  have member : field ∈ config.schema.fields := turn ▸ List.mem_append_right _ List.mem_cons_self
  have announced : field.phaseOutNamed field.name message ∈
      (config.phaseOut field.name message).schema.fields := List.mem_map_of_mem member
  rw [slotsAtTurn_eq turn distinct] at held vacated
  constructor
  · rw [validate_slot distinct member, verdict, Field.verdict_slot_eq_none_iff bare, prepared,
      Pass.foldl_turn turn, Pass.get?_after_turn turn distinct unfed, Pass.prepareField_slots]
    exact vacated
  · have settled : ((config.phaseOut field.name message).validate environment).config.get? _ = _ :=
      validate_slot (distinct_phaseOut distinct _ _) announced
    have stays : ((field.phaseOut message).preparation _).slots.Alike _ :=
      Rule.prepare_still rfl field.name
        (before.foldl Pass.prepareField (config.opened environment)).slots
    rw [Field.name_phaseOutNamed] at settled
    rw [settled, verdict, Field.verdict_phaseOutNamed, Field.name_phaseOutNamed, ne_eq,
      Field.verdict_slot_eq_none_iff bare, prepared,
      Pass.foldl_turn (fields_phaseOut turn distinct message), opened_phaseOut,
      Pass.get?_after_turn turn distinct unfed, Pass.prepareField_slots, stays field.name]
    exact held

/-- Coercion alone is the same with the announcement and without it. -/
theorem Silent.announces (silent : config.Silent environment field) :
    (config.validate environment).Announces
      ((config.phaseOut field.name message).validate environment)
      (field.announcement message
        ((config.slotsAtTurn environment field.name).get? field.name)) := by
  obtain ⟨slots, ⟨errors, complaints, crossed⟩, warnings, notes, told⟩ :=
    validate_phaseOut turn distinct environment message (Rule.prepare_of_silent silent.quiet)
  have mute : (field.complaints (config.slotsAtTurn environment field.name)).errors field.name =
      [] := (Verdict.errors_eq_nil_iff _ _).mpr silent.content
  have unwarned : (field.complaints (config.slotsAtTurn environment field.name)).notes field.name =
      [] := List.map_eq_nil_iff.mpr silent.quiet
  rw [mute] at complaints
  rw [silent.apart] at crossed
  rw [unwarned] at notes
  refine ⟨slots, complaints.eq_of_nil.symm.trans crossed.eq_of_nil.symm, ?_⟩
  rwa [notes.eq_of_nil]

/-- Where the announcement makes no other difference, the field had nothing else to say. -/
theorem silent_of_announces (bare : field.default = none)
    (unfed : field.rule.successor? ≠ none →
      ∀ other ∈ config.schema.fields, other.rule.successor? ≠ some field.name)
    (announces : (config.validate environment).Announces
      ((config.phaseOut field.name message).validate environment)
      (field.announcement message
        ((config.slotsAtTurn environment field.name).get? field.name))) :
    config.Silent environment field := by
  by_cases stays : (field.preparation (config.slotsAtTurn environment field.name)).slots.Alike
    (config.slotsAtTurn environment field.name)
  · obtain ⟨_, ⟨errors, complaints, crossed⟩, warnings, notes, told⟩ :=
      validate_phaseOut turn distinct environment message stays
    -- nothing can have been lost from reports that are equally long
    rw [announces.errors] at complaints
    obtain ⟨mute, unchecked⟩ := complaints.nil_of_back crossed
    have unwarned := notes.nil_of_both told announces.warnings
    exact ⟨(Verdict.errors_eq_nil_iff _ _).mp mute, List.map_eq_nil_iff.mp unwarned, unchecked⟩
  · have moves := (Rule.vacated_of_moved stays).1
    obtain ⟨gone, kept⟩ :=
      vacated_of_moved turn distinct environment message bare (unfed moves) stays
    exact absurd ((announces.slots field.name).trans gone) kept

theorem held_of_unfed
    (unfed : ∀ other ∈ config.schema.fields, other.rule.successor? ≠ some field.name) :
    (config.slotsAtTurn environment field.name).get? field.name = config.get? field.name := by
  rw [slotsAtTurn_eq turn distinct]
  exact Pass.get?_at_turn turn distinct unfed

end Turn

/-- Rules that only coerce have nothing to say in the other phases. -/
theorem silent_of_coercing (config : Config) (environment : Environment) {field : Field}
    (lasting : ¬ field.rule.IsRemoved) (current : ¬ field.rule.IsDeprecated)
    (inner : ¬ field.rule.IsSiteDirectory) : config.Silent environment field where
  content := by
    cases found : (field.preparation (config.slotsAtTurn environment field.name)).problem with
    | none => rfl
    | some problem => exact absurd (Rule.isRemoved_of_problem found) lasting
  quiet := List.eq_nil_iff_forall_not_mem.mpr fun _ said =>
    current (Rule.isDeprecated_of_warning said)
  apart := List.eq_nil_iff_forall_not_mem.mpr fun _ blamed => by
    obtain ⟨problem, found, _⟩ := Problem.of_mem_diagnostics blamed
    exact inner (Pass.isSiteDirectory_of_crossProblem (Option.ne_none_iff_exists'.mpr ⟨_, found⟩))

theorem schema_of_load {start config : Config} {document : Value}
    (loaded : start.load document = .ok config) : config.schema = start.schema := by
  cases document with
  | object members =>
    cases loaded
    exact start.loadMembers_schema members
  | _ => cases loaded

/-- When a field without a default can be announced to go away and is validated as before: with the
same slots and errors, and one warning more if there is a value when its turn comes. That is so if
its rule has nothing to say in the legacy phase and the cross-checks, like every rule that only
coerces. And it is so only then, at least if no other field's value moves in where the rule moves
the field's own value away. -/
theorem phaseOut_announces_iff {schema : Schema} (distinct : schema.names.Nodup) {field : Field}
    (member : field ∈ schema.fields) (bare : field.default = none) (message : Option String)
    (base : Option Path) (document : Value) (environment : Environment) :
    (fresh (schema.phaseOut field.name message) base).load document =
        ((fresh schema base).load document).map (·.phaseOut field.name message) ∧
      ∀ config, (fresh schema base).load document = .ok config →
        let held := (config.slotsAtTurn environment field.name).get? field.name
        let alike := (config.validate environment).Announces
          ((config.phaseOut field.name message).validate environment)
          (field.announcement message held)
        (config.Silent environment field → alike) ∧
          ((field.rule.successor? ≠ none →
              ∀ other ∈ schema.fields, other.rule.successor? ≠ some field.name) →
            alike → config.Silent environment field) ∧
          (¬ field.rule.IsRemoved → ¬ field.rule.IsDeprecated → ¬ field.rule.IsSiteDirectory →
            alike) ∧
          ((∀ other ∈ schema.fields, other.rule.successor? ≠ some field.name) →
            held = config.get? field.name) := by
  refine ⟨load_phaseOut (fresh schema base) field.name message document, ?_⟩
  intro config loaded held alike
  obtain rfl : config.schema = schema := schema_of_load loaded
  obtain ⟨before, after, turn⟩ := List.append_of_mem member
  have announces (silent : config.Silent environment field) : alike :=
    silent.announces turn distinct environment message
  exact ⟨announces, silent_of_announces turn distinct environment message bare,
    fun lasting current inner =>
      announces (config.silent_of_coercing environment lasting current inner),
    held_of_unfed turn distinct environment⟩

end Config

def Schema.published : Schema where
  fields := [
    ⟨"docs_dir", .directory false, none, false⟩,
    ⟨"site_dir", .siteDirectory "docs_dir", none, false⟩]
  passthrough := false

def Config.overwriting : Config :=
  (fresh .published none).loadMembers
    (.ofList [("docs_dir", .text "docs"), ("site_dir", .text "docs")])

theorem Config.docs_phased_out :
    let docs : Field := ⟨"docs_dir", .directory false, none, false⟩
    Schema.published.names.Nodup ∧ docs ∈ Schema.published.fields ∧
      (overwriting.validate .bare).Announces ((overwriting.phaseOut "docs_dir" none).validate .bare)
        [⟨"docs_dir", "The configuration option 'docs_dir' has been deprecated and will be " ++
          "removed in a future release.", none⟩] := by
  intro docs
  have distinct : Schema.published.names.Nodup := by decide
  have member : docs ∈ Schema.published.fields := List.mem_cons_self
  obtain ⟨_, announces⟩ := phaseOut_announces_iff distinct member rfl none none
    (.ofMembers [("docs_dir", .text "docs"), ("site_dir", .text "docs")]) .bare
  obtain ⟨_, _, coercing, _⟩ := announces overwriting rfl
  exact ⟨distinct, member, coercing nofun nofun nofun⟩

/-- Without the announcement the output directory is blamed, and with it nothing is wrong. -/
theorem Config.site_unchecked :
    let site : Field := ⟨"site_dir", .siteDirectory "docs_dir", none, false⟩
    Schema.published.names.Nodup ∧ site ∈ Schema.published.fields ∧ site.default = none ∧
      (fresh .published none).load
          (.ofMembers [("docs_dir", .text "docs"), ("site_dir", .text "docs")]) = .ok overwriting ∧
      (overwriting.validate .bare).report.errors.map Diagnostic.field = ["site_dir"] ∧
      ((overwriting.phaseOut "site_dir" none).validate .bare).report.errors = [] ∧
      ∀ told, ¬ (overwriting.validate .bare).Announces
        ((overwriting.phaseOut "site_dir" none).validate .bare) told := by
  intro site
  have blamed : (overwriting.validate .bare).report.errors.map Diagnostic.field = ["site_dir"] := by
    decide +kernel
  have unblamed : ((overwriting.phaseOut "site_dir" none).validate .bare).report.errors = [] := by
    decide +kernel
  refine ⟨by decide, by simp [Schema.published, site], rfl, rfl, blamed, unblamed, ?_⟩
  intro told announces
  rw [← announces.errors, unblamed] at blamed
  cases blamed

end SiteSettings
