import Mathlib.Logic.Relation
import SiteSettings.Proofs.ThemeAncestry

/-! Themes that extend themselves. An ascent that never comes to a theme without a parent comes
back to a theme that it has met. That theme, the knot, extends itself through its parents; the
theme that the ascent began with does so only if it is the knot. -/

namespace SiteSettings

/-- Where each step is the only one, a cycle is closed from wherever it can be reached. -/
theorem reaches_back_of_cycle {α : Type} {step : α → α → Prop} (unique : Relator.RightUnique step)
    {origin other : α} (cycle : Relation.TransGen step origin origin)
    (reached : Relation.ReflTransGen step origin other) :
    Relation.ReflTransGen step other origin := by
  induction reached with
  | refl => exact .refl
  | tail _ onward ih =>
    obtain same | ⟨next, first, rest⟩ := ih.cases_head
    · obtain ⟨next, first, rest⟩ := Relation.TransGen.head'_iff.mp cycle
      exact unique onward (same ▸ first) ▸ rest
    · exact unique onward first ▸ rest

namespace Registry

variable {registry : Registry}

def Extends (registry : Registry) (child parent : String) : Prop :=
  ∃ manifest, registry.lookup child = .ok manifest ∧ manifest.parent = some parent

/-- Going on to the parent, once or more often, leads back to the theme. -/
def ExtendsItself (registry : Registry) (theme : String) : Prop :=
  Relation.TransGen registry.Extends theme theme

theorem extends_unique : Relator.RightUnique registry.Extends := by
  intro child parent other first second
  obtain ⟨manifest, found, linked⟩ := first
  obtain ⟨_, again, other_linked⟩ := second
  cases found.symm.trans again
  exact Option.some.inj (linked.symm.trans other_linked)

namespace Ascent

variable {start next : Option String} {chain : List Manifest}

theorem start_of_next {key : String} (ascent : registry.Ascent start chain (some key)) :
    ∃ first, start = some first := by
  cases ascent with
  | stay => exact ⟨key, rfl⟩
  | climb => exact ⟨_, rfl⟩

theorem reaches {first last : String} (ascent : registry.Ascent (some first) chain (some last)) :
    Relation.ReflTransGen registry.Extends first last := by
  induction chain generalizing first with
  | nil =>
    cases ascent
    exact .refl
  | cons manifest chain ih =>
    obtain ⟨found, rest⟩ : registry.lookup first = .ok manifest ∧
        registry.Ascent manifest.parent chain (some last) := by
      cases ascent with
      | climb found rest => exact ⟨found, rest⟩
    obtain ⟨parent, linked⟩ := rest.start_of_next
    exact .head ⟨manifest, found, linked⟩ (ih (linked ▸ rest))

/-- An ascent may be cut at any theme that it meets. -/
theorem split {manifest : Manifest} (ascent : registry.Ascent start chain next)
    (member : manifest ∈ chain) :
    ∃ before after, chain = before ++ manifest :: after ∧
      registry.Ascent start before (some manifest.name) ∧
      registry.Ascent manifest.parent after next := by
  induction ascent with
  | stay => cases member
  | climb found rest ih =>
    obtain rfl | later := List.mem_cons.mp member
    · exact ⟨[], _, rfl, registry.name_eq found ▸ .stay _, rest⟩
    · obtain ⟨before, after, rfl, below, above⟩ := ih later
      exact ⟨_ :: before, after, rfl, .climb found below, above⟩

theorem mem_of_extends {child parent key : String}
    (ascent : registry.Ascent start chain (some key)) (met : child ∈ chain.map Manifest.name)
    (extends_ : registry.Extends child parent) :
    parent ∈ chain.map Manifest.name ∨ parent = key := by
  obtain ⟨manifest, member, rfl⟩ := List.mem_map.mp met
  obtain ⟨_, known, linked⟩ := extends_
  cases (ascent.found member).symm.trans known
  obtain ⟨before, after, rfl, _, above⟩ := ascent.split member
  rw [linked] at above
  cases above with
  | stay => exact .inr rfl
  | climb found rest => exact .inl (List.mem_map.mpr ⟨_, by simp, registry.name_eq found⟩)

/-- Nothing outside a loop can be reached from it. -/
theorem met_of_reaches {knot other : String}
    (around : registry.Ascent (some knot) chain (some knot)) (met : knot ∈ chain.map Manifest.name)
    (reached : Relation.ReflTransGen registry.Extends knot other) :
    other ∈ chain.map Manifest.name := by
  induction reached with
  | refl => exact met
  | tail _ onward ih =>
    obtain inside | rfl := around.mem_of_extends ih onward
    · exact inside
    · exact met

end Ascent

/-- The ascent meets no theme twice until it comes back to one that it has met, the knot. -/
structure Returns (registry : Registry) (start : String) (chain : List Manifest) (knot : String) :
    Prop where
  ascent : registry.Ascent (some start) chain (some knot)
  distinct : Distinct chain
  met : knot ∈ chain.map Manifest.name

namespace Returns

variable {start knot : String} {chain : List Manifest} (returns : registry.Returns start chain knot)

include returns

/-- The themes met are those on the way to the knot and those on a loop around it. -/
theorem loop : ∃ before manifest after, chain = before ++ manifest :: after ∧
    manifest.name = knot ∧ registry.Ascent (some start) before (some knot) ∧
    registry.Ascent (some knot) (manifest :: after) (some knot) := by
  obtain ⟨manifest, member, rfl⟩ := List.mem_map.mp returns.met
  obtain ⟨before, after, rfl, below, above⟩ := returns.ascent.split member
  exact ⟨before, manifest, after, rfl, rfl, below, .climb (returns.ascent.found member) above⟩

theorem extendsItself : registry.ExtendsItself knot := by
  obtain ⟨manifest, member, rfl⟩ := List.mem_map.mp returns.met
  obtain ⟨_, _, _, _, above⟩ := returns.ascent.split member
  obtain ⟨parent, linked⟩ := above.start_of_next
  exact .head' ⟨manifest, returns.ascent.found member, linked⟩ (linked ▸ above).reaches

/-- A cycle through the start leads back to it from the knot, so the start lies on the loop, and
nothing comes before the knot. -/
theorem extendsItself_start_iff : registry.ExtendsItself start ↔ knot = start := by
  constructor
  · intro cycle
    obtain ⟨before, manifest, after, rfl, named, below, around⟩ := returns.loop
    have met : knot ∈ (manifest :: after).map Manifest.name :=
      List.mem_map.mpr ⟨manifest, List.mem_cons_self, named⟩
    have back := reaches_back_of_cycle extends_unique cycle below.reaches
    have inside := around.met_of_reaches met back
    cases below with
    | stay => rfl
    | @climb _ first before _ found rest =>
      have distinct := returns.distinct
      rw [Distinct, List.map_append, List.nodup_append] at distinct
      have outside := distinct.2.2 first.name (by simp) start inside
      exact absurd (registry.name_eq found) outside
  · rintro rfl
    exact returns.extendsItself

theorem circles : registry.Circles start := by
  obtain ⟨manifest, member, rfl⟩ := List.mem_map.mp returns.met
  refine ⟨chain ++ [manifest], _,
    returns.ascent.trans (.climb (returns.ascent.found member) (.stay _)), ?_⟩
  intro distinct
  rw [Distinct, List.map_append, List.nodup_append] at distinct
  exact absurd rfl (distinct.2.2 _ (List.mem_map_of_mem member) _ (by simp))

end Returns

theorem outcome_eq_cycle {start blamed : String} {child next : Option String}
    {chain : List Manifest}
    (told : registry.outcome start child chain next = .error (.cycle blamed)) :
    ∃ key manifest, next = some key ∧ registry.lookup key = .ok manifest := by
  unfold outcome at told
  split at told
  · cases told
  next key =>
    split at told
    next manifest found => exact ⟨key, manifest, rfl, found⟩
    next => split at told <;> cases told
    next => cases told

theorem circles_iff {name : String} :
    registry.Circles name ↔ ∃ chain knot, registry.Returns name chain knot := by
  constructor
  · intro circles
    obtain ⟨chain, next, summit, told⟩ := registry.exists_summit name
    rw [chain_eq_iff.mpr (.circular circles)] at told
    obtain ⟨knot, manifest, rfl, found⟩ := outcome_eq_cycle told.symm
    obtain ⟨earlier, member, same⟩ := (summit.stuck knot manifest rfl found).resolve_left (by simp)
    have met := List.mem_map.mpr ⟨earlier, member, same.trans (registry.name_eq found)⟩
    exact ⟨chain, knot, summit.ascent, summit.distinct, met⟩
  · rintro ⟨chain, knot, returns⟩
    exact returns.circles

end Registry

namespace Theme

/-- Resolving ends in a cycle exactly if the ascent from the named theme comes back to one that
it has met. That theme, the knot, extends itself through its parents. The error names the theme
that was asked for, and this one extends itself only if it is the knot. -/
theorem cycle_blames_start_iff (registry : Registry) (settings : ThemeSettings) (blamed : String) :
    resolve registry settings = .error (.cycle blamed) ↔
      settings.name = some blamed ∧ ∃ chain knot, registry.Returns blamed chain knot ∧
        registry.ExtendsItself knot ∧ (registry.ExtendsItself blamed ↔ knot = blamed) := by
  cases named : settings.name with
  | none =>
    constructor
    · intro failed
      have assembled : assemble settings [] registry.fallback = .error (.cycle blamed) := by
        rw [← failed]
        simp only [resolve, named]
        rfl
      obtain ⟨text, ⟨⟩⟩ := assemble_error assembled
    · rintro ⟨⟨⟩, _⟩
  | some name =>
    rw [resolve_eq_error_iff named (by simp), Registry.ending_cycle_iff, Registry.circles_iff]
    constructor
    · rintro ⟨rfl, chain, knot, returns⟩
      exact ⟨rfl, chain, knot, returns, returns.extendsItself, returns.extendsItself_start_iff⟩
    · rintro ⟨⟨⟩, chain, knot, returns, _⟩
      exact ⟨rfl, chain, knot, returns⟩

end Theme

def Registry.hooked : Registry :=
  let theme (name : String) : Manifest := ⟨name, ⟨"/themes/" ++ name⟩, some "knot", [], .empty⟩
  (((InstalledThemes.empty ⟨"/templates"⟩).register (theme "loose")).register
    (theme "knot")).toRegistry

theorem Registry.loose_returns : ∃ chain, hooked.Returns "loose" chain "knot" :=
  ⟨_, .climb rfl (.climb rfl (.stay _)), by simp [Distinct], by simp⟩

theorem Registry.knot_returns : ∃ chain, hooked.Returns "knot" chain "knot" :=
  ⟨_, .climb rfl (.stay _), by simp [Distinct], by simp⟩

theorem Theme.knot_blamed :
    resolve .hooked (.bare "knot") = .error (.cycle "knot") ∧
      Registry.hooked.ExtendsItself "knot" := by
  obtain ⟨chain, returns⟩ := Registry.knot_returns
  have cycle := returns.extendsItself
  exact ⟨(cycle_blames_start_iff ..).mpr ⟨rfl, chain, "knot", returns, cycle, by simp [cycle]⟩,
    cycle⟩

/-- The theme that is blamed has a parent that extends itself, but does not extend itself. -/
theorem Theme.loose_blamed :
    resolve .hooked (.bare "loose") = .error (.cycle "loose") ∧
      ¬ Registry.hooked.ExtendsItself "loose" ∧ Registry.hooked.ExtendsItself "knot" := by
  obtain ⟨chain, returns⟩ := Registry.loose_returns
  have named : (ThemeSettings.bare "loose").name = some "loose" := rfl
  refine ⟨(resolve_eq_error_iff named (by simp)).mpr (.circular returns.circles), ?_,
    returns.extendsItself⟩
  rw [returns.extendsItself_start_iff]
  decide

end SiteSettings
