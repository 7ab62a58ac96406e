import SiteSettings.Proofs.ThemeReload

/-! Following a theme to its parents. A registry is finite, so every ascent ends: at a theme
without a parent, at a name that cannot be looked up, or at a theme it has met before. How
it ends decides what resolving the theme comes to. -/

namespace SiteSettings

namespace Registry

variable {registry : Registry}

/-- Following parents from a name, if there is one: the themes met on the way, and the name
to look up next, if the last of them has a parent. -/
inductive Ascent (registry : Registry) : Option String → List Manifest → Option String → Prop where
  | stay (next : Option String) : Ascent registry next [] next
  | climb {key : String} {manifest : Manifest} {chain : List Manifest} {next : Option String}
      (found : registry.lookup key = .ok manifest)
      (rest : Ascent registry manifest.parent chain next) :
      Ascent registry (some key) (manifest :: chain) next

def Distinct (chain : List Manifest) : Prop := (chain.map Manifest.name).Nodup

/-- An ascent past themes seen before that meets none twice, and that cannot go on so. -/
structure Summit (registry : Registry) (seen : List String) (start : Option String)
    (chain : List Manifest) (next : Option String) : Prop where
  ascent : registry.Ascent start chain next
  distinct : Distinct chain
  unseen : ∀ manifest ∈ chain, manifest.name ∉ seen
  stuck : ∀ key manifest, next = some key → registry.lookup key = .ok manifest →
    manifest.name ∈ seen ∨ ∃ earlier ∈ chain, earlier.name = manifest.name

/-- What is reported of an ascent that ended, begun with `start` as the parent of `child`. -/
def outcome (registry : Registry) (start : String) (child : Option String) (chain : List Manifest)
    (next : Option String) : Except ThemeError (List Manifest) :=
  match next with
  | none => .ok chain
  | some key =>
    match registry.lookup key with
    | .ok _ => .error (.cycle start)
    | .error (.notFound name) =>
      match (chain.getLast?.map Manifest.name).or child with
      | none => .error (.unknownTheme name registry.names)
      | some theme => .error (.unknownParent theme name)
    | .error error => .error (.registry error)

namespace Ascent

variable {start next other : Option String} {chain longer : List Manifest}

theorem parent_of_last {child : Manifest} (ascent : registry.Ascent start (chain ++ [child]) next) :
    child.parent = next := by
  generalize shape : chain ++ [child] = whole at ascent
  induction ascent generalizing chain with
  | stay => simp at shape
  | climb found rest ih =>
    cases chain with
    | nil =>
      obtain ⟨rfl, rfl⟩ := List.cons.inj shape
      generalize child.parent = parent at rest
      cases rest
      rfl
    | cons first more => exact ih (List.cons.inj shape).2

theorem found {manifest : Manifest} (ascent : registry.Ascent start chain next)
    (member : manifest ∈ chain) : registry.lookup manifest.name = .ok manifest := by
  induction ascent with
  | stay => cases member
  | climb here rest ih =>
    obtain rfl | later := List.mem_cons.mp member
    · rwa [registry.name_eq here]
    · exact ih later

theorem trans {middle : Option String} (first : registry.Ascent start chain middle)
    (second : registry.Ascent middle longer next) : registry.Ascent start (chain ++ longer) next := by
  induction first with
  | stay => exact second
  | climb found rest ih => exact .climb found (ih second)

/-- An ascent that meets no theme twice is no longer than a list of all installed themes. -/
theorem length_le {domain : List String} (ascent : registry.Ascent start chain next)
    (distinct : Distinct chain)
    (known : ∀ {key manifest}, registry.lookup key = .ok manifest → key ∈ domain) :
    chain.length ≤ domain.length := by
  have inside : chain.map Manifest.name ⊆ domain := by
    intro name member
    obtain ⟨manifest, met, rfl⟩ := List.mem_map.mp member
    exact known (ascent.found met)
  rw [← List.length_map (f := Manifest.name)]
  exact distinct.length_le_of_subset inside

/-- Of two ascents from one start, one goes on where the other ends. -/
theorem comparable (first : registry.Ascent start chain next)
    (second : registry.Ascent start longer other) :
    (∃ rest, longer = chain ++ rest ∧ registry.Ascent next rest other) ∨
      ∃ rest, chain = longer ++ rest ∧ registry.Ascent other rest next := by
  induction first generalizing longer with
  | stay next => exact .inl ⟨longer, rfl, second⟩
  | climb found rest ih =>
    cases second with
    | stay => exact .inr ⟨_, rfl, .climb found rest⟩
    | climb same more =>
      cases found.symm.trans same
      obtain ⟨suffix, rfl, onward⟩ | ⟨suffix, rfl, onward⟩ := ih more
      · exact .inl ⟨suffix, rfl, onward⟩
      · exact .inr ⟨suffix, rfl, onward⟩

end Ascent

theorem outcome_climb (start : String) (child : Option String) (manifest : Manifest)
    (chain : List Manifest) (next : Option String) :
    (registry.outcome start (some manifest.name) chain next).map (manifest :: ·) =
      registry.outcome start child (manifest :: chain) next := by
  have last : ((manifest :: chain).getLast?.map Manifest.name).or child =
      (chain.getLast?.map Manifest.name).or (some manifest.name) := by
    cases chain with
    | nil => rfl
    | cons first rest => simp [List.getLast?_cons]
  cases next with
  | none => rfl
  | some key =>
    simp only [outcome, last]
    split
    · rfl
    · split <;> rfl
    · rfl

namespace Summit

variable {seen : List String} {key : String} {start next other : Option String}
  {chain longer : List Manifest}

theorem root (seen : List String) : registry.Summit seen none [] none where
  ascent := .stay none
  distinct := List.nodup_nil
  unseen := List.forall_mem_nil _
  stuck := nofun

theorem here (stuck : ∀ manifest, registry.lookup key = .ok manifest → manifest.name ∈ seen) :
    registry.Summit seen (some key) [] (some key) where
  ascent := .stay _
  distinct := List.nodup_nil
  unseen := List.forall_mem_nil _
  stuck := by
    rintro _ manifest ⟨⟩ found
    exact .inl (stuck manifest found)

theorem climb {manifest : Manifest} (found : registry.lookup key = .ok manifest)
    (fresh : manifest.name ∉ seen)
    (above : registry.Summit (manifest.name :: seen) manifest.parent chain next) :
    registry.Summit seen (some key) (manifest :: chain) next := by
  have apart : ∀ other ∈ chain, other.name ≠ manifest.name ∧ other.name ∉ seen := by
    intro other member
    simpa using above.unseen other member
  refine ⟨.climb found above.ascent, ?_, ?_, ?_⟩
  · refine List.nodup_cons.mpr ⟨fun again => ?_, above.distinct⟩
    obtain ⟨other, member, same⟩ := List.mem_map.mp again
    exact (apart other member).1 same
  · exact List.forall_mem_cons.mpr ⟨fresh, fun other member => (apart other member).2⟩
  · intro key other pending known
    obtain before | ⟨earlier, member, same⟩ := above.stuck key other pending known
    · obtain same | before := List.mem_cons.mp before
      · exact .inr ⟨manifest, List.mem_cons_self, same.symm⟩
      · exact .inl before
    · exact .inr ⟨earlier, List.mem_cons_of_mem _ member, same⟩

theorem of_failure {error : LookupError} (ascent : registry.Ascent start chain (some key))
    (distinct : Distinct chain) (failed : registry.lookup key = .error error) :
    registry.Summit [] start chain (some key) := by
  refine ⟨ascent, distinct, by simp, ?_⟩
  rintro _ manifest ⟨⟩ found
  cases failed.symm.trans found

/-- Where an ascent ends that cannot go on, nothing is left of any other. -/
theorem ends (summit : registry.Summit [] start chain next) {suffix : List Manifest}
    (onward : registry.Ascent next suffix other) (distinct : Distinct (chain ++ suffix)) :
    suffix = [] := by
  cases onward with
  | stay => rfl
  | climb found rest =>
    obtain ⟨earlier, member, same⟩ := (summit.stuck _ _ rfl found).resolve_left (by simp)
    rw [Distinct, List.map_append, List.nodup_append] at distinct
    exact absurd same (distinct.2.2 _ (List.mem_map_of_mem member) _ (by simp))

theorem unique (first : registry.Summit [] start chain next)
    (second : registry.Summit [] start longer other) : chain = longer ∧ next = other := by
  obtain ⟨suffix, rfl, onward⟩ | ⟨suffix, rfl, onward⟩ := first.ascent.comparable second.ascent
  · have nothing := first.ends onward second.distinct
    subst nothing
    cases onward
    exact ⟨(List.append_nil _).symm, rfl⟩
  · have nothing := second.ends onward first.distinct
    subst nothing
    cases onward
    exact ⟨List.append_nil _, rfl⟩

end Summit

/-- Every walk comes to a summit, and its result is told from there. -/
theorem walk_summit (start : String) (seen : List String) (child : Option String) (key : String) :
    ∃ chain next, registry.Summit seen (some key) chain next ∧
      registry.walk start seen child key = registry.outcome start child chain next := by
  fun_induction registry.walk start seen child key with
  | case1 seen key name missing | case2 seen key name missing theme =>
    refine ⟨[], some key, .here fun manifest found => ?_, by simp [outcome, missing]⟩
    cases missing.symm.trans found
  | case3 seen child key error invalid failed =>
    refine ⟨[], some key, .here fun manifest found => ?_, ?_⟩
    · cases failed.symm.trans found
    · cases error with
      | notFound name => exact absurd rfl (invalid name)
      | invalid name reason => simp [outcome, failed]
  | case4 seen child key manifest found again =>
    refine ⟨[], some key, .here fun other known => ?_, by simp [outcome, found]⟩
    cases found.symm.trans known
    exact again
  | case5 seen child key manifest found fresh root =>
    have top : registry.Summit (manifest.name :: seen) manifest.parent [] none := by
      rw [root]
      exact .root _
    exact ⟨[manifest], none, .climb found fresh top, rfl⟩
  | case6 seen child key manifest found fresh parent linked ih =>
    obtain ⟨chain, next, summit, told⟩ := ih
    refine ⟨manifest :: chain, next, .climb found fresh (linked ▸ summit), ?_⟩
    rw [told, outcome_climb]

variable {name : String}

theorem exists_summit (registry : Registry) (name : String) :
    ∃ chain next, registry.Summit [] (some name) chain next ∧
      registry.chain name = registry.outcome name none chain next :=
  registry.walk_summit name [] none name

theorem chain_of_summit {chain : List Manifest} {next : Option String}
    (summit : registry.Summit [] (some name) chain next) :
    registry.chain name = registry.outcome name none chain next := by
  obtain ⟨other, ending, found, told⟩ := registry.exists_summit name
  obtain ⟨rfl, rfl⟩ := summit.unique found
  exact told

def Orphans (registry : Registry) (name theme parent : String) : Prop :=
  ∃ chain child, registry.Ascent (some name) (chain ++ [child]) (some parent) ∧
    Distinct (chain ++ [child]) ∧ child.name = theme ∧ child.parent = some parent ∧
    registry.lookup parent = .error (.notFound parent)

def Breaks (registry : Registry) (name : String) (error : LookupError) : Prop :=
  ∃ chain key, registry.Ascent (some name) chain (some key) ∧ Distinct chain ∧
    registry.lookup key = .error error ∧ ∃ theme reason, error = .invalid theme reason

def Circles (registry : Registry) (name : String) : Prop :=
  ∃ chain next, registry.Ascent (some name) chain next ∧ ¬ Distinct chain

def Lineage (registry : Registry) (name : String) (chain : List Manifest) : Prop :=
  registry.Ascent (some name) chain none ∧ Distinct chain

inductive Ending (registry : Registry) (name : String) :
    Except ThemeError (List Manifest) → Prop where
  | unknown (missing : registry.lookup name = .error (.notFound name)) :
    Ending registry name (.error (.unknownTheme name registry.names))
  | orphaned {theme parent : String} (orphans : registry.Orphans name theme parent) :
    Ending registry name (.error (.unknownParent theme parent))
  | broken {error : LookupError} (breaks : registry.Breaks name error) :
    Ending registry name (.error (.registry error))
  | circular (circles : registry.Circles name) : Ending registry name (.error (.cycle name))
  | complete {chain : List Manifest} (lineage : registry.Lineage name chain) :
    Ending registry name (.ok chain)

theorem ending_unknownTheme_iff {theme : String} {available : List String} :
    registry.Ending name (.error (.unknownTheme theme available)) ↔
      registry.lookup name = .error (.notFound name) ∧ theme = name ∧
        available = registry.names := by
  constructor
  · intro ending
    cases ending with
    | unknown missing => exact ⟨missing, rfl, rfl⟩
  · rintro ⟨missing, rfl, rfl⟩
    exact .unknown missing

theorem ending_unknownParent_iff {theme parent : String} :
    registry.Ending name (.error (.unknownParent theme parent)) ↔
      registry.Orphans name theme parent := by
  refine ⟨fun ending => ?_, .orphaned⟩
  cases ending with
  | orphaned orphans => exact orphans

theorem ending_registry_iff {error : LookupError} :
    registry.Ending name (.error (.registry error)) ↔ registry.Breaks name error := by
  refine ⟨fun ending => ?_, .broken⟩
  cases ending with
  | broken breaks => exact breaks

theorem ending_cycle_iff {theme : String} :
    registry.Ending name (.error (.cycle theme)) ↔ theme = name ∧ registry.Circles name := by
  constructor
  · intro ending
    cases ending with
    | circular circles => exact ⟨rfl, circles⟩
  · rintro ⟨rfl, circles⟩
    exact .circular circles

theorem ending_of_summit {chain : List Manifest} {next : Option String}
    (summit : registry.Summit [] (some name) chain next) :
    registry.Ending name (registry.outcome name none chain next) := by
  cases next with
  | none => exact .complete ⟨summit.ascent, summit.distinct⟩
  | some key =>
    cases looked : registry.lookup key with
    | ok manifest =>
      obtain ⟨earlier, member, same⟩ := (summit.stuck key manifest rfl looked).resolve_left (by simp)
      simp only [outcome, looked]
      refine .circular ⟨chain ++ [manifest], _, summit.ascent.trans (.climb looked (.stay _)), ?_⟩
      intro distinct
      rw [Distinct, List.map_append, List.nodup_append] at distinct
      exact absurd same (distinct.2.2 _ (List.mem_map_of_mem member) _ (by simp))
    | error error =>
      cases error with
      | invalid theme reason =>
        simp only [outcome, looked]
        exact .broken ⟨chain, key, summit.ascent, summit.distinct, looked, theme, reason, rfl⟩
      | notFound missing =>
        have same : missing = key := registry.missing_eq looked
        subst same
        obtain rfl | ⟨before, child, rfl⟩ := chain.eq_nil_or_concat'
        · have start := summit.ascent
          cases start
          simp only [outcome, looked]
          exact .unknown looked
        · have linked := summit.ascent.parent_of_last
          simp only [outcome, looked, List.getLast?_concat]
          exact .orphaned ⟨before, child, summit.ascent, summit.distinct, rfl, linked, looked⟩

/-- How the chain of a theme comes out is how the ascent from it ends. -/
theorem chain_eq_iff {result : Except ThemeError (List Manifest)} :
    registry.chain name = result ↔ registry.Ending name result := by
  constructor
  · rintro rfl
    obtain ⟨chain, next, summit, told⟩ := registry.exists_summit name
    exact told ▸ ending_of_summit summit
  · intro ending
    cases ending with
    | unknown missing =>
      have summit : registry.Summit [] (some name) [] (some name) := by
        refine .here fun manifest found => ?_
        cases missing.symm.trans found
      rw [chain_of_summit summit]
      simp [outcome, missing]
    | orphaned orphans =>
      obtain ⟨before, child, ascent, distinct, rfl, _, missing⟩ := orphans
      rw [chain_of_summit (.of_failure ascent distinct missing)]
      simp [outcome, missing]
    | broken breaks =>
      obtain ⟨chain, key, ascent, distinct, failed, theme, reason, rfl⟩ := breaks
      rw [chain_of_summit (.of_failure ascent distinct failed)]
      simp [outcome, failed]
    | circular circles =>
      obtain ⟨longer, _, ascent, twice⟩ := circles
      obtain ⟨chain, next, summit, told⟩ := registry.exists_summit name
      refine told.trans ?_
      obtain ⟨suffix, rfl, onward⟩ | ⟨suffix, rfl, _⟩ := summit.ascent.comparable ascent
      · cases onward with
        | stay => exact absurd summit.distinct (by simpa using twice)
        | climb found rest => simp only [outcome, found]
      · have distinct := summit.distinct
        rw [Distinct, List.map_append, List.nodup_append] at distinct
        exact absurd distinct.1 twice
    | complete lineage =>
      obtain ⟨ascent, distinct⟩ := lineage
      have summit : registry.Summit [] (some name) _ none :=
        ⟨ascent, distinct, by simp, by simp⟩
      exact chain_of_summit summit

end Registry

theorem nodup_eraseDups (names : List String) : names.eraseDups.Nodup := by
  induction names using List.reverseRecOn with
  | nil => exact List.nodup_nil
  | append_singleton names name ih =>
    rw [eraseDups_append_singleton]
    split
    · exact ih
    next fresh =>
      refine List.nodup_append.mpr ⟨ih, List.nodup_singleton name, ?_⟩
      rintro other member _ last rfl
      rw [List.mem_singleton.mp last, List.mem_eraseDups] at member
      exact fresh member

theorem mem_sortedNames {names : List String} {name : String} :
    name ∈ sortedNames names ↔ name ∈ names := by
  rw [sortedNames, List.mem_mergeSort, List.mem_eraseDups]

theorem sortedNames_increasing (names : List String) : (sortedNames names).Pairwise (· < ·) := by
  have ordered : (sortedNames names).Pairwise (· ≤ ·) := List.pairwise_mergeSort' (· ≤ ·) _
  have distinct : (sortedNames names).Nodup :=
    (List.mergeSort_perm _ _).nodup_iff.mpr (nodup_eraseDups names)
  refine (ordered.and distinct).imp fun both => ?_
  exact lt_of_le_of_ne both.1 both.2

namespace Theme

variable {registry : Registry} {settings : ThemeSettings} {name : String}

def LocaleReads (settings : ThemeSettings) (chain : List Manifest) : Prop :=
  ∀ text, localeText? settings (layeredVars settings.nameValue chain settings.vars) = some text →
    (Locale.parse? text).isSome = true

theorem assemble_of_reads {chain : List Manifest} (reads : LocaleReads settings chain)
    (fallback : Fallback) :
    ∃ locale, assemble settings chain fallback = .ok (assembled settings chain fallback locale) := by
  rw [assemble_eq]
  split
  · exact ⟨_, rfl⟩
  next text decided =>
    obtain ⟨locale, read⟩ := Option.isSome_iff_exists.mp (reads text decided)
    rw [read]
    exact ⟨locale, rfl⟩

theorem assemble_error {chain : List Manifest} {fallback : Fallback} {error : ThemeError}
    (failed : assemble settings chain fallback = .error error) :
    ∃ text, error = .invalidLocale text := by
  rw [assemble_eq] at failed
  split at failed
  · cases failed
  · split at failed
    · cases failed
    · cases failed
      exact ⟨_, rfl⟩

theorem resolve_of_chain (named : settings.name = some name) {chain : List Manifest}
    (chained : registry.chain name = .ok chain) :
    resolve registry settings = assemble settings chain registry.fallback := by
  simp only [resolve, named, chained]
  rfl

theorem resolve_of_error (named : settings.name = some name) {error : ThemeError}
    (failed : registry.chain name = .error error) : resolve registry settings = .error error := by
  simp only [resolve, named, failed]
  rfl

/-- Resolving fails like the ascent does, or over the locale. -/
theorem resolve_eq_error_iff (named : settings.name = some name) {error : ThemeError}
    (other : ∀ text, error ≠ .invalidLocale text) :
    resolve registry settings = .error error ↔ registry.Ending name (.error error) := by
  rw [← Registry.chain_eq_iff]
  refine ⟨fun failed => ?_, resolve_of_error named⟩
  cases chained : registry.chain name with
  | error reason =>
    rw [resolve_of_error named chained] at failed
    cases failed
    rfl
  | ok chain =>
    rw [resolve_of_chain named chained] at failed
    obtain ⟨text, same⟩ := assemble_error failed
    exact absurd same (other text)

/-- Resolving a named theme comes out the way the ascent from its name ends. Ascents that meet no
theme twice have a bound, so one end or another is reached: the name is not installed, or a parent
is not, or a manifest is invalid, or the themes run in a circle. Otherwise the chain is complete,
and it gives the theme its search path and its static templates. -/
theorem resolve_follows_ascent (registry : Registry) {settings : ThemeSettings} {name : String}
    (named : settings.name = some name) :
    (∃ bound, ∀ chain next, registry.Ascent (some name) chain next → Registry.Distinct chain →
        chain.length ≤ bound) ∧
      (∀ theme available, resolve registry settings = .error (.unknownTheme theme available) ↔
        registry.lookup name = .error (.notFound name) ∧ theme = name ∧
          available = registry.names) ∧
      (∀ theme parent, resolve registry settings = .error (.unknownParent theme parent) ↔
        registry.Orphans name theme parent) ∧
      (∀ error, resolve registry settings = .error (.registry error) ↔
        registry.Breaks name error) ∧
      ((∃ theme, resolve registry settings = .error (.cycle theme)) ↔ registry.Circles name) ∧
      (registry.lookup name ≠ .error (.notFound name) →
        (∀ theme parent, ¬ registry.Orphans name theme parent) →
        (∀ error, ¬ registry.Breaks name error) → ¬ registry.Circles name →
          ∃ chain, registry.chain name = .ok chain ∧ registry.Lineage name chain ∧
            (LocaleReads settings chain → ∃ theme, resolve registry settings = .ok theme ∧
              theme.directories = settings.customDirectory.toList ++
                chain.map Manifest.directory ++ [registry.fallback.directory] ∧
              theme.staticTemplates.Pairwise (· < ·) ∧
              ∀ template, template ∈ theme.staticTemplates ↔
                template ∈ registry.fallback.staticTemplates ∨
                  (∃ manifest ∈ chain, template ∈ manifest.staticTemplates) ∨
                  template ∈ settings.staticTemplates)) := by
  refine ⟨?bounded, fun theme available => ?unknown, fun theme parent => ?orphaned,
    fun error => ?broken, ?circular, fun known parents sound straight => ?complete⟩
  case bounded =>
    obtain ⟨domain, known⟩ := registry.finite
    exact ⟨domain.length, fun chain next ascent distinct => ascent.length_le distinct known⟩
  case unknown => rw [resolve_eq_error_iff named (by simp), Registry.ending_unknownTheme_iff]
  case orphaned => rw [resolve_eq_error_iff named (by simp), Registry.ending_unknownParent_iff]
  case broken => rw [resolve_eq_error_iff named (by simp), Registry.ending_registry_iff]
  case circular =>
    have cycle (theme : String) : resolve registry settings = .error (.cycle theme) ↔
        theme = name ∧ registry.Circles name := by
      rw [resolve_eq_error_iff named (by simp), Registry.ending_cycle_iff]
    simp only [cycle, exists_eq_left]
  case complete =>
    obtain ⟨result, chained⟩ : ∃ result, registry.chain name = result := ⟨_, rfl⟩
    cases Registry.chain_eq_iff.mp chained with
    | unknown missing => exact absurd missing known
    | orphaned orphans => exact absurd orphans (parents _ _)
    | broken breaks => exact absurd breaks (sound _)
    | circular circles => exact absurd circles straight
    | @complete chain lineage =>
      refine ⟨chain, chained, lineage, fun reads => ?_⟩
      obtain ⟨locale, assembled⟩ := assemble_of_reads reads registry.fallback
      rw [resolve_of_chain named chained, assembled]
      refine ⟨_, rfl, rfl, sortedNames_increasing _, fun template => ?_⟩
      simp only [Theme.assembled, mem_sortedNames, List.mem_append, List.mem_flatMap, or_assoc]

end Theme

def Registry.tangled : Registry :=
  let theme (name : String) (parent : Option String) : Manifest :=
    ⟨name, ⟨"/themes/" ++ name⟩, parent, [name ++ ".html"], .empty⟩
  let installed := [theme "slate" (some "plain"), theme "plain" none,
    theme "stray" (some "nowhere"), theme "worn" (some "torn"), theme "loose" (some "knot"),
    theme "knot" (some "rope"), theme "rope" (some "knot")].foldl
      InstalledThemes.register (.empty ⟨"/templates"⟩)
  installed.toRegistry.withInvalid (.ofList [("torn", "expected a table")])

def ThemeSettings.bare (name : String) : ThemeSettings := ⟨some name, none, [], some "de", .empty⟩

theorem Registry.tangled_chain : ∃ slate plain, tangled.chain "slate" = .ok [slate, plain] ∧
    slate.directory = ⟨"/themes/slate"⟩ ∧ plain.directory = ⟨"/themes/plain"⟩ :=
  ⟨_, _, chain_eq_iff.mpr (.complete ⟨.climb rfl (.climb rfl (.stay _)), by simp [Distinct]⟩),
    rfl, rfl⟩

theorem Theme.tangled_resolved :
    (∀ name, (ThemeSettings.bare name).name = some name) ∧
      resolve .tangled (.bare "absent") = .error (.unknownTheme "absent" Registry.tangled.names) ∧
      resolve .tangled (.bare "stray") = .error (.unknownParent "stray" "nowhere") ∧
      resolve .tangled (.bare "worn") = .error (.registry (.invalid "torn" "expected a table")) ∧
      (∃ theme, resolve .tangled (.bare "loose") = .error (.cycle theme)) ∧
      ∃ theme, resolve .tangled (.bare "slate") = .ok theme ∧
        theme.directories = [⟨"/themes/slate"⟩, ⟨"/themes/plain"⟩, ⟨"/templates"⟩] := by
  have named (name : String) : (ThemeSettings.bare name).name = some name := rfl
  have follows (name : String) := resolve_follows_ascent .tangled (named name)
  refine ⟨named, ?absent, ?stray, ?worn, ?loose, ?slate⟩
  case absent =>
    obtain ⟨_, unknown, _⟩ := follows "absent"
    exact (unknown _ _).mpr ⟨rfl, rfl, rfl⟩
  case stray =>
    obtain ⟨_, _, orphaned, _⟩ := follows "stray"
    exact (orphaned _ _).mpr
      ⟨[], _, .climb rfl (.stay _), List.nodup_singleton _, rfl, rfl, rfl⟩
  case worn =>
    obtain ⟨_, _, _, broken, _⟩ := follows "worn"
    exact (broken _).mpr
      ⟨[_], _, .climb rfl (.stay _), List.nodup_singleton _, rfl, _, _, rfl⟩
  case loose =>
    obtain ⟨_, _, _, _, circular, _⟩ := follows "loose"
    refine circular.mpr ⟨[_, _, _, _], _,
      .climb rfl (.climb rfl (.climb rfl (.climb rfl (.stay _)))), ?_⟩
    simp [Registry.Distinct]
  case slate =>
    obtain ⟨_, _, _, _, _, complete⟩ := follows "slate"
    obtain ⟨slate, plain, chained, first, second⟩ := Registry.tangled_chain
    have only {result : Except ThemeError (List Manifest)}
        (ending : Registry.tangled.Ending "slate" result) : result = .ok [slate, plain] :=
      (Registry.chain_eq_iff.mpr ending).symm.trans chained
    obtain ⟨chain, found, _, resolves⟩ := complete (by intro missing; cases only (.unknown missing))
      (fun _ _ orphans => by cases only (.orphaned orphans))
      (fun _ breaks => by cases only (.broken breaks))
      (fun circles => by cases only (.circular circles))
    cases found.symm.trans chained
    have reads : LocaleReads (.bare "slate") [slate, plain] := by
      rintro text ⟨⟩
      decide
    obtain ⟨theme, resolved, directories, _⟩ := resolves reads
    refine ⟨theme, resolved, directories.trans ?_⟩
    simp only [List.map_cons, first, second]
    rfl

end SiteSettings
