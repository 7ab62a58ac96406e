import SiteSettings.FileTree
import SiteSettings.Proofs.LexicalPaths
import SiteSettings.Proofs.ThemeAncestry
import SiteSettings.Theme.Discovery

/-! What discovering themes does to those that are installed. The entries of a directory are taken
in the order in which they are listed, so what an error leaves behind depends on that order. The
listing itself may break off at an entry that cannot be read. -/

namespace SiteSettings

namespace Path

theorem steps_of_name {text : String} (valid : IsName text) :
    (⟨text⟩ : Path).isAbsolute = false ∧ (⟨text⟩ : Path).steps = [.name text] :=
  have step : (Component.name text).IsStep := .name valid
  ⟨step.isAbsolute_text, step.steps_text⟩

/-- An entry of a directory is what its path ends in. -/
theorem fileName?_join {text : String} (valid : IsName text) (directory : Path) :
    (directory.join ⟨text⟩).fileName? = some text := by
  obtain ⟨relative, steps⟩ := steps_of_name valid
  rw [fileName?_eq_some_iff, steps_join, relative, if_neg Bool.false_ne_true, steps]
  simp

end Path

namespace Manifest

theorem named_of_ofMembers? {name : String} {directory : Path} {members : OrderedMap Toml}
    {manifest : Manifest} (read : ofMembers? name directory members = some manifest) :
    manifest.name = name ∧ manifest.directory = directory := by
  simp only [ofMembers?, Option.bind_eq_bind, Option.bind_eq_some_iff, Option.pure_def,
    Option.some.injEq] at read
  obtain ⟨_, _, _, _, _, _, rfl⟩ := read
  exact ⟨rfl, rfl⟩

/-- A manifest that was loaded has the name of the directory that it was loaded from. -/
theorem named_of_load {files : FileSystem} {directory : Path} {manifest : Manifest}
    {notes : List LogEntry} (loaded : load files directory = .ok (manifest, notes)) :
    directory.fileName? = some manifest.name ∧ manifest.directory = directory := by
  simp only [load, pure, Except.pure, throw, throwThe, MonadExceptOf.throw] at loaded
  split at loaded
  next name named =>
    split at loaded
    next content =>
      split at loaded
      next members =>
        split at loaded
        next made read =>
          obtain ⟨rfl, _⟩ := Prod.mk.inj (Except.ok.inj loaded)
          obtain ⟨rfl, located⟩ := named_of_ofMembers? read
          exact ⟨named, located⟩
        next => cases loaded
      next => cases loaded
    next => cases loaded
  next => cases loaded

end Manifest

namespace InstalledThemes

variable {installed other : InstalledThemes}

theorem lookup_register (installed : InstalledThemes) (manifest : Manifest) (key : String) :
    (installed.register manifest).lookup key =
      if key = manifest.name then .ok manifest else installed.lookup key := by
  unfold lookup register
  rw [OrderedMap.get?_insert]
  by_cases same : key = manifest.name <;> simp [same]

theorem mem_names_iff {name : String} :
    name ∈ installed.names ↔ ∃ manifest, installed.lookup name = .ok manifest := by
  rw [names, mem_sortedNames, ← OrderedMap.get?_isSome_iff, Option.isSome_iff_exists]
  simp only [lookup_eq_ok_iff]

/-- The names are known from the look-ups. -/
theorem names_congr (same : ∀ key, installed.lookup key = other.lookup key) :
    installed.names = other.names := by
  have members (name : String) : name ∈ installed.names ↔ name ∈ other.names := by
    simp only [mem_names_iff, same]
  exact (sortedNames_increasing _).eq_of_mem_iff (sortedNames_increasing _) members

end InstalledThemes

namespace FileSystem

def Carries (files : FileSystem) (directory : Path) (entry : String) : Prop :=
  files.isFile ((directory.join ⟨entry⟩).join ⟨manifestFile⟩) = true

def Offers (files : FileSystem) (directory : Path) (entry : String) (manifest : Manifest) : Prop :=
  ∃ notes, Manifest.load files (directory.join ⟨entry⟩) = .ok (manifest, notes)

def Usable (files : FileSystem) (directory : Path) (entries : List String) : Prop :=
  ∀ entry ∈ entries, files.Carries directory entry →
    ∃ manifest, files.Offers directory entry manifest

/-- The entries that can be read have names, each of them one of its own. -/
def ListsNames (files : FileSystem) (directory : Path) : Prop :=
  ∀ entries, files.list? directory = some entries →
    let names := entries.filterMap Except.toOption
    names.Nodup ∧ ∀ name ∈ names, Path.IsName name

variable {files : FileSystem} {directory : Path} {entry : String} {manifest other : Manifest}

theorem Offers.unique (offers : files.Offers directory entry manifest)
    (again : files.Offers directory entry other) : manifest = other := by
  obtain ⟨notes, loaded⟩ := offers
  obtain ⟨_, again⟩ := again
  rw [loaded] at again
  cases again
  rfl

/-- A theme has the name of its directory. -/
theorem Offers.named (offers : files.Offers directory entry manifest) (valid : Path.IsName entry) :
    manifest.name = entry := by
  obtain ⟨notes, loaded⟩ := offers
  have found := (Manifest.named_of_load loaded).1
  rw [Path.fileName?_join valid directory] at found
  exact (Option.some.inj found).symm

theorem Offers.located (offers : files.Offers directory entry manifest) :
    manifest.directory = directory.join ⟨entry⟩ := by
  obtain ⟨notes, loaded⟩ := offers
  exact (Manifest.named_of_load loaded).2

end FileSystem

namespace InstalledThemes

/-- Those of the entries that carry a manifest file are registered under their own names with what
can be loaded from them, and nothing else is new. -/
structure Registers (files : FileSystem) (directory : Path) (before after : InstalledThemes)
    (entries : List String) : Prop where
  own : ∀ entry ∈ entries, files.Carries directory entry →
    ∃ manifest, files.Offers directory entry manifest ∧ manifest.name = entry ∧
      manifest.directory = directory.join ⟨entry⟩ ∧ after.lookup entry = .ok manifest
  others : ∀ key, ¬ (key ∈ entries ∧ files.Carries directory key) →
    after.lookup key = before.lookup key
  fallback : after.fallback = before.fallback

namespace Registers

variable {files : FileSystem} {directory : Path} {before after : InstalledThemes}
  {entries : List String} {entry : String}

theorem nothing (themes : InstalledThemes) : Registers files directory themes themes [] where
  own := List.forall_mem_nil _
  others _ _ := rfl
  fallback := rfl

theorem skip (registers : Registers files directory before after entries)
    (bare : ¬ files.Carries directory entry) :
    Registers files directory before after (entries ++ [entry]) where
  own other member carries := by
    rcases List.mem_append.mp member with earlier | last
    · exact registers.own other earlier carries
    · exact absurd (List.mem_singleton.mp last ▸ carries) bare
  others key outside :=
    registers.others key fun both => outside ⟨List.mem_append_left _ both.1, both.2⟩
  fallback := registers.fallback

theorem take (registers : Registers files directory before after entries)
    (fresh : entry ∉ entries) (valid : Path.IsName entry) (carries : files.Carries directory entry)
    {manifest : Manifest} (offers : files.Offers directory entry manifest) :
    Registers files directory before (after.register manifest) (entries ++ [entry]) := by
  have named := offers.named valid
  refine ⟨fun other member carries => ?_, fun key outside => ?_, registers.fallback⟩
  · rw [lookup_register, named]
    rcases List.mem_append.mp member with earlier | last
    · obtain ⟨found, offered, same, located, looked⟩ := registers.own other earlier carries
      have apart : other ≠ entry := fun same => fresh (same ▸ earlier)
      exact ⟨found, offered, same, located, by rw [if_neg apart, looked]⟩
    · obtain rfl := List.mem_singleton.mp last
      exact ⟨manifest, offers, named, offers.located, if_pos rfl⟩
  · have apart : key ≠ entry := fun same => outside ⟨by simp [same], same ▸ carries⟩
    rw [lookup_register, named, if_neg apart]
    exact registers.others key fun both => outside ⟨List.mem_append_left _ both.1, both.2⟩

theorem usable (registers : Registers files directory before after entries) :
    files.Usable directory entries := by
  intro entry member carries
  obtain ⟨manifest, offers, _⟩ := registers.own entry member carries
  exact ⟨manifest, offers⟩

/-- Nothing has changed exactly if everything that was found was registered before. -/
theorem unchanged_iff (registers : Registers files directory before after entries) :
    (∀ key, after.lookup key = before.lookup key) ↔
      ∀ entry ∈ entries, files.Carries directory entry →
        ∃ manifest, files.Offers directory entry manifest ∧ before.lookup entry = .ok manifest := by
  constructor
  · intro same entry member carries
    obtain ⟨manifest, offers, _, _, looked⟩ := registers.own entry member carries
    exact ⟨manifest, offers, (same entry).symm.trans looked⟩
  · intro known key
    by_cases inside : key ∈ entries ∧ files.Carries directory key
    · obtain ⟨manifest, offers, _, _, looked⟩ := registers.own key inside.1 inside.2
      obtain ⟨other, again, before⟩ := known key inside.1 inside.2
      rw [looked, before, offers.unique again]
    · exact registers.others key inside

end Registers

/-- What was found are the names of those entries that carry a manifest file. -/
def Collects (files : FileSystem) (directory : Path) (found entries : List String) : Prop :=
  ∀ name, name ∈ found ↔ name ∈ entries ∧ files.Carries directory name

namespace Collects

variable {files : FileSystem} {directory : Path} {found entries : List String} {entry : String}

theorem nothing : Collects files directory [] [] := by simp [Collects]

theorem skip (collects : Collects files directory found entries)
    (bare : ¬ files.Carries directory entry) :
    Collects files directory found (entries ++ [entry]) := by
  intro name
  rw [collects, List.mem_append, List.mem_singleton]
  constructor
  · exact fun both => ⟨.inl both.1, both.2⟩
  · rintro ⟨member | rfl, carries⟩
    · exact ⟨member, carries⟩
    · exact absurd carries bare

theorem take (collects : Collects files directory found entries)
    (carries : files.Carries directory entry) :
    Collects files directory (entry :: found) (entries ++ [entry]) := by
  intro name
  rw [List.mem_cons, collects, List.mem_append, List.mem_singleton]
  constructor
  · rintro (rfl | ⟨member, carries⟩)
    · exact ⟨.inr rfl, carries⟩
    · exact ⟨.inl member, carries⟩
  · rintro ⟨member | same, carries⟩
    · exact .inr ⟨member, carries⟩
    · exact .inl same

end Collects

/-- An entry that discovery cannot get past: it cannot be read, or its manifest cannot be loaded. -/
inductive Breaks (files : FileSystem) (directory : Path) :
    Except String String → DiscoveryError → Prop where
  | unread (reason : String) : Breaks files directory (.error reason) (.unreadableEntry reason)
  | unloaded {entry : String} {error : DiscoveryError} (carries : files.Carries directory entry)
      (failed : Manifest.load files (directory.join ⟨entry⟩) = .error error) :
      Breaks files directory (.ok entry) error

/-- The first entry in the order of the list that breaks, behind those of the given names. -/
structure StopsAt (files : FileSystem) (directory : Path) (entries : List (Except String String))
    (before : List String) (error : DiscoveryError) : Prop where
  split : ∃ broken after, entries = before.map .ok ++ broken :: after ∧
    Breaks files directory broken error
  usable : files.Usable directory before

/-- Every entry can be read, and then it can be used. -/
def AllUsable (files : FileSystem) (directory : Path) (entries : List (Except String String))
    (names : List String) : Prop :=
  entries = names.map .ok ∧ files.Usable directory names

theorem StopsAt.not_allUsable {files : FileSystem} {directory : Path}
    {entries : List (Except String String)} {before names : List String} {error : DiscoveryError}
    (stops : StopsAt files directory entries before error) :
    ¬ AllUsable files directory entries names := by
  rintro ⟨read, usable⟩
  obtain ⟨broken, after, rfl, breaks⟩ := stops.split
  have member : broken ∈ names.map Except.ok := read ▸ by simp
  obtain ⟨entry, listed, rfl⟩ := List.mem_map.mp member
  cases breaks with
  | unloaded carries failed =>
    obtain ⟨manifest, notes, loaded⟩ := usable entry listed carries
    cases failed.symm.trans loaded

-- The equation that Lean would derive for this case opens the reader of manifests on the way.
theorem discoverEntries_ok_cons (files : FileSystem) (directory : Path) (themes : InstalledThemes)
    (found : List String) (trace : List LogEntry) (entry : String)
    (rest : List (Except String String)) :
    discoverEntries files directory themes found trace (.ok entry :: rest) =
      if files.isFile ((directory.join ⟨entry⟩).join ⟨manifestFile⟩) then
        match Manifest.load files (directory.join ⟨entry⟩) with
        | .error error => ⟨themes, .error error, trace⟩
        | .ok (manifest, notes) =>
          discoverEntries files directory (themes.register manifest) (manifest.name :: found)
            (trace ++ notes) rest
      else discoverEntries files directory themes found trace rest :=
  (rfl)

/-- What is registered follows the entries up to the end or up to the first one that breaks. -/
theorem discoverEntries_registers {files : FileSystem} {directory : Path}
    {start themes : InstalledThemes} {before found : List String}
    {rest : List (Except String String)} (trace : List LogEntry)
    (registers : Registers files directory start themes before)
    (collects : Collects files directory found before)
    (distinct : (before ++ rest.filterMap Except.toOption).Nodup)
    (valid : ∀ name ∈ rest.filterMap Except.toOption, Path.IsName name) :
    let discovery := discoverEntries files directory themes found trace rest
    let entries := before.map Except.ok ++ rest
    (∃ listed names, entries = listed.map .ok ∧ discovery.found = .ok (sortedNames names) ∧
      Collects files directory names listed ∧
      Registers files directory start discovery.themes listed) ∨
    ∃ taken error, StopsAt files directory entries taken error ∧
      discovery.found = .error error ∧ Registers files directory start discovery.themes taken := by
  induction rest generalizing themes before found trace with
  | nil => exact .inl ⟨before, found, List.append_nil _, rfl, collects, registers⟩
  | cons listed rest ih =>
    cases listed with
    | error reason =>
      exact .inr ⟨before, _, ⟨⟨_, rest, rfl, .unread reason⟩, registers.usable⟩, rfl, registers⟩
    | ok entry =>
      rw [List.filterMap_cons_some (show Except.toOption (.ok entry) = some entry from rfl)]
        at distinct valid
      obtain ⟨named, valid⟩ := List.forall_mem_cons.mp valid
      have fresh : entry ∉ before :=
        fun member => (List.nodup_append.mp distinct).2.2 entry member entry List.mem_cons_self rfl
      have moved : before.map Except.ok ++ .ok entry :: rest =
          (before ++ [entry]).map Except.ok ++ rest := by simp
      rw [List.append_cons] at distinct
      simp only [discoverEntries_ok_cons]
      split
      next carries =>
        split
        next error failed =>
          have stops : StopsAt files directory (before.map .ok ++ .ok entry :: rest) before error :=
            ⟨⟨_, rest, rfl, .unloaded carries failed⟩, registers.usable⟩
          exact .inr ⟨before, error, stops, rfl, registers⟩
        next manifest notes loaded =>
          have offers : files.Offers directory entry manifest := ⟨notes, loaded⟩
          rw [moved, offers.named named]
          exact ih (trace ++ notes) (registers.take fresh named carries offers)
            (collects.take carries) distinct valid
      next bare =>
        rw [moved]
        exact ih trace (registers.skip bare) (collects.skip bare) distinct valid

theorem discover_registers (themes : InstalledThemes) {files : FileSystem} {directory : Path}
    (lists : files.ListsNames directory) {entries : List (Except String String)}
    (present : files.list? directory = some entries) :
    let discovery := themes.discover files directory
    (∃ listed names, AllUsable files directory entries listed ∧ discovery.found = .ok names ∧
      names.Pairwise (· < ·) ∧
      (∀ name, name ∈ names ↔ name ∈ listed ∧ files.Carries directory name) ∧
      Registers files directory themes discovery.themes listed) ∨
    ∃ before error, StopsAt files directory entries before error ∧
      discovery.found = .error error ∧ Registers files directory themes discovery.themes before := by
  intro discovery
  have walked : discovery = discoverEntries files directory themes [] [] entries := by
    simp only [discovery, discover, present]
  rw [walked]
  obtain ⟨distinct, valid⟩ := lists entries present
  rcases discoverEntries_registers [] (.nothing themes) .nothing distinct valid with
    ⟨listed, names, read, found, collects, registers⟩ | stopped
  · exact .inl ⟨listed, _, ⟨read, registers.usable⟩, found, sortedNames_increasing names,
      fun name => mem_sortedNames.trans (collects name), registers⟩
  · exact .inr stopped

/-- Themes are taken in the order in which the directory lists them, up to the first entry that
cannot be read or whose manifest cannot be loaded. Only if there is no such entry there is no error.
After an error those that were listed before it stay registered, so the installed themes are what
they were exactly if these had been registered with the same manifests already. -/
theorem discover_in_order (themes : InstalledThemes) {files : FileSystem} {directory : Path}
    (lists : files.ListsNames directory) :
    let discovery := themes.discover files directory
    (files.list? directory = none →
      discovery.found = .error (.unreadableDirectory directory) ∧ discovery.themes = themes) ∧
    ∀ entries, files.list? directory = some entries →
      ((∃ names, discovery.found = .ok names) ↔
        ∃ listed, AllUsable files directory entries listed) ∧
      (∀ names, discovery.found = .ok names → ∃ listed, entries = listed.map .ok ∧
        Registers files directory themes discovery.themes listed ∧ names.Pairwise (· < ·) ∧
          ∀ name, name ∈ names ↔ name ∈ listed ∧ files.Carries directory name) ∧
      ∀ error, discovery.found = .error error →
        ∃ before, StopsAt files directory entries before error ∧
          Registers files directory themes discovery.themes before ∧
          (((∀ key, discovery.themes.lookup key = themes.lookup key) ∧
              discovery.themes.names = themes.names) ↔
            ∀ entry ∈ before, files.Carries directory entry →
              ∃ manifest, files.Offers directory entry manifest ∧
                themes.lookup entry = .ok manifest) := by
  intro discovery
  refine ⟨fun missing => ?_, fun entries present => ?_⟩
  · have nothing : discovery = ⟨themes, .error (.unreadableDirectory directory), []⟩ := by
      simp only [discovery, discover, missing]
    rw [nothing]
    exact ⟨rfl, rfl⟩
  rcases discover_registers themes lists present with
    ⟨listed, names, usable, all, increasing, members, registers⟩ |
      ⟨before, error, stops, failed, registers⟩
  · refine ⟨⟨fun _ => ⟨listed, usable⟩, fun _ => ⟨names, all⟩⟩, ?_, ?_⟩
    · intro found same
      obtain rfl := Except.ok.inj (all.symm.trans same)
      exact ⟨listed, usable.1, registers, increasing, members⟩
    · intro error same
      cases all.symm.trans same
  · refine ⟨⟨?_, fun ⟨listed, usable⟩ => absurd usable stops.not_allUsable⟩, ?_, ?_⟩
    · rintro ⟨names, same⟩
      cases failed.symm.trans same
    · intro names same
      cases failed.symm.trans same
    · intro other same
      obtain rfl := Except.error.inj (failed.symm.trans same)
      refine ⟨before, stops, registers, ?_⟩
      rw [← registers.unchanged_iff]
      exact ⟨And.left, fun same => ⟨same, names_congr same⟩⟩

end InstalledThemes

/-- A directory with a theme and one without, and another where only the first of two themes can be
loaded. -/
def FileTree.gallery : FileTree :=
  let theme (manifest : String) : FileTree :=
    .directory (.ofList [(manifestFile, .file manifest.toUTF8)])
  .directory (.ofList [
    ("themes", .directory (.ofList [
      ("assets", .directory .empty), ("slate", theme "extends = \"mkdocs\"\n")])),
    ("drafts", .directory (.ofList [
      ("slate", theme "extends = \"slate\"\n"), ("torn", theme "extends = 3\n")]))])

namespace InstalledThemes

theorem gallery_in_order :
    let files := FileTree.gallery.toFileSystem ⟨"/"⟩
    let reason := "Input/output error (os error 5)"
    let worn : FileSystem := { files with list? _ := some [.ok "slate", .error reason] }
    let themes := empty ⟨"/templates"⟩
    let published := themes.discover files ⟨"/themes"⟩
    let drafted := themes.discover files ⟨"/drafts"⟩
    let salvaged := themes.discover worn ⟨"/themes"⟩
    (files.ListsNames ⟨"/themes"⟩ ∧ published.found = .ok ["slate"] ∧
      ∃ listed, files.list? ⟨"/themes"⟩ = some (listed.map .ok) ∧
        Registers files ⟨"/themes"⟩ themes published.themes listed) ∧
    (files.ListsNames ⟨"/drafts"⟩ ∧ drafted.found = .error (.invalid "torn") ∧
      ∃ before, StopsAt files ⟨"/drafts"⟩ [.ok "slate", .ok "torn"] before (.invalid "torn") ∧
        Registers files ⟨"/drafts"⟩ themes drafted.themes before) ∧
    worn.ListsNames ⟨"/themes"⟩ ∧ salvaged.found = .error (.unreadableEntry reason) ∧
      ∃ before, StopsAt worn ⟨"/themes"⟩ [.ok "slate", .error reason] before
          (.unreadableEntry reason) ∧
        Registers worn ⟨"/themes"⟩ themes salvaged.themes before := by
  intro files reason worn themes published drafted salvaged
  have finished : files.list? ⟨"/themes"⟩ = some [.ok "assets", .ok "slate"] := by decide +kernel
  have begun : files.list? ⟨"/drafts"⟩ = some [.ok "slate", .ok "torn"] := by decide +kernel
  have broken : worn.list? ⟨"/themes"⟩ = some [.ok "slate", .error reason] := rfl
  have first : files.ListsNames ⟨"/themes"⟩ := by
    intro entries listed
    obtain rfl := Option.some.inj (finished.symm.trans listed)
    decide +kernel
  have second : files.ListsNames ⟨"/drafts"⟩ := by
    intro entries listed
    obtain rfl := Option.some.inj (begun.symm.trans listed)
    decide +kernel
  have third : worn.ListsNames ⟨"/themes"⟩ := by
    intro entries listed
    obtain rfl := Option.some.inj (broken.symm.trans listed)
    decide +kernel
  have found : published.found = .ok ["slate"] := by decide +kernel
  have failed : drafted.found = .error (.invalid "torn") := by decide +kernel
  have cut : salvaged.found = .error (.unreadableEntry reason) := by decide +kernel
  obtain ⟨-, succeeds, -⟩ := (discover_in_order themes first).2 _ finished
  obtain ⟨listed, read, registers, -⟩ := succeeds _ found
  obtain ⟨-, -, stops⟩ := (discover_in_order themes second).2 _ begun
  obtain ⟨before, halts, kept, -⟩ := stops _ failed
  obtain ⟨-, -, breaks⟩ := (discover_in_order themes third).2 _ broken
  obtain ⟨above, ends, saved, -⟩ := breaks _ cut
  exact ⟨⟨first, found, listed, finished.trans (congrArg some read), registers⟩,
    ⟨second, failed, before, halts, kept⟩, third, cut, above, ends, saved⟩

def woven : InstalledThemes :=
  ((empty ⟨"/templates"⟩).register ⟨"slate", ⟨"/themes/slate"⟩, some "torn", [], .empty⟩).register
    ⟨"torn", ⟨"/themes/torn"⟩, none, [], .empty⟩

/-- A theme that is found before the error takes the place of the one that had its name. -/
theorem slate_replaced :
    let files := FileTree.gallery.toFileSystem ⟨"/"⟩
    let discovery := woven.discover files ⟨"/drafts"⟩
    discovery.found = .error (.invalid "torn") ∧
      (woven.lookup "slate").map (·.parent) = .ok (some "torn") ∧
      (discovery.themes.lookup "slate").map (·.parent) = .ok (some "slate") := by
  decide +kernel

end InstalledThemes

end SiteSettings
