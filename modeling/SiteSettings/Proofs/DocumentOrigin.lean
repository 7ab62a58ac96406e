import SiteSettings.Config.Origin
import SiteSettings.FileTree
import SiteSettings.Proofs.Merging
import SiteSettings.Proofs.NativePaths
import SiteSettings.Proofs.NormalPaths

/-! Where the relative paths of a document start. A document that is read from a file notes the
file's absolute path, and what is noted leads back to the directory of the file, as far as that is
text. -/

namespace SiteSettings

namespace Toml

theorem toMembers_eq_map (entries : List (String × Toml)) :
    toMembers entries = entries.map fun entry => (entry.1, entry.2.toValue) := by
  induction entries with
  | nil => simp [toMembers]
  | cons entry rest ih => rw [toMembers, ih, List.map_cons]

def float? : Toml → Option Binary64
  | .float value => some value
  | _ => none

end Toml

namespace Config

section Reading

variable {system : NativeSystem} {file : NativePath} {members : OrderedMap Value}

theorem readToml_eq_ok_iff :
    readToml system file = .ok members ↔
      ∃ content document, system.readText? file = some content ∧
        Toml.parse? content = some document ∧
        members = noteOrigin system file (document.mapValues Toml.toValue) := by
  simp only [OrderedMap.mapValues, ← Toml.toMembers_eq_map, readToml]
  cases stored : system.readText? file with
  | none => simp [throw, throwThe, MonadExceptOf.throw]
  | some content =>
    cases parsed : Toml.parse? content with
    | none => simp [parsed, throw, throwThe, MonadExceptOf.throw]
    | some document => simp [parsed, pure, Except.pure, eq_comm]

theorem noteOrigin_of_contains (contains : members.contains originKey = true) :
    noteOrigin system file members = members := if_pos contains

theorem noteOrigin_entries (absent : members.contains originKey = false) :
    noteOrigin system file members =
      ⟨members.entries ++
        [(originKey, .text (file.absolutize system.workingDirectory).toPath.text)]⟩ := by
  have vacant := OrderedMap.contains_eq_false_iff.mp absent
  rw [noteOrigin, absent, if_neg Bool.false_ne_true,
    OrderedMap.insert_of_not_mem (OrderedMap.get?_eq_none_iff.mp vacant)]

end Reading

/-- Declared or not, the last entry of a document tells where it came from. -/
theorem origin?_loadMembers (schema : Schema) (entries : List (String × Value)) (text : String) :
    ((new schema).loadMembers ⟨entries ++ [(originKey, .text text)]⟩).origin? = some text := by
  have last : (new schema).loadMembers ⟨entries ++ [(originKey, .text text)]⟩ =
      ((new schema).loadMembers ⟨entries⟩).loadEntry originKey (.text text) :=
    List.foldl_append ..
  have schema_eq : ((new schema).loadMembers ⟨entries⟩).schema = schema := loadMembers_schema ..
  rw [last, loadEntry, schema_eq]
  split
  next declared =>
    simp only [origin?, Config.text?, get?, OrderedMap.get?_insert_self]
    rfl
  next undeclared =>
    have outside : originKey ∉ schema.names :=
      Schema.declares_eq_false_iff.mp (Bool.not_eq_true _ ▸ undeclared)
    have vacant : ((new schema).loadMembers ⟨entries⟩).get? originKey = none := by
      rw [get?_loadMembers, show (new schema).schema = schema from rfl, if_neg outside]
      rfl
    rw [get?] at vacant
    simp only [origin?, Config.text?, get?, vacant, OrderedMap.get?_insert_self]
    rfl

/-- Without a base of its own a configuration starts beside the file that its origin names. -/
theorem baseDir_of_origin {config : Config} (unbased : config.baseDirectory = none) {file : Path}
    (rooted : file.isAbsolute = true) (origin : config.origin? = some file.text)
    (environment : Environment) :
    config.baseDir environment =
      ((file.normalize environment.workingDirectory).parent?).getD (environment.absolute ⟨"."⟩) := by
  simp only [baseDir, unbased, origin, Path.expandTilde_of_isAbsolute rooted, Environment.absolute]

/-- The origin that is noted leads to the parent of the normal form, read as text. -/
theorem baseDir_of_noted {base : NativePath} (rooted : base.isAbsolute = true) {config : Config}
    (unbased : config.baseDirectory = none) {file parent : NativePath}
    (origin : config.origin? = some (file.absolutize base).toPath.text)
    (found : (file.normalize base).parent? = some parent) (environment : Environment) :
    config.baseDir environment = parent.toPath := by
  rw [baseDir_of_origin unbased (file.isAbsolute_toPath_absolutize rooted) origin,
    file.normalize_toPath_absolutize rooted, NativePath.parent?_toPath, found]
  rfl

/-- A document that was read from a file starts its relative paths beside that file, wherever one
is later: in its directory if that is text, else where the directory as it is shown would be. It
holds what the file holds, with the file's absolute path behind it. If it says itself where it came
from, it is left as it is. -/
theorem readToml_starts_beside {system : NativeSystem}
    (rooted : system.workingDirectory.isAbsolute = true) {file name : NativePath}
    (named : file.fileName? = some name) {members : OrderedMap Value}
    (read : readToml system file = .ok members) :
    ∃ content document, system.readText? file = some content ∧
      Toml.parse? content = some document ∧
      let held := document.mapValues Toml.toValue
      (document.contains originKey = true → members = held) ∧
      (document.contains originKey = false →
        members.entries = held.entries ++
          [(originKey, .text (file.absolutize system.workingDirectory).toPath.text)] ∧
        ∃ parent, (file.normalize system.workingDirectory).parent? = some parent ∧
          ∀ schema, ∃ config, ofDocument schema (.object members) = .ok config ∧
            ∀ later : Environment, config.baseDir later = parent.toPath ∧
              ∀ directory, parent = .ofPath directory → config.baseDir later = directory) := by
  obtain ⟨content, document, stored, parsed, rfl⟩ := readToml_eq_ok_iff.mp read
  have same : (document.mapValues Toml.toValue).contains originKey =
      document.contains originKey := by
    rw [Bool.eq_iff_iff, OrderedMap.contains, OrderedMap.contains, OrderedMap.get?_isSome_iff,
      OrderedMap.get?_isSome_iff, OrderedMap.keys_mapValues]
  refine ⟨content, document, stored, parsed, fun contains => ?_, fun absent => ?_⟩
  · exact noteOrigin_of_contains (same.trans contains)
  rw [noteOrigin_entries (same.trans absent)]
  obtain ⟨parent, found⟩ := NativePath.exists_parent_normalize named system.workingDirectory
  refine ⟨rfl, parent, found, fun schema => ⟨_, rfl, fun later => ?_⟩⟩
  rw [baseDir_of_noted rooted (loadMembers_baseDirectory ..) (origin?_loadMembers ..) found]
  refine ⟨rfl, ?_⟩
  rintro directory rfl
  exact NativePath.toPath_ofPath directory

end Config

def FileTree.tilde : FileTree :=
  .directory (.ofList [("work", .directory (.ofList [
    ("conf", .directory .empty),
    ("~", .directory (.ofList [
      ("site.toml", .file "site_name = \"A\"\n[theme]\nname = \"slate\"\n".toUTF8)]))]))])

namespace Config

/-- The tilde is a directory like any other, as what is noted starts at the root. -/
theorem tilde_starts_beside :
    let environment : Environment :=
      ⟨FileTree.tilde.toFileSystem ⟨"/work"⟩, ⟨"/home/oracle"⟩, ⟨"/work"⟩⟩
    let path : Path := ⟨"~/../conf/..//~/./site.toml"⟩
    let file : NativePath := .ofPath path
    environment.native.workingDirectory.isAbsolute = true ∧
      file.fileName? = some (.ofPath ⟨"site.toml"⟩) ∧
      ∃ members, readToml environment.native file = .ok members ∧
        members.keys = ["site_name", "theme", originKey] ∧
        ∃ config, ofDocument .titled (.object members) = .ok config ∧
          config.baseDir environment = ⟨"/work/~"⟩ := by
  intro environment path file
  have rooted : environment.native.workingDirectory.isAbsolute = true := by decide +kernel
  have named : file.fileName? = some (.ofPath ⟨"site.toml"⟩) := by decide +kernel
  have readable : (readToml environment.native file).isOk = true := by decide +kernel
  have keys : (environment.native.readText? file).bind (fun content =>
      (Toml.parse? content).map OrderedMap.keys) = some ["site_name", "theme"] := by
    decide +kernel
  have beside : (path.normalize ⟨"/work"⟩).parent? = some ⟨"/work/~"⟩ := by decide +kernel
  cases read : readToml environment.native file with
  | error error => rw [read] at readable; cases readable
  | ok members =>
    obtain ⟨content, document, stored, parsed, _, notes⟩ :=
      readToml_starts_beside rooted named read
    rw [stored, Option.bind_some, parsed, Option.map_some, Option.some.injEq] at keys
    have absent : document.contains originKey = false := by
      rw [OrderedMap.contains_eq_false_iff, OrderedMap.get?_eq_none_iff, keys]
      decide
    obtain ⟨entries, parent, found, starts⟩ := notes absent
    obtain ⟨config, made, based⟩ := starts .titled
    have text : parent = .ofPath ⟨"/work/~"⟩ := by
      rw [show environment.native.workingDirectory = .ofPath ⟨"/work"⟩ from rfl,
        show file = .ofPath path from rfl, NativePath.normalize_ofPath,
        NativePath.parent?_ofPath, beside] at found
      exact (Option.some.inj found).symm
    refine ⟨rooted, named, members, rfl, ?_, config, made, (based environment).2 _ text⟩
    rw [OrderedMap.keys, entries, List.map_append]
    exact congrArg (· ++ [originKey]) ((OrderedMap.keys_mapValues _ _).trans keys)

end Config

namespace Config

/-- An infinite limit becomes null, and below a directory whose name is the byte `FF` a document
starts below another directory. -/
theorem limit_and_parent_lost :
    let content := "limit = inf\n"
    let plain : NativePath := .ofPath ⟨"/work/site.toml"⟩
    let directory : NativePath := ⟨(NativePath.ofPath ⟨"/work/"⟩).bytes ++ [0xFF]⟩
    let worn : NativePath := ⟨directory.bytes ++ (NativePath.ofPath ⟨"/site.toml"⟩).bytes⟩
    let system : NativeSystem :=
      ⟨fun file => if file = plain ∨ file = worn then some content else none, .ofPath ⟨"/work"⟩⟩
    let environment : Environment :=
      ⟨FileTree.tilde.toFileSystem ⟨"/work"⟩, ⟨"/home/oracle"⟩, ⟨"/work"⟩⟩
    let limit := (Toml.parse? content).bind (·.get? "limit")
    let lost := (readToml system plain).map fun members =>
      (members.get? "limit").map Value.isNull
    let base := (readToml system worn).bind fun members =>
      (ofDocument .titled (.object members)).map (·.baseDir environment)
    (limit.bind Toml.float? = some (.infinity false) ∧ lost = .ok (some true)) ∧
      (worn.normalize system.workingDirectory).parent? = some directory ∧
      base = .ok ⟨"/work/\uFFFD"⟩ ∧ NativePath.ofPath ⟨"/work/\uFFFD"⟩ ≠ directory := by
  decide +kernel

end Config

end SiteSettings
