import Phrasebook.Proofs.Files.Entries
import Phrasebook.Settings.Discovery

/-!
# Loading the settings

A document holds settings unless one of its assignments is refused (`ofDocument?_eq_none_iff`), and
a settings file that its path names is loaded unless it cannot be read or does not hold settings
(`load_eq_error_iff`). The default settings stand if the path of the settings file names nothing
(`load_eq_ok_iff`). That is so if the file is missing, but also if it is there and its path is too
long to be looked up: then even a file that is unfit for settings is passed over (`load_of_unfit`).
-/

set_option autoImplicit false

namespace Phrasebook.Settings

open FileSystem

variable {fs : FileSystem} {p directory : Path} {e : ConfigError} {n : Node}

/-! ## Documents -/

/-- The keys that have a meaning. -/
def knownKeys : List Text := [sensitiveKey, insensitiveKey, createDefaultsKey]

/-- An assignment that no settings file may hold. -/
inductive Refused : Text × Toml.Value → Prop where
  /-- The key has no meaning. -/
  | unknownKey {key : Text} {value : Toml.Value} (h : key ∉ knownKeys) : Refused (key, value)
  /-- The name of a rule file is no string. -/
  | flagForFile {key : Text} {b : Bool} (h : key = sensitiveKey ∨ key = insensitiveKey) :
      Refused (key, .flag b)
  /-- The switch is no boolean. -/
  | textForSwitch {t : Text} : Refused (createDefaultsKey, .text t)

theorem assign?_eq_none_iff {s : Settings} {entry : Text × Toml.Value} :
    assign? s entry = none ↔ Refused entry := by
  obtain ⟨key, value⟩ := entry
  constructor
  · intro h
    by_cases hsensitive : key = sensitiveKey
    · subst hsensitive
      cases value with
      | text t => cases h
      | flag b => exact .flagForFile (.inl rfl)
    by_cases hinsensitive : key = insensitiveKey
    · subst hinsensitive
      cases value with
      | text t => cases h
      | flag b => exact .flagForFile (.inr rfl)
    by_cases hswitch : key = createDefaultsKey
    · subst hswitch
      cases value with
      | text t => exact .textForSwitch
      | flag b => cases h
    · exact .unknownKey (by simp [knownKeys, hsensitive, hinsensitive, hswitch])
  · intro h
    cases h with
    | unknownKey hkey =>
        simp only [knownKeys, List.mem_cons, List.not_mem_nil, or_false, not_or] at hkey
        simp [assign?, hkey]
    | flagForFile hkey =>
        obtain rfl | rfl := hkey
        · rfl
        · rfl
    | textForSwitch => rfl

theorem ofDocument?_eq_none_iff {document : Toml.Document} :
    ofDocument? document = none ↔ ∃ entry ∈ document, Refused entry := by
  -- The settings so far play no part, so the induction is for any of them.
  have hfold : ∀ s, document.foldlM assign? s = none ↔ ∃ entry ∈ document, Refused entry := by
    induction document with
    | nil => simp
    | cons entry later ih =>
        intro s
        rw [List.foldlM_cons]
        simp only [List.mem_cons, exists_eq_or_imp]
        cases hassign : assign? s entry with
        | none => exact iff_of_true rfl (.inl (assign?_eq_none_iff.1 hassign))
        | some next =>
            have hentry : ¬ Refused entry := by
              intro hrefused
              rw [assign?_eq_none_iff.2 hrefused] at hassign
              cases hassign
            rw [or_iff_right hentry]
            exact ih next
  exact hfold {}

/-! ## The settings file -/

/-- No settings can be loaded from this node, and this is the error that says so of its path. -/
inductive Unfit : Node → (Path → ConfigError) → Prop where
  /-- There is a directory in place of the file. -/
  | directory : Unfit .directory .read
  /-- The content of the file is not UTF-8. -/
  | malformed {content : Bytes} (h : Text.decode? content = none) : Unfit (.file content) .read
  /-- The text of the file is no flat document: it is not TOML, or it has tables or values of a kind
  that no setting has. -/
  | noDocument {content : Bytes} {t : Text} (h : Text.decode? content = some t)
      (ht : Toml.parse? t = none) : Unfit (.file content) .settings
  /-- The document has an unknown key, or a value of the wrong kind. -/
  | refused {content : Bytes} {t : Text} {document : Toml.Document} {entry : Text × Toml.Value}
      (h : Text.decode? content = some t) (ht : Toml.parse? t = some document)
      (hmem : entry ∈ document) (hentry : Refused entry) : Unfit (.file content) .settings

/-- The settings of a configuration directory, as they are loaded. -/
inductive Holds (fs : FileSystem) (directory : Path) : LoadedSettings → Prop where
  /-- The path of the settings file names nothing, so that the default settings stand. -/
  | missing (h : fs.nodeAt? (Path.join directory fileName) = none) :
      Holds fs directory ⟨{}, directory, none⟩
  /-- The settings file can be read as a document, and the document holds settings. -/
  | document {t : Text} {document : Toml.Document} {s : Settings}
      (h : fs.readText? (Path.join directory fileName) = some t)
      (ht : Toml.parse? t = some document) (hs : ofDocument? document = some s) :
      Holds fs directory ⟨s, directory, some (Path.join directory fileName)⟩

theorem parse?_eq_none_iff {t : Text} :
    parse? t = none ↔ Toml.parse? t = none ∨
      ∃ document, Toml.parse? t = some document ∧ ∃ entry ∈ document, Refused entry := by
  unfold parse?
  cases Toml.parse? t with
  | none => simp
  | some document => simp [ofDocument?_eq_none_iff]

theorem unfit_file_iff {content : Bytes} {t : Text} (ht : Text.decode? content = some t)
    {kind : Path → ConfigError} :
    Unfit (.file content) kind ↔ parse? t = none ∧ kind = .settings := by
  rw [parse?_eq_none_iff]
  constructor
  · intro h
    cases h with
    | malformed hnone => simp [ht] at hnone
    | noDocument hsome hparse =>
        rw [ht, Option.some.injEq] at hsome
        subst hsome
        exact ⟨.inl hparse, rfl⟩
    | refused hsome hparse hmem hentry =>
        rw [ht, Option.some.injEq] at hsome
        subst hsome
        exact ⟨.inr ⟨_, hparse, _, hmem, hentry⟩, rfl⟩
  · rintro ⟨hnone | ⟨document, hdocument, entry, hmem, hentry⟩, rfl⟩
    · exact .noDocument ht hnone
    · exact .refused ht hdocument hmem hentry

theorem loadFile_eq_error_iff (hnode : fs.nodeAt? p = some n) :
    loadFile fs p = .error e ↔ ∃ kind, Unfit n kind ∧ kind p = e := by
  cases n with
  | directory =>
      have hread : fs.readText? p = none := readText?_eq_none_iff.2 (.directory hnode)
      rw [loadFile, hread]
      constructor
      · rintro ⟨⟩
        exact ⟨_, .directory, rfl⟩
      · rintro ⟨kind, ⟨⟩, rfl⟩
        rfl
  | file content =>
      cases hdecode : Text.decode? content with
      | none =>
          have hread : fs.readText? p = none :=
            readText?_eq_none_iff.2 (.malformed hnode hdecode)
          rw [loadFile, hread]
          constructor
          · rintro ⟨⟩
            exact ⟨_, .malformed hdecode, rfl⟩
          · rintro ⟨kind, hunfit, rfl⟩
            cases hunfit with
            | malformed _ => rfl
            | noDocument hsome _ => simp [hdecode] at hsome
            | refused hsome _ _ _ => simp [hdecode] at hsome
      | some t =>
          have hread : fs.readText? p = some t :=
            readText?_eq_some_iff.2 ⟨content, hnode, hdecode⟩
          simp only [loadFile, hread, unfit_file_iff hdecode]
          cases parse? t with
          | none => simp
          | some s => simp

theorem parse?_eq_some_iff {t : Text} {s : Settings} :
    parse? t = some s ↔
      ∃ document, Toml.parse? t = some document ∧ ofDocument? document = some s := by
  unfold parse?
  cases Toml.parse? t with
  | none => simp
  | some document => simp

theorem loadFile_eq_ok_iff {s : Settings} :
    loadFile fs p = .ok s ↔ ∃ t document, fs.readText? p = some t ∧
      Toml.parse? t = some document ∧ ofDocument? document = some s := by
  unfold loadFile
  cases fs.readText? p with
  | none => simp
  | some t =>
      simp only [Option.some.injEq, exists_and_left, exists_eq_left', ← parse?_eq_some_iff]
      cases parse? t with
      | none => simp
      | some s' => simp

/-! ## The settings of a directory -/

theorem load_of_nodeAt?_eq_none (h : fs.nodeAt? (Path.join directory fileName) = none) :
    load fs directory = .ok ⟨{}, directory, none⟩ := by
  have hthere : ¬ fs.pathExists (Path.join directory fileName) = true := by
    simp [FileSystem.pathExists, h]
  rw [load, if_neg hthere]

theorem load_of_nodeAt?_eq_some (h : fs.nodeAt? (Path.join directory fileName) = some n) :
    load fs directory = (loadFile fs (Path.join directory fileName)).map fun s =>
      ⟨s, directory, some (Path.join directory fileName)⟩ := by
  have hthere : fs.pathExists (Path.join directory fileName) = true := by
    simp [FileSystem.pathExists, h]
  rw [load, if_pos hthere]

/-- **Settings that fail** are those of a node that the path of the settings file names and that is
unfit; the error names that path. -/
theorem load_eq_error_iff :
    load fs directory = .error e ↔
      ∃ n kind, fs.nodeAt? (Path.join directory fileName) = some n ∧ Unfit n kind ∧
        kind (Path.join directory fileName) = e := by
  cases hnode : fs.nodeAt? (Path.join directory fileName) with
  | none =>
      rw [load_of_nodeAt?_eq_none hnode]
      simp
  | some n =>
      simp only [load_of_nodeAt?_eq_some hnode, Option.some.injEq, exists_and_left,
        exists_eq_left', ← loadFile_eq_error_iff hnode]
      cases loadFile fs (Path.join directory fileName) with
      | error e' => simp [Except.map]
      | ok s => simp [Except.map]

/-- **Settings that load** are the default ones if the path of the settings file names nothing, and
otherwise those that the document in the file holds. -/
theorem load_eq_ok_iff {loaded : LoadedSettings} :
    load fs directory = .ok loaded ↔ Holds fs directory loaded := by
  cases hnode : fs.nodeAt? (Path.join directory fileName) with
  | none =>
      rw [load_of_nodeAt?_eq_none hnode]
      constructor
      · rintro ⟨⟩
        exact .missing hnode
      · intro h
        cases h with
        | missing _ => rfl
        | document hread _ _ =>
            obtain ⟨content, hfile, -⟩ := readText?_eq_some_iff.1 hread
            simp [hnode] at hfile
  | some n =>
      rw [load_of_nodeAt?_eq_some hnode]
      constructor
      · intro h
        cases hfile : loadFile fs (Path.join directory fileName) with
        | error e => simp [hfile, Except.map] at h
        | ok s =>
            rw [hfile] at h
            cases h
            obtain ⟨t, document, hread, hparse, hs⟩ := loadFile_eq_ok_iff.1 hfile
            exact .document hread hparse hs
      · intro h
        cases h with
        | missing hnone => simp [hnode] at hnone
        | document hread hparse hs =>
            rw [loadFile_eq_ok_iff.2 ⟨_, _, hread, hparse, hs⟩]
            rfl

theorem isName_fileName : Path.IsName fileName := ⟨by decide, by decide, by decide⟩

/-- **An unfit settings file.** Whatever is unfit under the name of the settings file in the
directory, loading fails, and the error names the path; but if that path is too long, then the
default settings stand. -/
theorem load_of_unfit {l : Location} {kind : Path → ConfigError}
    (hplace : fs.locate? directory = some l) (hdirectory : fs.node? l = some .directory)
    (hnode : fs.node? (l ++ [fileName]) = some n) (hunfit : Unfit n kind) :
    load fs directory =
      if Text.byteLength (Path.join directory fileName) ≤ Path.maxLength
      then .error (kind (Path.join directory fileName)) else .ok ⟨{}, directory, none⟩ := by
  have hnamed := nodeAt?_join hplace hdirectory isName_fileName (by decide)
  split
  case isTrue hlength =>
    rw [if_pos hlength, hnode] at hnamed
    exact load_eq_error_iff.2 ⟨n, kind, hnamed, hunfit, rfl⟩
  case isFalse hlength =>
    rw [if_neg hlength] at hnamed
    exact load_of_nodeAt?_eq_none hnamed

end Phrasebook.Settings
