import Phrasebook.Proofs.Files.Writing
import Phrasebook.RuleFile.Defaults

/-!
# What becomes of the files when rule files are made

Whether a rule file is missing is asked before the directories above it are made, and the file is
written after that. In between, the directories can give the path a new meaning: if `x` is missing,
then `x/../rules.txt` names nothing, and once `x` is made it names `rules.txt`.

The files change at most where the written paths lead afterwards (`writes_ensureDefaults`). Where
those paths led before follows from how they climb (`IsTree.locate?_of_grows`).
-/

set_option autoImplicit false

namespace Phrasebook.RuleFile

open FileSystem

variable {fs : FileSystem} {p : Path} {lines : List Text}

/-! ## One rule file -/

theorem writes_makeParent (fs : FileSystem) (p : Path) : Writes fs (makeParent fs p).1 [] := by
  rw [makeParent]
  split
  case h_1 => exact .refl fs
  case h_2 parent _ =>
    split
    · exact .refl fs
    · exact writes_makeDirectories fs parent

/-- What an attempt to write a file can come to. -/
theorem writeDefault_cases (fs : FileSystem) (p : Path) (lines : List Text) (force : Bool) :
    (fs.pathExists p = true ∧ force = false ∧ writeDefault fs p lines force = (fs, .ok false)) ∨
      (∃ e, writeDefault fs p lines force = ((makeParent fs p).1, .error e)) ∨
      ((fs.pathExists p = true → force = true) ∧ ∃ fs',
        (makeParent fs p).1.writeBytes? p (Text.encode (contentOf lines)) = some fs' ∧
          writeDefault fs p lines force = (fs', .ok true)) := by
  rw [writeDefault]
  split
  case isTrue h => exact .inl (by simpa using h)
  case isFalse h =>
    obtain ⟨made, failure⟩ := makeParent fs p
    cases failure with
    | some e => exact .inr (.inl ⟨e, rfl⟩)
    | none =>
        cases hwrite : made.writeBytes? p (Text.encode (contentOf lines)) with
        | none => exact .inr (.inl ⟨.write p, by simp only [hwrite]⟩)
        | some fs' => exact .inr (.inr ⟨by simpa using h, fs', rfl, by simp only [hwrite]⟩)

/-- The paths that an attempt to write under `p` has written, by what it came to. -/
def writtenUnder (p : Path) : Except ConfigError Bool → List Path
  | .ok true => [p]
  | _ => []

/-- **One file.** An attempt to write a file changes no other, whether it succeeds or fails. -/
theorem writes_writeDefault (fs : FileSystem) (p : Path) (lines : List Text) (force : Bool) :
    Writes fs (writeDefault fs p lines force).1
      (writtenUnder p (writeDefault fs p lines force).2) := by
  obtain ⟨-, -, h⟩ | ⟨e, h⟩ | ⟨-, fs', hwrite, h⟩ := writeDefault_cases fs p lines force
  · rw [h]
    exact .refl fs
  · rw [h]
    exact writes_makeParent fs p
  · rw [h]
    exact (writes_makeParent fs p).trans (writes_writeBytes? hwrite)

/-- Without force only a path that named nothing is written. -/
theorem missing_of_written {q : Path}
    (h : q ∈ writtenUnder p (writeDefault fs p lines false).2) :
    q = p ∧ fs.pathExists p = false := by
  obtain ⟨-, -, hr⟩ | ⟨e, hr⟩ | ⟨hmissing, fs', -, hr⟩ := writeDefault_cases fs p lines false
  · rw [hr] at h
    cases h
  · rw [hr] at h
    cases h
  · rw [hr] at h
    exact ⟨List.mem_singleton.1 h, by simpa using hmissing⟩

theorem isTree_makeParent (tree : fs.IsTree) (p : Path) : (makeParent fs p).1.IsTree := by
  rw [makeParent]
  split
  case h_1 => exact tree
  case h_2 parent _ =>
    split
    · exact tree
    · exact tree.makeDirectories parent

theorem isTree_writeDefault (tree : fs.IsTree) (p : Path) (lines : List Text) (force : Bool) :
    (writeDefault fs p lines force).1.IsTree := by
  obtain ⟨-, -, h⟩ | ⟨e, h⟩ | ⟨-, fs', hwrite, h⟩ := writeDefault_cases fs p lines force
  · rw [h]
    exact tree
  · rw [h]
    exact isTree_makeParent tree p
  · rw [h]
    exact (isTree_makeParent tree p).writeBytes? hwrite

/-! ## Both rule files -/

/-- The second file is tried after the first, unless that failed. -/
theorem ensureDefaults_cases (fs : FileSystem) (paths : RulePaths) (force : Bool) :
    let first := writeDefault fs paths.sensitive demoSensitive force
    let second := writeDefault first.1 paths.insensitive demoInsensitive force
    let e := ensureDefaults fs paths force
    (e.files = first.1 ∧ e.written = writtenUnder paths.sensitive first.2) ∨
      (e.files = second.1 ∧ e.written =
        writtenUnder paths.sensitive first.2 ++ writtenUnder paths.insensitive second.2) := by
  intro first second e
  simp only [e, second, first, ensureDefaults]
  obtain ⟨fs₁, result₁⟩ := writeDefault fs paths.sensitive demoSensitive force
  cases result₁ with
  | error e₁ => exact .inl ⟨rfl, rfl⟩
  | ok wrote₁ =>
      dsimp only
      generalize writeDefault fs₁ paths.insensitive demoInsensitive force = attempt₂
      obtain ⟨fs₂, result₂⟩ := attempt₂
      cases result₂ with
      | error e₂ => cases wrote₁ <;> exact .inr ⟨rfl, rfl⟩
      | ok wrote₂ => cases wrote₁ <;> cases wrote₂ <;> exact .inr ⟨rfl, rfl⟩

/-- **Both files.** To make the rule files changes no file but those that the written paths name,
wherever the attempt stops. -/
theorem writes_ensureDefaults (fs : FileSystem) (paths : RulePaths) (force : Bool) :
    Writes fs (ensureDefaults fs paths force).files (ensureDefaults fs paths force).written := by
  have hfirst := writes_writeDefault fs paths.sensitive demoSensitive force
  obtain ⟨hfiles, hwritten⟩ | ⟨hfiles, hwritten⟩ := ensureDefaults_cases fs paths force
  · rw [hfiles, hwritten]
    exact hfirst
  · rw [hfiles, hwritten]
    exact hfirst.trans (writes_writeDefault _ paths.insensitive demoInsensitive force)

/-- The tree in which rule files were made is one in which they can be made again. -/
theorem isTree_ensureDefaults (tree : fs.IsTree) (paths : RulePaths) (force : Bool) :
    (ensureDefaults fs paths force).files.IsTree := by
  have hfirst := isTree_writeDefault tree paths.sensitive demoSensitive force
  obtain ⟨hfiles, -⟩ | ⟨hfiles, -⟩ := ensureDefaults_cases fs paths force
  · rw [hfiles]
    exact hfirst
  · rw [hfiles]
    exact isTree_writeDefault hfirst paths.insensitive demoInsensitive force

/-- Without force only rule paths that named nothing are written. -/
theorem missing_of_ensureDefaults {paths : RulePaths} {p : Path}
    (h : p ∈ (ensureDefaults fs paths false).written) :
    p ∈ [paths.sensitive, paths.insensitive] ∧ fs.pathExists p = false := by
  have hsensitive : p ∈ writtenUnder paths.sensitive
        (writeDefault fs paths.sensitive demoSensitive false).2 →
      p ∈ [paths.sensitive, paths.insensitive] ∧ fs.pathExists p = false := by
    intro hp
    obtain ⟨rfl, hmissing⟩ := missing_of_written hp
    exact ⟨List.mem_cons_self, hmissing⟩
  obtain ⟨-, hwritten⟩ | ⟨-, hwritten⟩ := ensureDefaults_cases fs paths false
  · exact hsensitive (hwritten ▸ h)
  · rw [hwritten, List.mem_append] at h
    obtain hp | hp := h
    · exact hsensitive hp
    · -- What names nothing after the first file was made named nothing before.
      obtain ⟨rfl, hmissing⟩ := missing_of_written hp
      have hgrows := (writes_writeDefault fs paths.sensitive demoSensitive false).grows
      refine ⟨by simp, ?_⟩
      rw [← Bool.not_eq_true] at hmissing ⊢
      exact fun hexists => hmissing (hgrows.pathExists hexists)

/-! ## The files that are there -/

/-- **Making the rule files keeps the files that are there**, exactly if no rule path that climbs
out of a missing directory is written over a file with another content. All other files are kept in
any case, and files are only added at the rule paths, also if the attempt fails at either of them. -/
theorem ensureDefaults_keeps_files (tree : fs.IsTree) (paths : RulePaths) :
    fs.AddsFilesAt (ensureDefaults fs paths false).files [paths.sensitive, paths.insensitive] ∧
      (fs.KeepsFiles (ensureDefaults fs paths false).files ↔
        ∀ p ∈ (ensureDefaults fs paths false).written,
          ¬ fs.ClimbsWithin (fs.origin p) (Path.steps p) →
          ∀ l c, (ensureDefaults fs paths false).files.locate? p = some l →
            fs.node? l = some (.file c) →
            (ensureDefaults fs paths false).files.node? l = some (.file c)) := by
  have hwrites := writes_ensureDefaults fs paths false
  have hmissing : ∀ p ∈ (ensureDefaults fs paths false).written,
      p ∈ [paths.sensitive, paths.insensitive] ∧ fs.pathExists p = false :=
    fun p hp => missing_of_ensureDefaults hp
  generalize ensureDefaults fs paths false = e at hwrites hmissing ⊢
  refine ⟨fun l c hc => ?_, fun hkeeps p _ _ l c _ hc => hkeeps l c hc, fun hclimbing l c hc => ?_⟩
  · by_cases hnamed : ∃ p ∈ e.written, e.files.locate? p = some l
    · obtain ⟨p, hp, hl⟩ := hnamed
      exact .inr ⟨p, (hmissing p hp).1, hl⟩
    · exact .inl ⟨c, (hwrites.apart (fun p hp hl => hnamed ⟨p, hp, hl⟩)).1 hc⟩
  · by_cases hnamed : ∃ p ∈ e.written, e.files.locate? p = some l
    · obtain ⟨p, hp, hl⟩ := hnamed
      refine hclimbing p hp (fun climbs => ?_) l c hl hc
      -- A path that climbs within `fs` and names an old file now has named it before.
      have hbefore := tree.locate?_of_grows hwrites.grows climbs hl (by simp [hc])
      have hexists : fs.pathExists p = true := pathExists_iff.2 ⟨l, hbefore, by simp [hc]⟩
      simp [(hmissing p hp).2] at hexists
    · exact (hwrites.apart (fun p hp hl => hnamed ⟨p, hp, hl⟩)).2 hc

/-- A tree with a rule file in a directory. -/
def withRules : FileSystem :=
  ⟨[(["config".toList], .directory),
    (["config".toList, "rules.txt".toList], .file (Text.encode "\"mine\"===\"ours\"\n".toList))], []⟩

/-- A path that climbs out of a missing directory may be written, if no file is there. -/
theorem ensureDefaults_keeps_beside_climb :
    withRules.IsTree ∧
      (ensureDefaults withRules
        ⟨"config/rules.txt".toList, "config/x/../new.txt".toList⟩ false).written =
          ["config/x/../new.txt".toList] ∧
      withRules.KeepsFiles (ensureDefaults withRules
        ⟨"config/rules.txt".toList, "config/x/../new.txt".toList⟩ false).files := by
  have htree : withRules.IsTree := by decide
  have hwritten : (ensureDefaults withRules
      ⟨"config/rules.txt".toList, "config/x/../new.txt".toList⟩ false).written =
        ["config/x/../new.txt".toList] := by decide
  have hlocate : (ensureDefaults withRules
      ⟨"config/rules.txt".toList, "config/x/../new.txt".toList⟩ false).files.locate?
        "config/x/../new.txt".toList = some ["config".toList, "new.txt".toList] := by decide
  refine ⟨htree, hwritten, (ensureDefaults_keeps_files htree _).2.2 fun p hp _ l c hl hc => ?_⟩
  rw [hwritten, List.mem_singleton] at hp
  subst hp
  rw [hlocate] at hl
  cases hl
  have hfree : withRules.node? ["config".toList, "new.txt".toList] = none := by decide
  rw [hfree] at hc
  cases hc

/-- A path that climbs out of a missing directory is written over the file that it comes out at. -/
theorem ensureDefaults_overwrites_after_climb :
    withRules.IsTree ∧
      withRules.node? ["config".toList, "rules.txt".toList] =
        some (.file (Text.encode "\"mine\"===\"ours\"\n".toList)) ∧
      (ensureDefaults withRules
        ⟨"config/x/../rules.txt".toList, "config/new.txt".toList⟩ false).files.node?
          ["config".toList, "rules.txt".toList] =
        some (.file (Text.encode (contentOf demoSensitive))) ∧
      ¬ withRules.KeepsFiles (ensureDefaults withRules
        ⟨"config/x/../rules.txt".toList, "config/new.txt".toList⟩ false).files := by
  have hmine : withRules.node? ["config".toList, "rules.txt".toList] =
      some (.file (Text.encode "\"mine\"===\"ours\"\n".toList)) := by decide
  have hdemo : (ensureDefaults withRules
      ⟨"config/x/../rules.txt".toList, "config/new.txt".toList⟩ false).files.node?
        ["config".toList, "rules.txt".toList] =
      some (.file (Text.encode (contentOf demoSensitive))) := by decide
  refine ⟨by decide, hmine, hdemo, fun hkeeps => ?_⟩
  have hsame := hdemo.symm.trans (hkeeps _ _ hmine)
  revert hsame
  decide

end Phrasebook.RuleFile
