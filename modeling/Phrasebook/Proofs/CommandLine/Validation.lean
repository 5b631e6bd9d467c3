import Phrasebook.CommandLine.Run
import Phrasebook.Proofs.Rule.Verdicts
import Phrasebook.Proofs.RuleFile.Existing

/-!
# Validating the rule files

`rules validate` reads both rule files, also if the first of them cannot be read, and reports every
line that is neither blank nor a rule. It ends well if and only if there is nothing to report
(`validate_reports_every_line`), and then `rules list` finds one rule on every line that is not
blank. Both go through a list of files: `problemCount_eq_zero_iff` and `listFiles_of_loaded` are the
two inductions over it.
-/

set_option autoImplicit false

namespace Phrasebook.CommandLine

open FileSystem
open Wildcard

variable {fs : FileSystem} {loaded : LoadedSettings} {mode : CaseMode} {p : Path} {t : Text}

/-! ## One file -/

/-- A rule file can be read, and every line in it is blank or accepted as a rule. -/
def ValidFile (fs : FileSystem) (mode : CaseMode) (p : Path) : Prop :=
  ∃ t, fs.readText? p = some t ∧
    ∀ line ∈ Text.lines t, Text.allBlank line = false → Accepts mode line

/-- What is printed about a rule file: nothing if it cannot be read, and otherwise how many of its
lines are rules, and then one line for each of its rejected lines, in order. -/
inductive Checked (fs : FileSystem) (mode : CaseMode) (p : Path) : List Text → Prop where
  /-- The file cannot be read. -/
  | unreadable (h : fs.Unreadable p) : Checked fs mode p []
  /-- The file can be read, and these are its problems. -/
  | read {t : Text} {problems : List SkippedLine} (h : fs.readText? p = some t)
      (hproblems : List.Forall₂ (SkippedLine.StandsOn mode)
        (rejectedLines mode (Text.lines t)) problems) :
      Checked fs mode p
        ((p ++ " (".toList ++ Text.ofNat (acceptedLines mode (Text.lines t)).length
          ++ " rules)".toList) :: problems.map problemLine)

/-- These rules stand one by one on the lines of a rule file that are not blank. -/
def OnEveryLine (fs : FileSystem) (mode : CaseMode) (p : Path) (rules : RuleSet) : Prop :=
  ∃ t, fs.readText? p = some t ∧
    List.Forall₂ (Rule.StandsOn mode) (fullLines (Text.lines t)) rules

theorem checkFile_of_none (h : fs.readText? p = none) :
    checkFile fs p mode
      = ⟨[], [.line ("Configuration error: ".toList ++ (ConfigError.read p).message)], 1⟩ := by
  rw [checkFile, RuleFile.load_eq, h]

theorem checkFile_of_some (h : fs.readText? p = some t) :
    checkFile fs p mode =
      ⟨(p ++ " (".toList ++ Text.ofNat (acceptedLines mode (Text.lines t)).length
            ++ " rules)".toList) :: (Report.ofLines mode (Text.lines t)).skipped.map problemLine,
        recorded (RuleFile.loadRecords p (Report.ofLines mode (Text.lines t))),
        (rejectedLines mode (Text.lines t)).length⟩ := by
  rw [(forall₂_rules_ofLines mode (Text.lines t)).length_eq,
    (forall₂_skipped_ofLines mode (Text.lines t)).length_eq, checkFile, RuleFile.load_of_readText? h]

theorem checked_checkFile (fs : FileSystem) (mode : CaseMode) (p : Path) :
    Checked fs mode p (checkFile fs p mode).lines := by
  cases hread : fs.readText? p with
  | none =>
      rw [checkFile_of_none hread]
      exact .unreadable (readText?_eq_none_iff.1 hread)
  | some t =>
      rw [checkFile_of_some hread]
      exact .read hread (forall₂_skipped_ofLines mode (Text.lines t))

theorem problems_checkFile_eq_zero_iff :
    (checkFile fs p mode).problems = 0 ↔ ValidFile fs mode p := by
  cases hread : fs.readText? p with
  | none =>
      rw [checkFile_of_none hread]
      constructor
      · intro h
        cases h
      · rintro ⟨t, ht, -⟩
        rw [hread] at ht
        cases ht
  | some t =>
      rw [checkFile_of_some hread, List.length_eq_zero_iff, rejectedLines_eq_nil_iff]
      constructor
      · intro h
        exact ⟨t, hread, h⟩
      · rintro ⟨t', ht', h⟩
        rw [hread] at ht'
        cases ht'
        exact h

theorem onEveryLine_of_validFile (h : ValidFile fs mode p) :
    ∃ report, RuleFile.load fs mode p = .ok report ∧ OnEveryLine fs mode p report.rules := by
  obtain ⟨t, hread, hlines⟩ := h
  have hrules := forall₂_rules_ofLines mode (Text.lines t)
  rw [acceptedLines_eq_fullLines (rejectedLines_eq_nil_iff.2 hlines)] at hrules
  exact ⟨_, RuleFile.load_of_readText? hread, t, hread, hrules⟩

/-! ## Several files -/

theorem problemCount_eq_zero_iff {checks : List FileCheck} :
    problemCount checks = 0 ↔ ∀ c ∈ checks, c.problems = 0 := by
  -- The count so far is carried along, so the induction is for any count.
  have hcount : ∀ n, checks.foldl (fun n c => n + c.problems) n = 0 ↔
      n = 0 ∧ ∀ c ∈ checks, c.problems = 0 := by
    induction checks with
    | nil => simp
    | cons c later ih =>
        intro n
        rw [List.foldl_cons, ih, List.forall_mem_cons, Nat.add_eq_zero_iff, and_assoc]
  rw [problemCount, hcount 0]
  simp

/-- If all files of a list can be read, then the rules of every one are listed. -/
theorem listFiles_of_loaded {files : List (Path × CaseMode)} {reports : List Report}
    (h : List.Forall₂ (fun f report => RuleFile.load fs f.2 f.1 = .ok report) files reports) :
    (listFiles fs files).1
        = (files.zip reports).flatMap (fun entry => fileLines entry.1.1 entry.1.2 entry.2) ∧
      (listFiles fs files).2.2 = 0 := by
  induction h with
  | nil => exact ⟨rfl, rfl⟩
  | @cons f report later _ hload _ ih =>
      obtain ⟨path, m⟩ := f
      obtain ⟨hlines, hcode⟩ := ih
      rw [listFiles, hload]
      exact ⟨congrArg (fileLines path m report ++ ·) hlines, hcode⟩

/-! ## The two commands -/

/-- The checks of the two rule files. -/
def fileChecks (fs : FileSystem) (loaded : LoadedSettings) : List FileCheck :=
  (ruleFiles loaded).map fun f => checkFile fs f.1 f.2

theorem code_runValidate (fs : FileSystem) (loaded : LoadedSettings) :
    (runValidate fs loaded).code = if problemCount (fileChecks fs loaded) = 0 then 0 else 1 := by
  simp only [runValidate, apply_ite Outcome.code]
  rfl

theorem code_runValidate_eq_one (h : (runValidate fs loaded).code ≠ 0) :
    (runValidate fs loaded).code = 1 := by
  rw [code_runValidate] at h ⊢
  split at h
  · exact absurd rfl h
  · next hproblems => exact if_neg hproblems

theorem files_runValidate (fs : FileSystem) (loaded : LoadedSettings) :
    (runValidate fs loaded).files = fs := by
  simp only [runValidate, apply_ite Outcome.files, ite_self]

theorem problemCount_fileChecks_eq_zero_iff :
    problemCount (fileChecks fs loaded) = 0 ↔
      ∀ mode, ValidFile fs mode (loaded.rulePaths.file mode) := by
  rw [problemCount_eq_zero_iff]
  simp only [fileChecks, ruleFiles, List.map_cons, List.map_nil, List.forall_mem_cons,
    List.not_mem_nil, problems_checkFile_eq_zero_iff]
  constructor
  · rintro ⟨hsensitive, hinsensitive, -⟩ mode
    cases mode with
    | sensitive => exact hsensitive
    | insensitive => exact hinsensitive
  · intro h
    exact ⟨h .sensitive, h .insensitive, nofun⟩

theorem code_runValidate_eq_zero_iff :
    (runValidate fs loaded).code = 0 ↔
      ∀ mode, ValidFile fs mode (loaded.rulePaths.file mode) := by
  rw [code_runValidate, ← problemCount_fileChecks_eq_zero_iff]
  split
  · next h => exact iff_of_true rfl h
  · next h => exact iff_of_false Nat.one_ne_zero h

theorem output_runValidate (fs : FileSystem) (loaded : LoadedSettings) :
    (runValidate fs loaded).output
      = unlines ((checkFile fs loaded.rulePaths.sensitive .sensitive).lines ++
          (checkFile fs loaded.rulePaths.insensitive .insensitive).lines ++
          if (runValidate fs loaded).code = 0 then ["All rule files are valid.".toList] else []) := by
  have hlines : ((ruleFiles loaded).map fun f => checkFile fs f.1 f.2).flatMap FileCheck.lines
      = (checkFile fs loaded.rulePaths.sensitive .sensitive).lines ++
          (checkFile fs loaded.rulePaths.insensitive .insensitive).lines := by
    simp [ruleFiles]
  simp only [runValidate, hlines]
  split
  · rfl
  · simp

theorem pathExists_of_validFile (h : ValidFile fs mode p) : fs.pathExists p = true := by
  obtain ⟨t, hread, -⟩ := h
  exact pathExists_of_readText? hread

theorem bootstrap_of_pathExists
    (h : ∀ mode, fs.pathExists (loaded.rulePaths.file mode) = true) :
    (bootstrap fs loaded).1 = fs := by
  unfold bootstrap
  split
  · simp only [RuleFile.ensureDefaults_of_pathExists (h .sensitive) (h .insensitive)]
  · rfl

theorem runList_of_validFile
    (h : ∀ mode, ValidFile fs mode (loaded.rulePaths.file mode)) :
    (runList fs loaded).code = 0 ∧ ∃ sensitive insensitive : RuleSet,
      OnEveryLine fs .sensitive loaded.rulePaths.sensitive sensitive ∧
      OnEveryLine fs .insensitive loaded.rulePaths.insensitive insensitive ∧
      (runList fs loaded).output
        = unlines (loaded.source.toList.map ("# Settings: ".toList ++ ·) ++
            fileLines loaded.rulePaths.sensitive .sensitive ⟨sensitive, []⟩ ++
            fileLines loaded.rulePaths.insensitive .insensitive ⟨insensitive, []⟩) := by
  obtain ⟨first, hfirst, hsensitive⟩ := onEveryLine_of_validFile (h .sensitive)
  obtain ⟨second, hsecond, hinsensitive⟩ := onEveryLine_of_validFile (h .insensitive)
  have hloaded : List.Forall₂ (fun f report => RuleFile.load fs f.2 f.1 = .ok report)
      (ruleFiles loaded) [first, second] := .cons hfirst (.cons hsecond .nil)
  obtain ⟨hlines, hcode⟩ := listFiles_of_loaded hloaded
  refine ⟨hcode, first.rules, second.rules, hsensitive, hinsensitive, ?_⟩
  have hfiles : (listFiles fs (ruleFiles loaded)).1
      = fileLines loaded.rulePaths.sensitive .sensitive ⟨first.rules, []⟩ ++
          fileLines loaded.rulePaths.insensitive .insensitive ⟨second.rules, []⟩ := by
    rw [hlines]
    simp [ruleFiles, fileLines]
  simp only [runList]
  rw [hfiles]
  cases loaded.source with
  | none => rfl
  | some p => rfl

/-- Two rule files, with a blank line and a last line that no line feed ends. -/
def cleanFiles : FileSystem :=
  ⟨[(["a".toList], .file (Text.encode "\"h*\"===\"<$0>\"\n \n".toList)),
    (["b".toList], .file (Text.encode "\"you\"===\"they\"".toList))], []⟩

/-- The settings that name them. -/
def cleanSettings : LoadedSettings := ⟨⟨"a".toList, "b".toList, true⟩, "/".toList, none⟩

end Phrasebook.CommandLine
