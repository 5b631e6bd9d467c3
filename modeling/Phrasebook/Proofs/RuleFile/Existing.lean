import Phrasebook.Proofs.Files.Reading
import Phrasebook.Proofs.RuleFile.Keeping
import Phrasebook.Proofs.Rulebook.History

/-!
# Rule files that are there

A rule path that names something is passed over when the rule files are made, so that nothing at all
is done if both do (`ensureDefaults_of_pathExists`). If the attempt fails although one of them does,
then it has written nothing (`written_of_failure`), and each rule file that could be read before can
still be read (`readText?_of_failure`).
-/

set_option autoImplicit false

namespace Phrasebook.RuleFile

open FileSystem
open Wildcard

variable {fs : FileSystem} {paths : RulePaths}

theorem load_of_readText? {mode : CaseMode} {p : Path} {content : Text}
    (h : fs.readText? p = some content) :
    load fs mode p = .ok (Report.ofLines mode (Text.lines content)) := by
  rw [load_eq, h]

theorem exists_readText?_of_load {mode : CaseMode} {p : Path} {report : Report}
    (h : load fs mode p = .ok report) : ∃ content, fs.readText? p = some content := by
  cases hread : fs.readText? p with
  | none => simp [load_eq, hread] at h
  | some content => exact ⟨content, rfl⟩

theorem writeDefault_of_pathExists {p : Path} (h : fs.pathExists p = true) (lines : List Text) :
    writeDefault fs p lines false = (fs, .ok false) := by
  rw [writeDefault, h]
  rfl

theorem ensureDefaults_of_pathExists (hsensitive : fs.pathExists paths.sensitive = true)
    (hinsensitive : fs.pathExists paths.insensitive = true) :
    ensureDefaults fs paths false = ⟨fs, [], none⟩ := by
  simp only [ensureDefaults, writeDefault_of_pathExists hsensitive,
    writeDefault_of_pathExists hinsensitive]
  rfl

/-- **A failure beside a rule file that is there** comes before anything is written: a path that
names something is neither written nor a reason to fail. -/
theorem written_of_failure {e : ConfigError} (he : (ensureDefaults fs paths false).failure = some e)
    {mode : CaseMode} (h : fs.pathExists (paths.file mode) = true) :
    (ensureDefaults fs paths false).written = [] := by
  cases mode with
  | sensitive =>
      have hfirst : writeDefault fs paths.sensitive demoSensitive false = (fs, .ok false) :=
        writeDefault_of_pathExists h demoSensitive
      simp only [ensureDefaults, hfirst] at he ⊢
      split at he
      · rfl
      · cases he
  | insensitive =>
      have hgrows := (writes_writeDefault fs paths.sensitive demoSensitive false).grows
      simp only [ensureDefaults] at he ⊢
      generalize writeDefault fs paths.sensitive demoSensitive false = first at he hgrows ⊢
      obtain ⟨fs₁, result⟩ := first
      cases result with
      | error e₁ => rfl
      | ok wrote =>
          -- The second path still names something after the first was written.
          have hthere : fs₁.pathExists paths.insensitive = true := hgrows.pathExists h
          simp only [writeDefault_of_pathExists hthere] at he
          cases he

theorem readText?_of_failure {e : ConfigError} (he : (ensureDefaults fs paths false).failure = some e)
    {mode : CaseMode} {content : Text} (h : fs.readText? (paths.file mode) = some content) :
    (ensureDefaults fs paths false).files.readText? (paths.file mode) = some content := by
  have hwritten := written_of_failure he (pathExists_of_readText? h)
  have hwrites := writes_ensureDefaults fs paths false
  rw [hwritten] at hwrites
  exact hwrites.readText? h

end Phrasebook.RuleFile
