import Phrasebook.Proofs.Rulebook.History

/-!
# Reading the same files again

A reload finds in the files what an earlier reload has found in them, and a file that cannot be read
stays one: so a reload of the same files once more leaves the rulebook as it is (`reload_reload`).
With no rules in force a reload gives the rulebook of the files, in which a file that cannot be read
has no rules (`reload_nothing`).
-/

set_option autoImplicit false

namespace Phrasebook.Rulebook

open Wildcard

/-- The rules of the file under a path, or none if it cannot be read as UTF-8. -/
def rulesIn (fs : FileSystem) (mode : CaseMode) (p : Path) : RuleSet :=
  ((fs.readText? p).map (rulesOfText mode)).getD []

/-- The rulebook of two rule files, each of which counts as empty if it cannot be read. -/
def ofFiles (fs : FileSystem) (paths : RulePaths) : Rulebook :=
  ⟨rulesIn fs .sensitive paths.sensitive, rulesIn fs .insensitive paths.insensitive⟩

/-- Files that cannot be read give no rules. -/
theorem ofFiles_of_unreadable {fs : FileSystem} {paths : RulePaths}
    (hsensitive : fs.readText? paths.sensitive = none)
    (hinsensitive : fs.readText? paths.insensitive = none) : ofFiles fs paths = {} := by
  rw [ofFiles, rulesIn, rulesIn, hsensitive, hinsensitive]
  rfl

theorem reload_nothing (fs : FileSystem) (paths : RulePaths) :
    (reload {} fs paths).book = ofFiles fs paths := by
  show Rulebook.mk (rulesOr [] (RuleFile.load fs .sensitive paths.sensitive))
    (rulesOr [] (RuleFile.load fs .insensitive paths.insensitive)) = _
  rw [rulesOr_load, rulesOr_load]
  rfl

theorem rulesOr_rulesOr (previous : RuleSet) (found : Except ConfigError Report) :
    rulesOr (rulesOr previous found) found = rulesOr previous found := by
  cases found with
  | error e => rfl
  | ok report => rfl

/-- **To reload once more changes nothing**, and comes to the same. -/
theorem reload_reload (b : Rulebook) (fs : FileSystem) (paths : RulePaths) :
    (b.reload fs paths).book.reload fs paths = b.reload fs paths := by
  show Reload.mk paths _ _ ⟨rulesOr (rulesOr b.sensitive _) _, rulesOr (rulesOr b.insensitive _) _⟩ = _
  rw [rulesOr_rulesOr, rulesOr_rulesOr]
  rfl

theorem reload_ofFiles (fs : FileSystem) (paths : RulePaths) :
    ((ofFiles fs paths).reload fs paths).book = ofFiles fs paths := by
  rw [← reload_nothing, reload_reload]

end Phrasebook.Rulebook
