import Phrasebook.Files.Error
import Phrasebook.Files.Tree
import Phrasebook.Log.Record
import Phrasebook.Rule.Report

/-!
# Reading rule files

A rule file is a UTF-8 text of rule lines. `RuleFile.load` reads one; lines that are no rules are
listed in the report, and only a file that cannot be read is an error. `loadRecords` is what the
log says about it.
-/

set_option autoImplicit false

namespace Phrasebook

open Wildcard

namespace RuleFile

/-- The report on the rule file that a path names. -/
def load (fs : FileSystem) (mode : CaseMode) (p : Path) : Except ConfigError Report :=
  match fs.readText? p with
  | none => .error (.read p)
  | some content => .ok (Report.ofLines mode (Text.lines content))

/-! ## What the log says -/

/-- The records about a skipped line. A pattern that does not compile is reported on its own. -/
def skippedRecords (s : SkippedLine) : List Log.Record :=
  let number := Text.ofNat s.line
  let skipping : Log.Record :=
    ⟨.debug, .ruleLines,
      "Skipping line ".toList ++ number ++ " (".toList ++ s.reason.message ++ "): ".toList ++
        s.content⟩
  match s.reason with
  | .invalidPattern reason =>
      [⟨.warn, .ruleLines,
        "Rule on line ".toList ++ number ++ " has an uncompilable pattern: ".toList ++ reason⟩,
       skipping]
  | _ => [skipping]

/-- The records about a rule file that was read. -/
def loadRecords (p : Path) (r : Report) : List Log.Record :=
  r.skipped.flatMap skippedRecords ++
    [⟨.info, .ruleFiles,
      "Loaded ".toList ++ Text.ofNat r.rules.length ++ " rules from ".toList ++ p ++
        " (".toList ++ Text.ofNat r.skipped.length ++ " lines skipped)".toList⟩]

end RuleFile

end Phrasebook
