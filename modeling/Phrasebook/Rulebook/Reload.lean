import Phrasebook.RuleFile.Load
import Phrasebook.Rulebook.Basic
import Phrasebook.Settings.Basic

/-!
# Loading and reloading rulebooks

`Rulebook.load` reads both rule files and fails if one of them cannot be read. `Rulebook.reload`
reads them anew for a rulebook that is in force: a file that cannot be read leaves its rule set as
it was.
-/

set_option autoImplicit false

namespace Phrasebook

/-- What came of reading both rule files anew. -/
structure Reload where
  /-- The paths of the rule files. -/
  paths : RulePaths
  /-- The report on the file whose rules respect case. -/
  sensitive : Except ConfigError Report
  /-- The report on the file whose rules fold case. -/
  insensitive : Except ConfigError Report
  /-- The rulebook that is in force now. -/
  book : Rulebook

/-- A short account of a reload. -/
structure ReloadSummary where
  /-- The number of rules that respect case. -/
  sensitiveRules : Nat
  /-- The number of rules that fold case. -/
  insensitiveRules : Nat
  /-- Whether the file whose rules respect case was read. -/
  sensitiveLoaded : Bool
  /-- Whether the file whose rules fold case was read. -/
  insensitiveLoaded : Bool
  deriving DecidableEq, Repr

namespace Rulebook

/-- The rulebook in the two rule files. -/
def load (fs : FileSystem) (paths : RulePaths) : Except ConfigError Rulebook :=
  match RuleFile.load fs .sensitive paths.sensitive with
  | .error e => .error e
  | .ok sensitive =>
      match RuleFile.load fs .insensitive paths.insensitive with
      | .error e => .error e
      | .ok insensitive => .ok ⟨sensitive.rules, insensitive.rules⟩

/-- The rules of a report, or the rules that were in force if there is no report. -/
def rulesOr (previous : RuleSet) : Except ConfigError Report → RuleSet
  | .ok report => report.rules
  | .error _ => previous

/-- Both rule files read anew while a rulebook is in force. -/
def reload (b : Rulebook) (fs : FileSystem) (paths : RulePaths) : Reload :=
  let sensitive := RuleFile.load fs .sensitive paths.sensitive
  let insensitive := RuleFile.load fs .insensitive paths.insensitive
  ⟨paths, sensitive, insensitive,
    ⟨rulesOr b.sensitive sensitive, rulesOr b.insensitive insensitive⟩⟩

end Rulebook

namespace Reload

/-- The account of a reload. -/
def summary (r : Reload) : ReloadSummary :=
  ⟨r.book.sensitive.length, r.book.insensitive.length, r.sensitive.isOk, r.insensitive.isOk⟩

/-- The numbers of rules in force after a reload, in words. -/
def announcement (r : Reload) : Text :=
  "Reloaded ".toList ++ Text.ofNat r.book.sensitive.length ++ " case-sensitive and ".toList ++
    Text.ofNat r.book.insensitive.length ++ " case-insensitive rules".toList

/-- The records about one rule file of a reload. -/
def fileRecords (kind : Text) (p : Path) : Except ConfigError Report → List Log.Record
  | .ok report => RuleFile.loadRecords p report
  | .error e =>
      [⟨.error, .rulebook,
        "Keeping previous ".toList ++ kind ++ " rules: ".toList ++ e.message⟩]

/-- The records about a reload. -/
def records (r : Reload) : List Log.Record :=
  fileRecords "case-sensitive".toList r.paths.sensitive r.sensitive ++
    fileRecords "case-insensitive".toList r.paths.insensitive r.insensitive ++
    [⟨.info, .rulebook, r.announcement⟩]

end Reload

end Phrasebook
