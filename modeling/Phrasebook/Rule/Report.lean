import Phrasebook.Rule.Basic
import Phrasebook.Rule.Line

/-!
# Reading rule lines

Every line has a verdict: it is blank, it is a rule, or it is skipped for a reason. A `Report`
holds the rules and the skipped lines of a list of lines, both with line numbers from one.
-/

set_option autoImplicit false

namespace Phrasebook

open Wildcard

/-- A line that is neither blank nor a rule. -/
structure SkippedLine where
  /-- The number of the line, counted from one. -/
  line : Nat
  /-- The line as it stands. -/
  content : Text
  /-- Why it is no rule. -/
  reason : LineError
  deriving DecidableEq, Repr

/-- What became of a line. -/
inductive Verdict where
  /-- The line holds blank characters only. -/
  | blank
  /-- The line is a rule. -/
  | rule (r : Rule)
  /-- The line is skipped. -/
  | skipped (s : SkippedLine)
  deriving DecidableEq, Repr

/-- The rule, if the verdict is one. -/
def Verdict.rule? : Verdict → Option Rule
  | .rule r => some r
  | _ => none

/-- The skipped line, if the verdict is one. -/
def Verdict.skipped? : Verdict → Option SkippedLine
  | .skipped s => some s
  | _ => none

/-- The rule on a line that is not blank. -/
def readRule (mode : CaseMode) (number : Nat) (line : Text) : Except LineError Rule :=
  match RuleLine.parse line with
  | .error reason => .error reason
  | .ok (wildcard, replacement) =>
      match compile wildcard mode with
      | .error e => .error (.invalidPattern e.message)
      | .ok pattern => .ok ⟨wildcard, pattern, replacement, mode, number⟩

/-- The verdict on a line. -/
def judge (mode : CaseMode) (number : Nat) (line : Text) : Verdict :=
  if Text.allBlank line then .blank
  else match readRule mode number line with
    | .ok r => .rule r
    | .error reason => .skipped ⟨number, line, reason⟩

/-- The rules and the skipped lines of a list of lines. -/
structure Report where
  /-- The rules, in the order of their lines. -/
  rules : RuleSet
  /-- The skipped lines, in order. -/
  skipped : List SkippedLine
  deriving DecidableEq, Repr

/-- The verdicts on a list of lines, the first of which has the number `first`. -/
def verdicts (mode : CaseMode) (first : Nat) (lines : List Text) : List Verdict :=
  (lines.zipIdx first).map fun numbered => judge mode numbered.2 numbered.1

/-- The report on a list of lines. -/
def Report.ofLines (mode : CaseMode) (lines : List Text) : Report :=
  let vs := verdicts mode 1 lines
  ⟨vs.filterMap Verdict.rule?, vs.filterMap Verdict.skipped?⟩

namespace RuleSet

/-- The case-sensitive rules of a list of lines. -/
def ofLines (lines : List Text) : RuleSet := (Report.ofLines .sensitive lines).rules

/-- The rules of a list of lines, first compiled with case respected and then made to fold it. -/
def ofLinesCaseInsensitive (lines : List Text) : RuleSet := (ofLines lines).toCaseInsensitive

end RuleSet

end Phrasebook
