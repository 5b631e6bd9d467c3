import Phrasebook.Proofs.Rule.Verdicts
import Phrasebook.Proofs.RuleFile.Existing
import Phrasebook.Proofs.Text.Lines
import Phrasebook.Proofs.Text.Utf8

/-!
# Every line is accounted for

A report says of each line, by its number, what became of it: a blank line is in neither of the two
lists, and any other is in exactly one of them, exactly once (`Report.Accounts`). Both lists go up
with the lines, so that what they have about one line is at most one entry
(`filter_filterMap_verdicts`). And a verdict depends on the number of its line only in that it says
it, so that the report on two lists of lines one after the other is the one on the first and then
the one on the second, with its numbers moved on (`Report.ofLines_append`).
-/

set_option autoImplicit false

namespace Phrasebook

open Wildcard

variable {mode : CaseMode} {number : Nat} {line : Text} {lines : List Text}

/-! ## Numbered entries -/

/-- The entries of a list stand on different lines of the first so many, and in their order. -/
structure InLineOrder {α : Type} (place : α → Nat) (count : Nat) (entries : List α) : Prop where
  /-- Every entry is on a line further down than the ones before it. -/
  increasing : entries.Pairwise fun a b => place a < place b
  /-- The lines are counted from one. -/
  within : ∀ a ∈ entries, 1 ≤ place a ∧ place a ≤ count

/-- Where places go up, an entry is the only one at its place. -/
theorem filter_place_of_pairwise {α : Type} {place : α → Nat} {entries : List α} {a : α}
    (h : entries.Pairwise fun a b => place a < place b) (ha : a ∈ entries) :
    (entries.filter fun b => place b = place a) = [a] := by
  induction h with
  | nil => cases ha
  | @cons first later hfirst hlater ih =>
      rcases List.mem_cons.1 ha with rfl | ha
      · have hnone : (later.filter fun b => place b = place a) = [] := by
          refine List.filter_eq_nil_iff.2 fun b hb => ?_
          simpa using Nat.ne_of_gt (hfirst b hb)
        rw [List.filter_cons_of_pos (by simp), hnone]
      · rw [List.filter_cons_of_neg (by simpa using Nat.ne_of_lt (hfirst a ha)), ih ha]

section

variable {α : Type} {f : Verdict → Option α} {place : α → Nat}
  (hplace : ∀ {number line a}, f (judge mode number line) = some a → place a = number)

include hplace

theorem inLineOrder_filterMap_verdicts (lines : List Text) :
    InLineOrder place lines.length ((verdicts mode 1 lines).filterMap f) where
  increasing := pairwise_filterMap_verdicts hplace 1 lines
  within a ha := by
    obtain ⟨number, line, hfirst, hline, hverdict⟩ := mem_filterMap_verdicts_iff.1 ha
    have hlast : number - 1 < lines.length := (List.getElem?_eq_some_iff.1 hline).1
    rw [hplace hverdict]
    omega

/-- **What is taken from the verdicts at one place** is what is taken from the verdict on the line
there, and from that one alone. -/
theorem filter_filterMap_verdicts {first : Nat} (hfirst : first ≤ number)
    (hline : lines[number - first]? = some line) :
    (((verdicts mode first lines).filterMap f).filter fun a => place a = number)
      = (f (judge mode number line)).toList := by
  cases hverdict : f (judge mode number line) with
  | none =>
      -- An entry at this place could only come from this line.
      refine List.filter_eq_nil_iff.2 fun a ha hnumber => ?_
      obtain ⟨number', line', -, hline', hverdict'⟩ := mem_filterMap_verdicts_iff.1 ha
      obtain rfl : number' = number := by simpa [hplace hverdict'] using hnumber
      obtain rfl : line' = line := Option.some.inj (hline'.symm.trans hline)
      simp [hverdict] at hverdict'
  | some a =>
      have hmem : a ∈ (verdicts mode first lines).filterMap f :=
        mem_filterMap_verdicts_iff.2 ⟨number, line, hfirst, hline, hverdict⟩
      rw [← hplace hverdict]
      exact filter_place_of_pairwise (pairwise_filterMap_verdicts hplace first lines) hmem

end

/-! ## One line in a report -/

namespace Report

/-- The rules with the number of this line. -/
def rulesOn (report : Report) (number : Nat) : RuleSet :=
  report.rules.filter fun r => r.line = number

/-- The skipped lines with the number of this line. -/
def skippedOn (report : Report) (number : Nat) : List SkippedLine :=
  report.skipped.filter fun s => s.line = number

/-- What a report says of a line is what became of it. -/
inductive Accounts (mode : CaseMode) (number : Nat) (line : Text) (report : Report) : Prop where
  /-- The line is blank, and there is no word of it. -/
  | blank (h : Text.allBlank line = true) (hrules : report.rulesOn number = [])
      (hskipped : report.skippedOn number = [])
  /-- The line is read, its wildcard compiles, and it is a rule once. -/
  | rule {wildcard replacement : Text} {pattern : Pattern} (h : Text.allBlank line = false)
      (hparse : RuleLine.parse line = .ok (wildcard, replacement))
      (hcompile : compile wildcard mode = .ok pattern)
      (hrules : report.rulesOn number = [⟨wildcard, pattern, replacement, mode, number⟩])
      (hskipped : report.skippedOn number = [])
  /-- The line is no rule for a reason, and it is skipped once. -/
  | skipped {reason : LineError} (h : Text.allBlank line = false)
      (hreason : Rejects mode line reason) (hrules : report.rulesOn number = [])
      (hskipped : report.skippedOn number = [⟨number, line, reason⟩])

theorem rulesOn_ofLines (hfirst : 1 ≤ number) (hline : lines[number - 1]? = some line) :
    (ofLines mode lines).rulesOn number = (judge mode number line).rule?.toList :=
  filter_filterMap_verdicts line_of_rule? hfirst hline

theorem skippedOn_ofLines (hfirst : 1 ≤ number) (hline : lines[number - 1]? = some line) :
    (ofLines mode lines).skippedOn number = (judge mode number line).skipped?.toList :=
  filter_filterMap_verdicts line_of_skipped? hfirst hline

/-- A report accounts for a line if it has the verdict on the line and nothing else about it. -/
theorem accounts_of_judge {report : Report}
    (hrules : report.rulesOn number = (judge mode number line).rule?.toList)
    (hskipped : report.skippedOn number = (judge mode number line).skipped?.toList) :
    Accounts mode number line report := by
  cases hverdict : judge mode number line with
  | blank =>
      rw [hverdict] at hrules hskipped
      exact .blank (judge_eq_blank_iff.1 hverdict) hrules hskipped
  | rule r =>
      rw [hverdict] at hrules hskipped
      obtain ⟨hblank, hread⟩ := judge_eq_rule_iff.1 hverdict
      obtain ⟨hparse, rfl, rfl, hcompile⟩ := readRule_eq_ok_iff.1 hread
      exact .rule hblank hparse hcompile hrules hskipped
  | skipped s =>
      rw [hverdict] at hrules hskipped
      obtain ⟨hblank, rfl, rfl, hreason⟩ := judge_eq_skipped_iff.1 hverdict
      exact .skipped hblank hreason hrules hskipped

theorem accounts_ofLines (hfirst : 1 ≤ number) (hline : lines[number - 1]? = some line) :
    Accounts mode number line (ofLines mode lines) :=
  accounts_of_judge (rulesOn_ofLines hfirst hline) (skippedOn_ofLines hfirst hline)

end Report

/-! ## One list of lines after another -/

/-- The rule, as it is so many lines further down. -/
def Rule.shifted (count : Nat) (r : Rule) : Rule := { r with line := count + r.line }

/-- The skipped line, as it is so many lines further down. -/
def SkippedLine.shifted (count : Nat) (s : SkippedLine) : SkippedLine :=
  { s with line := count + s.line }

/-- The verdict, as it is on the same line so many lines further down. -/
def Verdict.shifted (count : Nat) : Verdict → Verdict
  | .blank => .blank
  | .rule r => .rule (r.shifted count)
  | .skipped s => .skipped (s.shifted count)

theorem Verdict.rule?_shifted (count : Nat) (v : Verdict) :
    (v.shifted count).rule? = v.rule?.map (Rule.shifted count) := by
  cases v <;> rfl

theorem Verdict.skipped?_shifted (count : Nat) (v : Verdict) :
    (v.shifted count).skipped? = v.skipped?.map (SkippedLine.shifted count) := by
  cases v <;> rfl

/-- **Only the number changes.** The same line further down has the same verdict there. -/
theorem judge_shifted (mode : CaseMode) (count number : Nat) (line : Text) :
    judge mode (count + number) line = (judge mode number line).shifted count := by
  cases hverdict : judge mode number line with
  | blank => exact judge_eq_blank_iff.2 (judge_eq_blank_iff.1 hverdict)
  | rule r =>
      obtain ⟨hblank, hread⟩ := judge_eq_rule_iff.1 hverdict
      obtain ⟨hparse, hmode, rfl, hcompile⟩ := readRule_eq_ok_iff.1 hread
      exact judge_eq_rule_iff.2 ⟨hblank, readRule_eq_ok_iff.2 ⟨hparse, hmode, rfl, hcompile⟩⟩
  | skipped s =>
      obtain ⟨hblank, rfl, hcontent, hreason⟩ := judge_eq_skipped_iff.1 hverdict
      exact judge_eq_skipped_iff.2 ⟨hblank, rfl, hcontent, hreason⟩

/-- What is taken from verdicts that were changed is what is taken from the verdicts, changed. -/
theorem filterMap_map_verdicts {α : Type} {f : Verdict → Option α} {change : Verdict → Verdict}
    {g : α → α} (h : ∀ v, f (change v) = (f v).map g) (vs : List Verdict) :
    (vs.map change).filterMap f = (vs.filterMap f).map g := by
  rw [List.filterMap_map, List.map_filterMap]
  exact List.filterMap_congr fun v _ => h v

theorem verdicts_append (mode : CaseMode) (first : Nat) (a b : List Text) :
    verdicts mode first (a ++ b) = verdicts mode first a ++ verdicts mode (first + a.length) b := by
  rw [verdicts, List.zipIdx_append, List.map_append, verdicts, verdicts]

theorem verdicts_shifted (mode : CaseMode) (count first : Nat) (lines : List Text) :
    verdicts mode (count + first) lines
      = (verdicts mode first lines).map (Verdict.shifted count) := by
  rw [verdicts, ← List.map_snd_add_zipIdx_eq_zipIdx, List.map_map, verdicts, List.map_map]
  refine List.map_congr_left fun numbered _ => ?_
  show judge mode (numbered.2 + count) numbered.1 = _
  rw [Nat.add_comm]
  exact judge_shifted mode count numbered.2 numbered.1

namespace Report

/-- One report and then another. -/
instance : Append Report where
  append report later := ⟨report.rules ++ later.rules, report.skipped ++ later.skipped⟩

/-- The report, as it is so many lines further down. -/
def shifted (count : Nat) (report : Report) : Report :=
  ⟨report.rules.map (Rule.shifted count), report.skipped.map (SkippedLine.shifted count)⟩

/-- **Reports are put together as the lines are.** -/
theorem ofLines_append (mode : CaseMode) (a b : List Text) :
    ofLines mode (a ++ b) = ofLines mode a ++ (ofLines mode b).shifted a.length := by
  have hverdicts : verdicts mode 1 (a ++ b)
      = verdicts mode 1 a ++ (verdicts mode 1 b).map (Verdict.shifted a.length) := by
    rw [verdicts_append, Nat.add_comm, verdicts_shifted]
  simp only [ofLines, hverdicts, List.filterMap_append,
    filterMap_map_verdicts (Verdict.rule?_shifted a.length),
    filterMap_map_verdicts (Verdict.skipped?_shifted a.length)]
  rfl

end Report

namespace RuleFile

open FileSystem

/-- **Every line is accounted for.** A rule file whose content is UTF-8 is read, in either mode. Its
lines are what the text splits into, with a line feed, or a carriage return and a line feed, at the
end of each but perhaps the last. For every line, counted from one, the report has what became of it:
nothing if it is blank; one rule, and no skipped line, if it is read as one and its wildcard
compiles; one skipped line with its content and the reason, and no rule, otherwise. There is nothing
else in the two lists, and the numbers in each go up. And lines that come after others are reported
as they would be alone, with the numbers moved on. -/
theorem load_accounts_for_every_line (fs : FileSystem) (mode : CaseMode) (p : Path) (content : Text)
    (h : fs.nodeAt? p = some (.file (Text.encode content))) :
    ∃ lines report, (∀ ls, Text.SplitsInto content ls ↔ ls = lines) ∧
      load fs mode p = .ok report ∧
      (∀ i line, lines[i]? = some line → report.Accounts mode (i + 1) line) ∧
      InLineOrder Rule.line lines.length report.rules ∧
      InLineOrder SkippedLine.line lines.length report.skipped ∧
      report = Report.ofLines mode lines ∧
      ∀ a b, Report.ofLines mode (a ++ b)
        = Report.ofLines mode a ++ (Report.ofLines mode b).shifted a.length := by
  have hread : fs.readText? p = some content :=
    readText?_eq_some_iff.2 ⟨_, h, Text.decode?_encode content⟩
  refine ⟨Text.lines content, _, fun ls => Text.splitsInto_iff, load_of_readText? hread, ?_,
    inLineOrder_filterMap_verdicts line_of_rule? _,
    inLineOrder_filterMap_verdicts line_of_skipped? _, rfl, Report.ofLines_append mode⟩
  intro i line hline
  exact Report.accounts_ofLines (Nat.le_add_left 1 i) hline

/-- A rule, an empty line, a line that is no rule and a rule again. The first two have a carriage
return before the line feed, and the last a carriage return that no line feed comes after. -/
def mixedContent : Text :=
  "\"a\"===\"b\"\r\n\r\n\"a\"==\"b\"\n\"*\"===\"$0\"\r".toList

/-- A rule file with this content. -/
def mixedFile : FileSystem := ⟨[(["r".toList], .file (Text.encode mixedContent))], []⟩

/-- The empty line is counted, and the lines after it keep their numbers. -/
theorem load_accounts_for_every_line_mixed :
    mixedFile.nodeAt? "r".toList = some (.file (Text.encode mixedContent)) ∧
      ∃ report, load mixedFile .insensitive "r".toList = .ok report ∧
        report.Accounts .insensitive 1 "\"a\"===\"b\"".toList ∧
        report.Accounts .insensitive 2 [] ∧
        report.Accounts .insensitive 3 "\"a\"==\"b\"".toList ∧
        report.Accounts .insensitive 4 "\"*\"===\"$0\"\r".toList ∧
        report.rules.map Rule.line = [1, 4] ∧
        report.skipped = [⟨3, "\"a\"==\"b\"".toList, .missingSeparator⟩] := by
  have hnode : mixedFile.nodeAt? "r".toList = some (.file (Text.encode mixedContent)) := by
    decide +kernel
  obtain ⟨lines, report, hsplits, hload, haccounts, -, -, hreport, -⟩ :=
    load_accounts_for_every_line mixedFile .insensitive "r".toList mixedContent hnode
  have hlines : ["\"a\"===\"b\"".toList, [], "\"a\"==\"b\"".toList,
      "\"*\"===\"$0\"\r".toList] = lines :=
    (hsplits _).1 (Text.splitsInto_iff.2 (by decide +kernel))
  subst hlines hreport
  exact ⟨hnode, _, hload, haccounts 0 _ rfl, haccounts 1 _ rfl, haccounts 2 _ rfl,
    haccounts 3 _ rfl, by decide +kernel, by decide +kernel⟩

end RuleFile

end Phrasebook
