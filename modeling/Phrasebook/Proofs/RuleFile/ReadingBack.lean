import Phrasebook.Proofs.Rule.Grammar
import Phrasebook.Proofs.RuleFile.Keeping
import Phrasebook.Proofs.Text.Lines
import Phrasebook.Proofs.Text.Utf8
import Phrasebook.RuleFile.Load

/-!
# Reading back the rule files that were made

What is written as lines is read as lines again, but for a carriage return at the end of each
(`Text.lines_joinWith`). A carriage return is blank, and blanks at the end of a line do not matter
(`RuleLine.parse_concat_blank`), so that every line gets the verdict that it would have got before it
was written (`Report.ofLines_map_dropReturn`).
-/

set_option autoImplicit false

namespace Phrasebook

open Text (lineFeed carriageReturn dropReturn isBlank)
open Wildcard

/-! ## Carriage returns -/

theorem Text.eq_dropReturn_or (t : Text) :
    t = dropReturn t ∨ t = dropReturn t ++ [carriageReturn] := by
  by_cases h : t.getLast? = some carriageReturn
  · obtain ⟨front, rfl⟩ := List.getLast?_eq_some_iff.1 h
    exact Or.inr (by rw [dropReturn, if_pos h, List.dropLast_concat])
  · exact Or.inl (by rw [dropReturn, if_neg h])

/-- What makes no difference between a text with a carriage return at its end and without makes none
when one is dropped. -/
theorem Text.apply_dropReturn {β : Type} {f : Text → β} (hf : ∀ t, f (t ++ [carriageReturn]) = f t)
    (t : Text) : f (dropReturn t) = f t := by
  rcases t.eq_dropReturn_or with h | h
  · exact congrArg f h.symm
  · calc f (dropReturn t) = f (dropReturn t ++ [carriageReturn]) := (hf _).symm
      _ = f t := congrArg f h.symm

/-! ## Blanks at the end of a line -/

namespace RuleLine

section

variable {c : Char} (hc : isBlank c = true)

include hc

theorem unquote?_trim_concat (half : Text) :
    unquote? (Text.trim (half ++ [c])) = unquote? (Text.trim half) := by
  have htrail : Text.allBlank [c] = true := by simpa [Text.allBlank] using hc
  rw [← List.nil_append half, Text.trim_append rfl htrail, List.nil_append]

theorem encloses_concat {half body : Text} : Encloses (half ++ [c]) body ↔ Encloses half body := by
  rw [← unquote?_trim_eq_some_iff, unquote?_trim_concat hc, unquote?_trim_eq_some_iff]

theorem isQuoted_concat {half : Text} : IsQuoted (half ++ [c]) ↔ IsQuoted half := by
  simp only [isQuoted_iff, encloses_concat hc]

theorem blank_not_mem_separator : c ∉ separator := by
  intro h
  rw [show c = '=' by simpa [separator] using h] at hc
  exact absurd hc (by decide)

/-- **A blank at the end of a line does not matter.** -/
theorem parse_concat_blank (line : Text) : parse (line ++ [c]) = parse line := by
  have hmem : c ∉ separator := blank_not_mem_separator hc
  have hcut : ∀ {left right}, Text.FirstCut separator line left right →
      Text.FirstCut separator (line ++ [c]) left (right ++ [c]) :=
    fun h => h.concat (by decide) hmem
  have hread := readsAs_parse line
  rw [parse_eq_iff]
  generalize parse line = verdict at hread ⊢
  cases hread with
  | missingSeparator h =>
      -- No separator ends in a blank.
      refine .missingSeparator fun hocc => ?_
      rcases Text.infix_append_cons hmem hocc with hocc | hocc
      · exact h hocc
      · exact absurd (List.infix_nil.1 hocc) (by decide)
  | unquotedPattern h hleft => exact .unquotedPattern (hcut h) hleft
  | unquotedReplacement h hleft hright =>
      exact .unquotedReplacement (hcut h) hleft ((isQuoted_concat hc).not.2 hright)
  | ok h hleft hright => exact .ok (hcut h) hleft ((encloses_concat hc).2 hright)

end

end RuleLine

/-! ## Verdicts -/

/-- The skipped line with one carriage return at its end dropped. -/
def SkippedLine.dropReturn (s : SkippedLine) : SkippedLine :=
  { s with content := Text.dropReturn s.content }

/-- A verdict on a line, as it is on the line with one carriage return at its end dropped. -/
def Verdict.dropReturn : Verdict → Verdict
  | .blank => .blank
  | .rule r => .rule r
  | .skipped s => .skipped s.dropReturn

theorem readRule_dropReturn (mode : CaseMode) (number : Nat) (line : Text) :
    readRule mode number (dropReturn line) = readRule mode number line := by
  have hparse : RuleLine.parse (dropReturn line) = RuleLine.parse line :=
    Text.apply_dropReturn (RuleLine.parse_concat_blank (by decide)) line
  rw [readRule, hparse, readRule]

theorem judge_dropReturn (mode : CaseMode) (number : Nat) (line : Text) :
    judge mode number (dropReturn line) = (judge mode number line).dropReturn := by
  have hblank : Text.allBlank (dropReturn line) = Text.allBlank line := by
    refine Text.apply_dropReturn (fun t => ?_) line
    have hreturn : [carriageReturn].all isBlank = true := by decide
    rw [Text.allBlank, List.all_append, hreturn, Bool.and_true, Text.allBlank]
  rw [judge, judge, hblank, readRule_dropReturn]
  split
  · rfl
  · split
    · rfl
    · rfl

/-- **Carriage returns change no verdict.** -/
theorem Report.ofLines_map_dropReturn (mode : CaseMode) (lines : List Text) :
    ofLines mode (lines.map dropReturn) = ⟨(ofLines mode lines).rules,
      (ofLines mode lines).skipped.map SkippedLine.dropReturn⟩ := by
  have hverdicts : verdicts mode 1 (lines.map dropReturn)
      = (verdicts mode 1 lines).map Verdict.dropReturn := by
    rw [verdicts, verdicts, List.zipIdx_map, List.map_map, List.map_map]
    exact List.map_congr_left fun numbered _ => judge_dropReturn mode numbered.2 numbered.1
  have hrule : Verdict.rule? ∘ Verdict.dropReturn = Verdict.rule? := by
    funext v
    cases v <;> rfl
  have hskipped : Verdict.skipped? ∘ Verdict.dropReturn
      = fun v => v.skipped?.map SkippedLine.dropReturn := by
    funext v
    cases v <;> rfl
  simp only [ofLines, hverdicts, List.filterMap_map, hrule, hskipped, List.map_filterMap]

namespace RuleFile

open FileSystem

/-! ## Files -/

theorem lines_contentOf {lines : List Text} (h : ∀ line ∈ lines, lineFeed ∉ line) :
    Text.lines (contentOf lines) = if lines.isEmpty then [[]] else lines.map dropReturn :=
  Text.lines_joinWith h

/-- The report on the lines of a file is the one on the lines that were written. That a file without
lines has an empty one does not show. -/
theorem ofLines_contentOf (mode : CaseMode) {lines : List Text}
    (h : ∀ line ∈ lines, lineFeed ∉ line) :
    Report.ofLines mode (Text.lines (contentOf lines)) = ⟨(Report.ofLines mode lines).rules,
      (Report.ofLines mode lines).skipped.map SkippedLine.dropReturn⟩ := by
  rw [lines_contentOf h]
  cases lines with
  | nil => rfl
  | cons first later => exact Report.ofLines_map_dropReturn mode (first :: later)

variable {fs : FileSystem} {p : Path} {lines : List Text} {force : Bool}

theorem readText?_writeDefault (h : (writeDefault fs p lines force).2 = .ok true) :
    (writeDefault fs p lines force).1.readText? p = some (contentOf lines) := by
  obtain ⟨-, -, hr⟩ | ⟨e, hr⟩ | ⟨-, fs', hwrite, hr⟩ := writeDefault_cases fs p lines force
  · rw [hr] at h
    cases h
  · rw [hr] at h
    cases h
  · rw [hr, readText?, readBytes?_of_writeBytes? hwrite]
    exact Text.decode?_encode _

/-- An attempt that has not written anything leaves all files as they were. -/
theorem node?_writeDefault_of_ne (h : (writeDefault fs p lines force).2 ≠ .ok true) (l : Location)
    (c : Bytes) : (writeDefault fs p lines force).1.node? l = some (.file c) ↔
      fs.node? l = some (.file c) := by
  have hwrites := writes_writeDefault fs p lines force
  have hnothing : writtenUnder p (writeDefault fs p lines force).2 = [] := by
    generalize (writeDefault fs p lines force).2 = result at h
    match result with
    | .error e => rfl
    | .ok false => rfl
    | .ok true => exact absurd rfl h
  rw [hnothing] at hwrites
  exact hwrites.apart (by simp)

/-- **A rule file that was written is read back.** If the lines, none of which holds a line feed,
were written, then the file that the path names is read without an error: it has the rules of the
lines, with their numbers, and skips the lines that they have skipped, with the same numbers and for
the same reasons, but for one carriage return at the end of each. If they were not written, whether
because something is there or because of an error, then all files are as they were. -/
theorem written_lines_read_back (fs : FileSystem) (p : Path) (mode : CaseMode) (lines : List Text)
    (force : Bool) (hlines : ∀ line ∈ lines, lineFeed ∉ line) :
    ((writeDefault fs p lines force).2 = .ok true →
      load (writeDefault fs p lines force).1 mode p = .ok
        ⟨(Report.ofLines mode lines).rules,
          (Report.ofLines mode lines).skipped.map fun s =>
            { s with content := dropReturn s.content }⟩) ∧
      ((writeDefault fs p lines force).2 ≠ .ok true → ∀ l c,
        (writeDefault fs p lines force).1.node? l = some (.file c) ↔
          fs.node? l = some (.file c)) := by
  constructor
  · intro h
    rw [load, readText?_writeDefault h]
    exact congrArg Except.ok (ofLines_contentOf mode hlines)
  · exact node?_writeDefault_of_ne

/-- A rule, an empty line, a line that is no rule and a rule again, in part with carriage returns and
other blanks at the end, written under a path on which a directory is missing. -/
def oddLines : List Text :=
  ["\"a\"===\"b\"\r\r".toList, [], "no rule\r".toList, "\"*\"===\"\" \u3000\r".toList]

/-- The carriage return of the line that is skipped is lost, and a file that is there stays. -/
theorem written_lines_read_back_without_returns :
    (∀ line ∈ oddLines, lineFeed ∉ line) ∧
      (writeDefault withRules "new/../x.txt".toList oddLines false).2 = .ok true ∧
      load (writeDefault withRules "new/../x.txt".toList oddLines false).1 .insensitive
          "new/../x.txt".toList = .ok
        ⟨(Report.ofLines .insensitive oddLines).rules,
          [⟨3, "no rule".toList, .missingSeparator⟩]⟩ ∧
      (writeDefault withRules "config/rules.txt".toList oddLines false).2 ≠ .ok true ∧
      ((writeDefault withRules "config/rules.txt".toList oddLines false).1.node?
          ["config".toList, "rules.txt".toList] =
            some (.file (Text.encode "\"mine\"===\"ours\"\n".toList)) ↔
        withRules.node? ["config".toList, "rules.txt".toList] =
          some (.file (Text.encode "\"mine\"===\"ours\"\n".toList))) := by
  have hlines : ∀ line ∈ oddLines, lineFeed ∉ line := by decide
  have hwritten : (writeDefault withRules "new/../x.txt".toList oddLines false).2 = .ok true := by
    decide +kernel
  have hthere : (writeDefault withRules "config/rules.txt".toList oddLines false).2 ≠ .ok true := by
    decide +kernel
  have hskipped : (Report.ofLines .insensitive oddLines).skipped
      = [⟨3, "no rule\r".toList, .missingSeparator⟩] := by decide +kernel
  have hreport :=
    (written_lines_read_back withRules _ .insensitive oddLines false hlines).1 hwritten
  rw [hskipped] at hreport
  exact ⟨hlines, hwritten, hreport, hthere,
    (written_lines_read_back withRules _ .insensitive oddLines false hlines).2 hthere _ _⟩

end RuleFile

end Phrasebook
