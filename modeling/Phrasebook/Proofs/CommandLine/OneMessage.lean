import Phrasebook.Proofs.CommandLine.Stream
import Phrasebook.Proofs.RuleFile.Existing

/-!
# One message

A message can be given on the command line, or on a line of standard input. Both ways make missing
rule files, load what rules there are, and put the message through them, so that they come to the
same (`one_message_either_way`). Encoding the message and reading it back leaves it as it is, and a
message of one line that ends in no carriage return is the only one in the input. What goes wrong
with one of the rule files takes away the rules of that file at most.
-/

set_option autoImplicit false

namespace Phrasebook.CommandLine

open FileSystem
open Text (lineFeed lineFeedByte carriageReturn decodeLossy encode)
open Wildcard

/-! ## A message on a line -/

theorem messagesIn_line {m : Text} (hline : lineFeed ∉ m) (hreturn : m.getLast? ≠ some carriageReturn) :
    messagesIn (m ++ [lineFeed]) = [m] := by
  rw [messagesIn_append_lineFeed hline, Text.dropTrailing_of_getLast?_ne hreturn]
  rfl

/-- A message that is encoded on a line of its own is put out as the rules leave it. -/
theorem streamOutput_message (fs : FileSystem) (loaded : LoadedSettings) {token m : Text}
    (hline : lineFeed ∉ m) (hreturn : m.getLast? ≠ some carriageReturn) (htoken : m ≠ token) :
    streamOutput fs loaded token (encode m ++ [lineFeedByte])
      = unlines [(Rulebook.ofFiles (bootstrap fs loaded).1 loaded.rulePaths).apply m] := by
  have hread : decodeLossy (encode m ++ [lineFeedByte]) = m ++ [lineFeed] := by
    rw [Text.decodeLossy_append_lineFeed, Text.decodeLossy_encode]
    rfl
  rw [streamOutput_eq, hread, messagesIn_line hline hreturn,
    List.filter_cons_of_pos (by simpa using htoken)]
  rfl

/-! ## Rule files that cannot be read or made -/

/-- These are the rules that a command has of a rule file. -/
inductive HasRules (fs : FileSystem) (mode : CaseMode) (p : Path) : RuleSet → Prop where
  /-- Loading the file gives its rules. -/
  | loaded {report : Report} (h : RuleFile.load fs mode p = .ok report) :
      HasRules fs mode p report.rules
  /-- The file is missing, a directory or not UTF-8, so that it cannot be loaded. -/
  | unreadable (hp : fs.Unreadable p) (h : RuleFile.load fs mode p = .error (.read p)) :
      HasRules fs mode p []

theorem hasRules_ofFiles (fs : FileSystem) (paths : RulePaths) (mode : CaseMode) :
    HasRules fs mode (paths.file mode) ((Rulebook.ofFiles fs paths).rules mode) := by
  have hrules : (Rulebook.ofFiles fs paths).rules mode
      = Rulebook.rulesIn fs mode (paths.file mode) := by
    cases mode <;> rfl
  rw [hrules, Rulebook.rulesIn]
  cases hread : fs.readText? (paths.file mode) with
  | none =>
      refine .unreadable (readText?_eq_none_iff.1 hread) ?_
      rw [RuleFile.load_eq, hread]
  | some content => exact .loaded (RuleFile.load_of_readText? hread)

/-- A rule file that can be read is loaded as it is, if the making of the rule files fails. -/
theorem load_bootstrap_of_failure {fs : FileSystem} {loaded : LoadedSettings} {e : ConfigError}
    (he : (RuleFile.ensureDefaults fs loaded.rulePaths false).failure = some e) {mode : CaseMode}
    {report : Report} (h : RuleFile.load fs mode (loaded.rulePaths.file mode) = .ok report) :
    RuleFile.load (bootstrap fs loaded).1 mode (loaded.rulePaths.file mode) = .ok report := by
  obtain ⟨content, hread⟩ := RuleFile.exists_readText?_of_load h
  have hagain : (bootstrap fs loaded).1.readText? (loaded.rulePaths.file mode)
      = some content := by
    unfold bootstrap
    split
    · exact RuleFile.readText?_of_failure he hread
    · exact hread
  rw [RuleFile.load_of_readText? hread] at h
  rw [RuleFile.load_of_readText? hagain]
  exact h

/-! ## Either way -/

/-- **One message, either way.** Whatever the rule files are, both ways end well. A message that is
one line, does not end in a carriage return and is not the token is put out in the same way whether
it is given as words or encoded on a line of its own: once, as the rules of the two files leave it,
and both ways leave the same files, those with the missing rule files made. Of each of the two files
a command has the rules that loading it gives, and none if it cannot be read, whatever the other
file is; and if the missing rule files cannot be made, then the rules of a file that could be loaded
before are loaded all the same. -/
theorem one_message_either_way (fs : FileSystem) (loaded : LoadedSettings) :
    (∀ words token input, (runLoaded fs loaded input (.apply words)).code = 0 ∧
      (runLoaded fs loaded input (.stream token)).code = 0) ∧
    (∀ words token input, lineFeed ∉ Text.joinWith [' '] words →
      (Text.joinWith [' '] words).getLast? ≠ some carriageReturn →
      Text.joinWith [' '] words ≠ token →
      let once := runLoaded fs loaded input (.apply words)
      let streamed :=
        runLoaded fs loaded (encode (Text.joinWith [' '] words) ++ [lineFeedByte]) (.stream token)
      let rules := Rulebook.ofFiles (bootstrap fs loaded).1 loaded.rulePaths
      once.output = unlines [rules.apply (Text.joinWith [' '] words)] ∧
        streamed.output = once.output ∧ streamed.files = once.files ∧
        once.files = (bootstrap fs loaded).1) ∧
    (∀ mode, HasRules (bootstrap fs loaded).1 mode (loaded.rulePaths.file mode)
      ((Rulebook.ofFiles (bootstrap fs loaded).1 loaded.rulePaths).rules mode)) ∧
    (∀ e, (RuleFile.ensureDefaults fs loaded.rulePaths false).failure = some e →
      ∀ mode report, RuleFile.load fs mode (loaded.rulePaths.file mode) = .ok report →
        RuleFile.load (bootstrap fs loaded).1 mode (loaded.rulePaths.file mode) = .ok report) := by
  refine ⟨fun words token input => ⟨rfl, rfl⟩, ?_, fun mode => hasRules_ofFiles _ _ mode,
    fun e he mode report => load_bootstrap_of_failure he⟩
  intro words token input hline hreturn htoken once streamed rules
  have honce : once.output = unlines [rules.apply (Text.joinWith [' '] words)] :=
    output_apply fs loaded words input
  have hstreamed : streamed.output = unlines [rules.apply (Text.joinWith [' '] words)] :=
    streamOutput_message fs loaded hline hreturn htoken
  exact ⟨honce, hstreamed.trans honce.symm, rfl, rfl⟩

/-- The second rule file would be below the first, which is a regular file. -/
def belowFile : LoadedSettings := ⟨⟨"a".toList, "a/b".toList, true⟩, "/".toList, none⟩

/-- A file of rules that respect case, one of them with a character beyond ASCII. -/
def oneFile : FileSystem := ⟨[(["a".toList], .file (Text.encode "\"é*\"===\"<$0>\"".toList))], []⟩

/-- The second rule file can neither be made nor read, and the rules of the first are there. -/
theorem one_message_either_way_beside_failure :
    lineFeed ∉ Text.joinWith [' '] ["né\r".toList, "t".toList] ∧
      (Text.joinWith [' '] ["né\r".toList, "t".toList]).getLast? ≠ some carriageReturn ∧
      Text.joinWith [' '] ["né\r".toList, "t".toList] ≠ "/reload".toList ∧
      (runLoaded oneFile belowFile [] (.apply ["né\r".toList, "t".toList])).output
        = "n<é\r t>\n".toList ∧
      (runLoaded oneFile belowFile
          (encode (Text.joinWith [' '] ["né\r".toList, "t".toList]) ++ [lineFeedByte])
          (.stream "/reload".toList)).output = "n<é\r t>\n".toList ∧
      (RuleFile.ensureDefaults oneFile belowFile.rulePaths false).failure
        = some (.write "/a".toList) ∧
      ∃ report, RuleFile.load oneFile .sensitive (belowFile.rulePaths.file .sensitive) = .ok report ∧
        RuleFile.load (bootstrap oneFile belowFile).1 .sensitive
          (belowFile.rulePaths.file .sensitive) = .ok report := by
  obtain ⟨-, hmessage, -, hfailure⟩ := one_message_either_way oneFile belowFile
  have hline : lineFeed ∉ Text.joinWith [' '] ["né\r".toList, "t".toList] := by decide
  have hreturn : (Text.joinWith [' '] ["né\r".toList, "t".toList]).getLast?
      ≠ some carriageReturn := by decide
  have htoken : Text.joinWith [' '] ["né\r".toList, "t".toList] ≠ "/reload".toList := by decide
  obtain ⟨honce, hstreamed, -, -⟩ := hmessage _ _ [] hline hreturn htoken
  have hrewritten : unlines [(Rulebook.ofFiles (bootstrap oneFile belowFile).1
      belowFile.rulePaths).apply (Text.joinWith [' '] ["né\r".toList, "t".toList])]
        = "n<é\r t>\n".toList := by decide +kernel
  have hfails : (RuleFile.ensureDefaults oneFile belowFile.rulePaths false).failure
      = some (.write "/a".toList) := by decide +kernel
  have hload : RuleFile.load oneFile .sensitive (belowFile.rulePaths.file .sensitive)
      = .ok (Report.ofLines .sensitive ["\"é*\"===\"<$0>\"".toList]) := by
    have hread : oneFile.readText? (belowFile.rulePaths.file .sensitive)
        = some "\"é*\"===\"<$0>\"".toList := by decide +kernel
    exact RuleFile.load_of_readText? hread
  rw [hrewritten] at honce
  exact ⟨hline, hreturn, htoken, honce, hstreamed.trans honce, hfails, _, hload,
    hfailure _ hfails _ _ hload⟩

end Phrasebook.CommandLine
