import Phrasebook.CommandLine.Help
import Phrasebook.Log.Filter
import Phrasebook.Log.Palette
import Phrasebook.RuleFile.Defaults
import Phrasebook.Rulebook.Reload
import Phrasebook.Settings.Discovery

/-!
# Carrying out commands

A command is a function of the file system, the environment and standard input. Its `Outcome`
holds the exit code, what stands on standard output, the notices for standard error, and the file
system afterwards. `respond` goes from a command line to an outcome.

Every command first finds the settings, and stops if they cannot be loaded. All commands but
`init` then make missing rule files if the settings say so, and go on if that fails.
-/

set_option autoImplicit false

namespace Phrasebook.CommandLine

open Wildcard

/-! ## Outcomes -/

/-- Something for standard error. -/
inductive Notice where
  /-- An entry of the log, which is shown if the filter lets it through. -/
  | record (r : Log.Record)
  /-- A line that is always shown. -/
  | line (t : Text)
  deriving DecidableEq, Repr

/-- What came of a command. -/
structure Outcome where
  /-- The exit code. -/
  code : Nat
  /-- What stands on standard output. -/
  output : Text
  /-- The notices for standard error, in order. -/
  notices : List Notice
  /-- The file system afterwards. -/
  files : FileSystem

/-- The lines one under the other, each ended by a line feed. -/
def unlines (ls : List Text) : Text := ls.flatMap fun l => l ++ [Text.lineFeed]

/-- How the log is shown. -/
structure LogView where
  /-- Which records are shown. -/
  filter : Log.Filter
  /-- Whether they are coloured. -/
  palette : Log.Palette

/-- What a notice puts on standard error. -/
def Notice.render (view : LogView) : Notice → Text
  | .record r => if view.filter.shows r then r.render view.palette else []
  | .line t => unlines [t]

/-- What a list of notices puts on standard error. -/
def renderNotices (view : LogView) (ns : List Notice) : Text := ns.flatMap (Notice.render view)

/-- The notices of log records. -/
def recorded (rs : List Log.Record) : List Notice := rs.map Notice.record

/-- The notice of a failure: what was attempted, and the cause. A cause that has a cause of its own
is numbered. The causes after the first come from the system or from the reader of TOML, in their
own words, and are left out. -/
def failureNotice (attempt : Text) (e : ConfigError) : Notice :=
  let (mark, margin) : Text × Text :=
    if e.hasSource then ("    0: ".toList, "       ".toList) else ("    ".toList, "    ".toList)
  let cause := Text.joinWith (Text.lineFeed :: margin) (Text.pieces Text.lineFeed e.message)
  .line ("error: ".toList ++ attempt ++ "\n\nCaused by:\n".toList ++ mark ++ cause)

/-! ## Making missing rule files -/

/-- The file system after missing rule files were made, and the notices about it. -/
def bootstrap (fs : FileSystem) (loaded : LoadedSettings) : FileSystem × List Notice :=
  if loaded.settings.createDefaults then
    let ensured := RuleFile.ensureDefaults fs loaded.rulePaths false
    let warning : List Notice := match ensured.failure with
      | none => []
      | some e =>
          [.record ⟨.warn, .commandLine,
            "Could not create default rule files: ".toList ++ e.message⟩]
    (ensured.files, recorded ensured.records ++ warning)
  else (fs, [])

/-- The first load of the rule files: a file that cannot be read gives no rules. -/
def firstLoad (fs : FileSystem) (loaded : LoadedSettings) : Reload :=
  Rulebook.reload {} fs loaded.rulePaths

/-! ## The commands -/

/-- Writes the demonstration rules. -/
def runInit (fs : FileSystem) (loaded : LoadedSettings) (force : Bool) : Outcome :=
  let ensured := RuleFile.ensureDefaults fs loaded.rulePaths force
  let notices := recorded ensured.records
  match ensured.failure with
  | some e =>
      ⟨1, [], notices ++ [failureNotice "Failed to write rule files".toList e], ensured.files⟩
  | none =>
      let lines :=
        if ensured.written.isEmpty then
          ["Rule files already exist. Use --force to overwrite.".toList]
        else ensured.written.map fun p => "Created ".toList ++ p
      ⟨0, unlines lines, notices, ensured.files⟩

/-- Puts a message through the rules. -/
def runApply (fs : FileSystem) (loaded : LoadedSettings) (words : List Text) : Outcome :=
  let first := firstLoad fs loaded
  ⟨0, unlines [first.book.apply (Text.joinWith [' '] words)], recorded first.records, fs⟩

/-- The lines of standard input, each as far as the line feed that ends it, or to the end. -/
def inputLines (input : Bytes) : List Bytes := Text.endedPieces Text.lineFeedByte input

/-- The message on a line of standard input: malformed bytes are replaced, and line feeds at the end
are dropped, and then carriage returns. -/
def messageOf (line : Bytes) : Text :=
  Text.dropTrailing Text.carriageReturn
    (Text.dropTrailing Text.lineFeed (Text.decodeLossy line))

/-- What one message of a stream does: the rulebook in force afterwards, what it puts on standard
output, and the notices. -/
def streamStep (fs : FileSystem) (paths : RulePaths) (token : Text) (b : Rulebook)
    (message : Text) : Rulebook × Text × List Notice :=
  if message = token then
    let again := b.reload fs paths
    (again.book, [], recorded again.records ++ [.line again.announcement])
  else (b, unlines [b.apply message], [])

/-- What the messages of a stream put on standard output, and the notices. -/
def streamAll (fs : FileSystem) (paths : RulePaths) (token : Text) :
    Rulebook → List Text → Text × List Notice
  | _, [] => ([], [])
  | b, message :: later =>
      let (next, output, notices) := streamStep fs paths token b message
      let rest := streamAll fs paths token next later
      (output ++ rest.1, notices ++ rest.2)

/-- Puts every line of standard input through the rules. -/
def runStream (fs : FileSystem) (loaded : LoadedSettings) (token : Text) (input : Bytes) :
    Outcome :=
  let first := firstLoad fs loaded
  let streamed :=
    streamAll fs loaded.rulePaths token first.book ((inputLines input).map messageOf)
  ⟨0, streamed.1, recorded first.records ++ streamed.2, fs⟩

/-- The two rule files, each with its case mode. -/
def ruleFiles (loaded : LoadedSettings) : List (Path × CaseMode) :=
  [(loaded.rulePaths.sensitive, .sensitive), (loaded.rulePaths.insensitive, .insensitive)]

/-- The lines that show a rule. -/
def ruleLines (r : Rule) : List Text :=
  ["  Rule (line ".toList ++ Text.ofNat r.line ++ "):".toList,
   "    wildcard: ".toList ++ r.wildcard,
   "    regex: ".toList ++ r.pattern.regex,
   "    replacement: ".toList ++ r.replacement,
   []]

/-- The lines that show the rules of a file. -/
def fileLines (p : Path) (mode : CaseMode) (r : Report) : List Text :=
  ["# Source: ".toList ++ p,
   "# case-sensitive: ".toList ++ (if mode = .sensitive then "true" else "false").toList,
   "# rules: ".toList ++ Text.ofNat r.rules.length,
   []] ++ r.rules.flatMap ruleLines

/-- Lists the rules of files in order, as far as the first file that cannot be read. -/
def listFiles (fs : FileSystem) : List (Path × CaseMode) → List Text × List Notice × Nat
  | [] => ([], [], 0)
  | (p, mode) :: later =>
      match RuleFile.load fs mode p with
      | .error e => ([], [failureNotice ("Failed to load ".toList ++ p) e], 1)
      | .ok report =>
          let (lines, notices, code) := listFiles fs later
          (fileLines p mode report ++ lines,
            recorded (RuleFile.loadRecords p report) ++ notices, code)

/-- Prints every rule. -/
def runList (fs : FileSystem) (loaded : LoadedSettings) : Outcome :=
  let heading := match loaded.source with
    | some p => ["# Settings: ".toList ++ p]
    | none => []
  let (lines, notices, code) := listFiles fs (ruleFiles loaded)
  ⟨code, unlines (heading ++ lines), notices, fs⟩

/-- The line that reports a skipped line. -/
def problemLine (s : SkippedLine) : Text :=
  "  line ".toList ++ Text.ofNat s.line ++ ": ".toList ++ s.reason.message ++ ": ".toList ++
    s.content

/-- What the check of a file came to. -/
structure FileCheck where
  /-- The lines to print. -/
  lines : List Text
  /-- The notices. -/
  notices : List Notice
  /-- The number of problems. -/
  problems : Nat

/-- Checks one file. Every skipped line is a problem, and so is a file that cannot be read. -/
def checkFile (fs : FileSystem) (p : Path) (mode : CaseMode) : FileCheck :=
  match RuleFile.load fs mode p with
  | .error e => ⟨[], [.line ("Configuration error: ".toList ++ e.message)], 1⟩
  | .ok report =>
      ⟨(p ++ " (".toList ++ Text.ofNat report.rules.length ++ " rules)".toList) ::
          report.skipped.map problemLine,
        recorded (RuleFile.loadRecords p report), report.skipped.length⟩

/-- The number of problems in several files. -/
def problemCount (checks : List FileCheck) : Nat := checks.foldl (fun n c => n + c.problems) 0

/-- Reports every line of the rule files that is no rule. -/
def runValidate (fs : FileSystem) (loaded : LoadedSettings) : Outcome :=
  let checks := (ruleFiles loaded).map fun f => checkFile fs f.1 f.2
  let lines := checks.flatMap FileCheck.lines
  let notices := checks.flatMap FileCheck.notices
  if problemCount checks = 0 then
    ⟨0, unlines (lines ++ ["All rule files are valid.".toList]), notices, fs⟩
  else ⟨1, unlines lines, notices, fs⟩

/-- Carries out a command that does not write the demonstration rules by itself. -/
def runPlain (fs : FileSystem) (loaded : LoadedSettings) (input : Bytes) : Command → Outcome
  | .apply words => runApply fs loaded words
  | .stream token => runStream fs loaded token input
  | .list => runList fs loaded
  | .validate => runValidate fs loaded
  | .init force => runInit fs loaded force

/-- Carries out a command once the settings are loaded. -/
def runLoaded (fs : FileSystem) (loaded : LoadedSettings) (input : Bytes) (command : Command) :
    Outcome :=
  match command with
  | .init force => runInit fs loaded force
  | _ =>
      let (prepared, notices) := bootstrap fs loaded
      let outcome := runPlain prepared loaded input command
      { outcome with notices := notices ++ outcome.notices }

/-! ## From a command line to an outcome -/

/-- What a program finds when it starts. -/
structure Surroundings where
  /-- The file system. -/
  files : FileSystem
  /-- The variables of the environment. -/
  values : Variables
  /-- The home directory in the entry of the user's account, if there is such an entry. -/
  accountHome : Option Path
  /-- Whether standard error is a terminal. -/
  onTerminal : Bool
  /-- Standard input. -/
  input : Bytes

/-- The names of the variables that count. -/
def variableNames : List String :=
  ["XDG_CONFIG_HOME", "HOME", "CHATSWAP_CONFIG_DIR", "RUST_LOG", "RUST_LOG_STYLE", "NO_COLOR",
    "CLICOLOR_FORCE", "CLICOLOR", "TERM", "CI"]

/-- What says where a user's configuration is. -/
def Surroundings.environment (s : Surroundings) : Environment :=
  ⟨s.values.value? "XDG_CONFIG_HOME", s.values.value? "HOME", s.accountHome⟩

/-- The variable that gives a configuration directory, if it is set. -/
def Surroundings.configVariable (s : Surroundings) : Option Path :=
  s.values.value? "CHATSWAP_CONFIG_DIR"

/-- The variable that gives a log filter, if it is set. -/
def Surroundings.logVariable (s : Surroundings) : Option Text := s.values.value? "RUST_LOG"

/-- Carries out a command. -/
def run (s : Surroundings) (i : Invocation) : Outcome :=
  match Settings.discover s.files s.environment i.configDirectory s.files.workingPath with
  | .error e => ⟨1, [], [failureNotice "Failed to load settings".toList e], s.files⟩
  | .ok loaded =>
      let outcome := runLoaded s.files loaded s.input i.command
      let found : Log.Record :=
        ⟨.info, .commandLine, "Using config directory ".toList ++ loaded.directory⟩
      { outcome with notices := recorded (loaded.records ++ [found]) ++ outcome.notices }

/-- The log filter in force: the one that the variable gives, or else one by the verbosity. -/
def logFilter (logVariable : Option Text) (verbosity : Nat) : Log.Filter :=
  match logVariable with
  | some t => Log.Filter.parse t
  | none =>
      match verbosity with
      | 0 => .downTo .warn
      | 1 => .downTo .info
      | _ => .downTo .debug

/-- How the log is shown to the user who asked for so much of it. -/
def Surroundings.logView (s : Surroundings) (verbosity : Nat) : LogView :=
  ⟨logFilter s.logVariable verbosity, .choose s.values s.onTerminal⟩

/-- The warnings about the log filter that the variable gives. -/
def logWarnings (logVariable : Option Text) : List Text :=
  match logVariable with
  | some t => Log.Filter.warnings t
  | none => []

/-- The name and the version of the program. -/
def versionLine : Text := "chatswap 0.1.0".toList

/-- What a program writes and leaves. -/
structure Response where
  /-- The exit code. -/
  code : Nat
  /-- What stands on standard output. -/
  output : Text
  /-- What stands on standard error. -/
  errors : Text
  /-- The file system afterwards. -/
  files : FileSystem

/-- The response to a command line. -/
def respond (s : Surroundings) (arguments : List Text) : Response :=
  match readArguments s.configVariable arguments with
  | .error e => ⟨2, [], unlines ["error: ".toList ++ e.message], s.files⟩
  | .ok .version => ⟨0, unlines [versionLine], [], s.files⟩
  | .ok (.help topic) => ⟨0, unlines (topic.page s.configVariable).lines, [], s.files⟩
  | .ok (.nothing topic) => ⟨2, [], unlines (topic.page s.configVariable).lines, s.files⟩
  | .ok (.run i) =>
      let outcome := run s i
      ⟨outcome.code, outcome.output,
        unlines (logWarnings s.logVariable) ++
          renderNotices (s.logView i.verbosity) outcome.notices,
        outcome.files⟩

end Phrasebook.CommandLine
