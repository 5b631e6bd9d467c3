import Phrasebook.CommandLine.Run

/-!
# The program

The layer that touches the machine. It copies the part of the disk that a command can look at into
a `FileSystem`, lets `respond` decide what comes of the command, and carries that out: it writes
the new files, and prints what stands on standard output and standard error.

A stream is answered line by line, so that a reload sees the rule files as they are at that
moment: `respond` with empty input gives the opening, and `streamStep` each further line.
-/

set_option autoImplicit false

namespace Phrasebook.Program

open CommandLine

/-! ## Reading the machine -/

/-- The path of a location, as the machine takes it. -/
def pathOf (l : Location) : String :=
  String.ofList (Path.separator :: Text.joinWith [Path.separator] l)

/-- The bytes of an array. -/
def ofByteArray (bytes : ByteArray) : Bytes := bytes.data.toList

/-- An array of bytes. -/
def toByteArray (bytes : Bytes) : ByteArray := ⟨bytes.toArray⟩

/-- What stands at a location of the disk. What is there and cannot be read counts as a
directory, which cannot be read either. -/
def nodeOnDisk? (l : Location) : IO (Option Node) := do
  let here ← IO.currentDir
  let p := here / pathOf l
  if !(← p.pathExists) then return none
  if ← p.isDir then return some .directory
  try
    return some (.file (ofByteArray (← IO.FS.readBinFile p)))
  catch _ => return some .directory

/-- The file system with the nodes of the disk on the way along steps from a location. -/
def surveySteps (fs : FileSystem) (l : Location) : List Path.Step → IO FileSystem
  | [] => return fs
  | .stay :: later => surveySteps fs l later
  | .up :: later => surveySteps fs l.dropLast later
  | .down name :: later => do
      match ← nodeOnDisk? (l ++ [name]) with
      | none => surveySteps fs (l ++ [name]) later
      | some n => surveySteps (fs.put (l ++ [name]) n) (l ++ [name]) later

/-- The file system with the nodes of the disk on the way along paths. -/
def survey (fs : FileSystem) (paths : List Path) : IO FileSystem :=
  (paths.filter Path.isUsable).foldlM
    (fun found p => surveySteps found (fs.origin p) (Path.steps p)) fs

/-- A variable of the environment with its value, if it is set. -/
def setVariable? (name : String) : IO (Option (Text × Text)) := do
  return (← IO.getEnv name).map fun value => (name.toList, value.toList)

/-- The text of a file that the system keeps, which is empty if it cannot be read. -/
def systemText (p : String) : IO Text := do
  try
    return (← IO.FS.readFile p).toList
  catch _ => return []

/-- The number of the user for whom a process runs, in the system's report on it. The line begins
with the real number, and the fields stand between tabs. -/
def userNumber? (report : Text) : Option Text :=
  (Text.lines report).findSome? fun line =>
    match Text.pieces '\t' line with
    | name :: number :: _ => if name = "Uid:".toList then some number else none
    | _ => none

/-- The home directory in the entry of the user with a number, in a table of accounts with an entry
on each line and its fields between colons. -/
def homeOfUser? (accounts number : Text) : Option Path :=
  (Text.lines accounts).findSome? fun line =>
    match Text.pieces ':' line with
    | [_, _, own, _, _, home, _] => if own = number then some home else none
    | _ => none

/-- The home directory in the entry of the user's account. -/
def accountHome? : IO (Option Path) := do
  match userNumber? (← systemText "/proc/self/status") with
  | some number => return homeOfUser? (← systemText "/etc/passwd") number
  | none => return none

/-- The two paths of the rule files. -/
def rulePathList (paths : RulePaths) : List Path := [paths.sensitive, paths.insensitive]

/-- The configuration directory that a command line asks for. -/
def askedDirectory (values : Variables) (arguments : List Text) : Option Path :=
  match readArguments (values.value? "CHATSWAP_CONFIG_DIR") arguments with
  | .ok (.run i) => i.configDirectory
  | _ => none

/-- What the program finds when it starts with a command line, without standard input. -/
def surroundings (arguments : List Text) : IO Surroundings := do
  let here := (← IO.currentDir).toString.toList
  let values ← variableNames.filterMapM setVariable?
  let asked := askedDirectory values arguments
  let bare : Surroundings :=
    ⟨⟨[], []⟩, values, ← accountHome?, ← (← IO.getStderr).isTty, []⟩
  let start : FileSystem := ⟨[], (Text.pieces Path.separator here).filter fun c => !c.isEmpty⟩
  let start ← survey start [here]
  let directories := asked.toList ++ [Path.join here Settings.localDirectory] ++
    (Settings.userConfigDirectory bare.environment).toOption.toList
  let withSettings ← survey start (directories.map fun d => Path.join d Settings.fileName)
  let files ←
    match Settings.discover withSettings bare.environment asked withSettings.workingPath with
    | .error _ => pure withSettings
    | .ok loaded => survey withSettings (rulePathList loaded.rulePaths)
  return { bare with files }

/-! ## Changing the machine -/

/-- Makes the disk hold the nodes of `after` that `before` does not hold. The result names the
places that could not be written. -/
def settle (before after : FileSystem) : IO (List Path) := do
  let changed := after.nodes.reverse.filter fun entry => before.node? entry.1 != some entry.2
  let refused ← changed.mapM fun entry => do
    try
      match entry.2 with
      | .directory => IO.FS.createDirAll (pathOf entry.1)
      | .file content => IO.FS.writeBinFile (pathOf entry.1) (toByteArray content)
      return []
    catch _ => return [(pathOf entry.1).toList]
  return refused.flatten

/-- Prints a text. -/
def emit (stream : IO.FS.Stream) (t : Text) : IO Unit := do
  stream.write (String.ofList t).toUTF8
  stream.flush

/-! ## Streams -/

/-- The bytes up to and with the next line feed, or all that is left. -/
partial def readLine (input : IO.FS.Stream) (line : ByteArray) : IO ByteArray := do
  let next ← input.read 1
  if next.isEmpty then return line
  if next.data == #[Text.lineFeedByte] then return line ++ next
  readLine input (line ++ next)

/-- Answers the lines of standard input. -/
partial def answerLines (input output errors : IO.FS.Stream) (view : LogView)
    (start : FileSystem) (paths : RulePaths) (token : Text) (b : Rulebook) : IO Unit := do
  let line ← readLine input .empty
  if line.isEmpty then return
  let files ← survey start (start.workingPath :: rulePathList paths)
  let (next, shown, notices) := streamStep files paths token b (messageOf (ofByteArray line))
  emit errors (renderNotices view notices)
  emit output shown
  answerLines input output errors view start paths token next

/-! ## Carrying out a command line -/

/-- Answers a command line, and gives the exit code. -/
def answer (arguments : List Text) : IO Nat := do
  let s ← surroundings arguments
  let response := respond s arguments
  let output ← IO.getStdout
  let errors ← IO.getStderr
  let refused ← settle s.files response.files
  emit errors (response.errors ++ unlines (refused.map fun p => (ConfigError.write p).message))
  emit output response.output
  match readArguments s.configVariable arguments with
  | .ok (.run ⟨.stream token, asked, verbosity⟩) =>
      match Settings.discover s.files s.environment asked s.files.workingPath with
      | .error _ => return response.code
      | .ok loaded =>
          let first := firstLoad response.files loaded
          let bare : FileSystem := ⟨[], s.files.workingDirectory⟩
          answerLines (← IO.getStdin) output errors (s.logView verbosity) bare
            loaded.rulePaths token first.book
          return response.code
  | .ok (.run ⟨.init _, _, _⟩) => return if refused.isEmpty then response.code else 1
  | _ => return response.code

end Phrasebook.Program

/-- Answers the command line that the program was started with. -/
def main (arguments : List String) : IO UInt32 := do
  return UInt32.ofNat (← Phrasebook.Program.answer (arguments.map String.toList))
