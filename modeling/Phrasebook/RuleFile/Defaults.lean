import Phrasebook.Files.Error
import Phrasebook.Files.Tree
import Phrasebook.Log.Record
import Phrasebook.Settings.Basic

/-!
# Making missing rule files

`writeDefault` writes a list of lines to a path, unless the path names something already, and
makes the directories above it; `ensureDefaults` does so with demonstration rules for both rule
files. Both return the file system as it is afterwards, whether they succeed or not.
-/

set_option autoImplicit false

namespace Phrasebook.RuleFile

/-! ## One file -/

/-- The text of a file that holds the given lines. -/
def contentOf (lines : List Text) : Text :=
  Text.joinWith [Text.lineFeed] lines ++ [Text.lineFeed]

/-- The file system after an attempt to make the directories above a path, and the error if they
cannot be made. A path without a parent, or with an empty one, needs none. -/
def makeParent (fs : FileSystem) (p : Path) : FileSystem × Option ConfigError :=
  match Path.parent? p with
  | none => (fs, none)
  | some parent =>
      if parent.isEmpty then (fs, none)
      else
        let made := fs.makeDirectories parent
        (made.1, if made.2 then none else some (.write parent))

/-- The file system after an attempt to write lines to a path, and whether they were written. A
path that names something is left alone unless `force` is set. -/
def writeDefault (fs : FileSystem) (p : Path) (lines : List Text) (force : Bool) :
    FileSystem × Except ConfigError Bool :=
  if fs.pathExists p && !force then (fs, .ok false)
  else
    match makeParent fs p with
    | (made, some e) => (made, .error e)
    | (made, none) =>
        match made.writeBytes? p (Text.encode (contentOf lines)) with
        | none => (made, .error (.write p))
        | some written => (written, .ok true)

/-! ## Both files -/

/-- The demonstration rules that respect case. -/
def demoSensitive : List Text := ["\"114514\"===\"1919810\"".toList]

/-- The demonstration rules that fold case. -/
def demoInsensitive : List Text :=
  ["\" usa\"===\" USA\"".toList, "\"Ciallo\"===\"Ciallo～(∠・ω< )⌒☆\"".toList]

/-- What came of making the rule files. -/
structure Ensured where
  /-- The file system afterwards. -/
  files : FileSystem
  /-- The paths that were written, in order. -/
  written : List Path
  /-- The error at which the attempt stopped. -/
  failure : Option ConfigError
  deriving DecidableEq, Repr

/-- Writes the demonstration rules to the rule files that are missing, or to both if `force` is
set: first the one whose rules respect case, and the other only if that did not fail. -/
def ensureDefaults (fs : FileSystem) (paths : RulePaths) (force : Bool) : Ensured :=
  let listed (p : Path) (wrote : Bool) : List Path := if wrote then [p] else []
  match writeDefault fs paths.sensitive demoSensitive force with
  | (fs₁, .error e) => ⟨fs₁, [], some e⟩
  | (fs₁, .ok first) =>
      match writeDefault fs₁ paths.insensitive demoInsensitive force with
      | (fs₂, .error e) => ⟨fs₂, listed paths.sensitive first, some e⟩
      | (fs₂, .ok second) =>
          ⟨fs₂, listed paths.sensitive first ++ listed paths.insensitive second, none⟩

/-- The records about the rule files that were made. -/
def Ensured.records (e : Ensured) : List Log.Record :=
  e.written.map fun p => ⟨.info, .defaultFiles, "Created default rule file: ".toList ++ p⟩

end Phrasebook.RuleFile
