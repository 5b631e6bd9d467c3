import Phrasebook.Files.Error
import Phrasebook.Files.Tree
import Phrasebook.Log.Record
import Phrasebook.Settings.Basic

/-!
# Finding the settings

The configuration directory is the one that was asked for, or else the directory `config` below
the working directory if there is one, or else the user's own. If the path of the settings file in
it names nothing, then the default settings stand; a file that it names must hold settings.
-/

set_option autoImplicit false

namespace Phrasebook

/-- What says where a user's configuration is. -/
structure Environment where
  /-- The variable for the directory of the user's configuration, which counts only if it is
  absolute. -/
  configHome : Option Path
  /-- The variable for the user's home directory, which counts only if it is not empty. -/
  home : Option Path
  /-- The home directory in the entry of the user's account, which counts only if it is not
  empty. -/
  accountHome : Option Path
  deriving DecidableEq, Repr

/-- Settings together with where they come from. -/
structure LoadedSettings where
  /-- The settings. -/
  settings : Settings
  /-- The configuration directory. -/
  directory : Path
  /-- The settings file, if there is one. -/
  source : Option Path
  deriving DecidableEq, Repr

/-- The paths of the rule files. -/
def LoadedSettings.rulePaths (s : LoadedSettings) : RulePaths := s.settings.rulePaths s.directory

namespace Settings

/-! ## The configuration directory -/

/-- The name of the configuration directory below the working directory. -/
def localDirectory : Path := "config".toList

/-- The name of the configuration directory among those of other programs. -/
def userDirectory : Path := "chatswap".toList

/-- The name of the settings file. -/
def fileName : Path := "chatswap.toml".toList

/-- The user's home directory: the one that the variable gives, or else that of the account. -/
def home? (env : Environment) : Option Path :=
  match env.home.filter fun h => !h.isEmpty with
  | some directory => some directory
  | none => env.accountHome.filter fun h => !h.isEmpty

/-- The directory of the user's configuration of all programs. -/
def configHome? (env : Environment) : Option Path :=
  match env.configHome.filter Path.isAbsolute with
  | some directory => some directory
  | none => (home? env).map fun h => Path.join h ".config".toList

/-- The user's own configuration directory. -/
def userConfigDirectory (env : Environment) : Except ConfigError Path :=
  match configHome? env with
  | none => .error .noDirectory
  | some directory => .ok (Path.join directory userDirectory)

/-- The configuration directory, given the one that was asked for and the working directory. -/
def resolveDirectory (fs : FileSystem) (env : Environment) (explicit : Option Path)
    (workingDirectory : Path) : Except ConfigError Path :=
  match explicit with
  | some directory => .ok directory
  | none =>
      let below := Path.join workingDirectory localDirectory
      if fs.isDirectory below then .ok below else userConfigDirectory env

/-! ## The settings file -/

/-- The settings in a text, which is taken to be that of the settings file at a path. -/
def ofText (p : Path) (content : Text) : Except ConfigError Settings :=
  match parse? content with
  | none => .error (.settings p)
  | some s => .ok s

/-- The settings in the settings file that a path names. -/
def loadFile (fs : FileSystem) (p : Path) : Except ConfigError Settings :=
  match fs.readText? p with
  | none => .error (.read p)
  | some content =>
      match parse? content with
      | none => .error (.settings p)
      | some s => .ok s

/-- The settings of a configuration directory. -/
def load (fs : FileSystem) (directory : Path) : Except ConfigError LoadedSettings :=
  let p := Path.join directory fileName
  if fs.pathExists p then (loadFile fs p).map fun s => ⟨s, directory, some p⟩
  else .ok ⟨{}, directory, none⟩

/-- The settings of the configuration directory that is found. -/
def discover (fs : FileSystem) (env : Environment) (explicit : Option Path)
    (workingDirectory : Path) : Except ConfigError LoadedSettings :=
  match resolveDirectory fs env explicit workingDirectory with
  | .error e => .error e
  | .ok directory => load fs directory

end Settings

/-- The records about settings that were loaded. -/
def LoadedSettings.records (s : LoadedSettings) : List Log.Record :=
  match s.source with
  | some p => [⟨.debug, .discovery, "Loaded settings from ".toList ++ p⟩]
  | none =>
      [⟨.debug, .discovery,
        "No settings file in ".toList ++ s.directory ++ ", using defaults".toList⟩]

end Phrasebook
