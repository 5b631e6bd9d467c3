import Phrasebook.Files.Path

/-!
# Errors of the configuration

The ways in which reading and writing the configuration can fail. Every message names the path
that was asked for, as it was written.
-/

set_option autoImplicit false

namespace Phrasebook

/-- Why the configuration cannot be read or written. -/
inductive ConfigError where
  /-- The file at this path is missing, is no regular file, or is not UTF-8. -/
  | read (p : Path)
  /-- The file or the directory at this path cannot be made. -/
  | write (p : Path)
  /-- The settings file at this path does not hold settings. -/
  | settings (p : Path)
  /-- There is no home directory in which to look for the configuration. -/
  | noDirectory
  deriving DecidableEq, Repr

/-- The wording of an error. -/
def ConfigError.message : ConfigError → Text
  | .read p => "Failed to read config file: ".toList ++ p
  | .write p => "Failed to write config file: ".toList ++ p
  | .settings p => "Failed to parse settings file: ".toList ++ p
  | .noDirectory => "Failed to resolve a config directory".toList

/-- Whether an error goes back to an error of the system or of the reader of TOML. -/
def ConfigError.hasSource : ConfigError → Bool
  | .read _ | .write _ | .settings _ => true
  | .noDirectory => false

end Phrasebook
