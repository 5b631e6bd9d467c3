import Phrasebook.Files.Path
import Phrasebook.Toml.Document

/-!
# Settings

The settings are the names of the two rule files and whether missing rule files are made. They are
read from a flat TOML document in which every key may be left out and no other key may stand.
-/

set_option autoImplicit false

namespace Phrasebook

/-- What a settings file can set. -/
structure Settings where
  /-- The rule file whose rules respect case, as seen from the configuration directory. -/
  sensitiveFile : Path := "rules.txt".toList
  /-- The rule file whose rules fold case, as seen from the configuration directory. -/
  insensitiveFile : Path := "rules-case-insensitive.txt".toList
  /-- Whether missing rule files are made with demonstration rules. -/
  createDefaults : Bool := true
  deriving DecidableEq, Repr

/-- The paths of the two rule files. -/
structure RulePaths where
  /-- The file whose rules respect case. -/
  sensitive : Path
  /-- The file whose rules fold case. -/
  insensitive : Path
  deriving DecidableEq, Repr

namespace Settings

/-- The key of `sensitiveFile`. -/
def sensitiveKey : Text := "sensitive-file".toList

/-- The key of `insensitiveFile`. -/
def insensitiveKey : Text := "case-insensitive-file".toList

/-- The key of `createDefaults`. -/
def createDefaultsKey : Text := "create-defaults".toList

/-- The settings after one assignment, if its key is known and its value is of the right kind. -/
def assign? (s : Settings) (entry : Text × Toml.Value) : Option Settings :=
  if entry.1 = sensitiveKey then
    match entry.2 with
    | .text p => some { s with sensitiveFile := p }
    | .flag _ => none
  else if entry.1 = insensitiveKey then
    match entry.2 with
    | .text p => some { s with insensitiveFile := p }
    | .flag _ => none
  else if entry.1 = createDefaultsKey then
    match entry.2 with
    | .flag b => some { s with createDefaults := b }
    | .text _ => none
  else none

/-- The settings of a document. -/
def ofDocument? (document : Toml.Document) : Option Settings := document.foldlM assign? {}

/-- The settings of the text of a settings file. -/
def parse? (content : Text) : Option Settings :=
  match Toml.parse? content with
  | none => none
  | some document => ofDocument? document

/-- The paths of the rule files, given the configuration directory. -/
def rulePaths (s : Settings) (directory : Path) : RulePaths :=
  ⟨Path.join directory s.sensitiveFile, Path.join directory s.insensitiveFile⟩

end Settings

end Phrasebook
