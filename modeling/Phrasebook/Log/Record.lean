import Phrasebook.Text.ControlSequence

/-!
# Log records

What the program reports about its own work. A record has a level, the part of the program that
it comes from, and a text; `Record.render` writes it as one entry of the log, coloured or plain.
An entry that is not coloured must not steer the terminal, whatever stands in the record's text.
-/

set_option autoImplicit false

namespace Phrasebook.Log

/-! ## Levels -/

/-- How important a record is, the most important first. -/
inductive Level where
  /-- Something could not be done. -/
  | error
  /-- Something was left out. -/
  | warn
  /-- Something was done. -/
  | info
  /-- A detail of how it was done. -/
  | debug
  /-- The finest detail. -/
  | trace
  deriving DecidableEq, Repr

/-- The rank of a level: the greater, the less important. -/
def Level.rank : Level → Nat
  | .error => 1
  | .warn => 2
  | .info => 3
  | .debug => 4
  | .trace => 5

/-- The name of a level, padded to five characters. -/
def Level.label : Level → Text
  | .error => "ERROR".toList
  | .warn => "WARN ".toList
  | .info => "INFO ".toList
  | .debug => "DEBUG".toList
  | .trace => "TRACE".toList

/-! ## Sources -/

/-- The part of the program that a record comes from. -/
inductive Source where
  /-- The command line. -/
  | commandLine
  /-- The search for the settings. -/
  | discovery
  /-- The reading of rule files. -/
  | ruleFiles
  /-- The making of missing rule files. -/
  | defaultFiles
  /-- The compiling of rule lines. -/
  | ruleLines
  /-- The rulebook in force. -/
  | rulebook
  deriving DecidableEq, Repr

/-- The name of a source in the log. -/
def Source.name : Source → Text
  | .commandLine => "chatswap".toList
  | .discovery => "chatswap_cli::config::discovery".toList
  | .ruleFiles => "chatswap_cli::config::parser".toList
  | .defaultFiles => "chatswap_cli::config::bootstrap".toList
  | .ruleLines => "chatswap_cli::rules::compiler".toList
  | .rulebook => "chatswap_cli::rules::engine".toList

/-! ## Records -/

/-- One entry of the log. -/
structure Record where
  /-- How important the entry is. -/
  level : Level
  /-- The part of the program that it comes from. -/
  source : Source
  /-- What it says. -/
  text : Text
  deriving DecidableEq, Repr

/-- A text with four spaces after every line feed, so that it stands out as one entry. -/
def indent (t : Text) : Text :=
  t.flatMap fun c => if c = Text.lineFeed then c :: "    ".toList else [c]

/-- The control sequence that chooses a style by its number. -/
def styled (number : String) : Text := "\x1b[".toList ++ number.toList ++ ['m']

/-- The control sequence that ends all styles. -/
def unstyled : Text := styled "0"

/-- The style of the brackets around the level and the source. -/
def bracketStyle : Text := styled "90"

/-- The style in which the name of a level is written. -/
def Level.style : Level → Text
  | .error => styled "1" ++ styled "31"
  | .warn => styled "33"
  | .info => styled "32"
  | .debug => styled "34"
  | .trace => styled "36"

/-- Whether entries of the log are coloured. -/
inductive Palette where
  /-- Entries have no colours and hold no control sequences. -/
  | plain
  /-- Brackets and levels have colours, and the texts of records stand as they are. -/
  | coloured
  deriving DecidableEq, Repr

/-- An entry of the log in colours. -/
def Record.coloured (r : Record) : Text :=
  bracketStyle ++ ['['] ++ unstyled ++ r.level.style ++ r.level.label ++ unstyled ++
    [' '] ++ r.source.name ++ bracketStyle ++ [']'] ++ unstyled ++ [' '] ++ indent r.text ++
    [Text.lineFeed]

/-- An entry of the log before control sequences are taken out. -/
def Record.uncoloured (r : Record) : Text :=
  '[' :: r.level.label ++ ' ' :: r.source.name ++ "] ".toList ++ indent r.text ++ [Text.lineFeed]

/-- A record as it stands in the log. The line feed at its end is a part of the entry: a control
sequence that is still open there takes it along. -/
def Record.render (p : Palette) (r : Record) : Text :=
  match p with
  | .plain => Text.plain r.uncoloured
  | .coloured => r.coloured

end Phrasebook.Log
