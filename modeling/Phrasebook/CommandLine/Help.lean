import Phrasebook.CommandLine.Arguments

/-!
# Help

Every level of the command line has a page of the manual: what it is about, how it is called, and
tables of the levels below, of the arguments and of the options. `Page.lines` sets a page.
-/

set_option autoImplicit false

namespace Phrasebook.CommandLine

/-! ## Pages -/

/-- An entry of a table: what is written on a command line, and what it does. -/
structure Entry where
  /-- What is written. -/
  form : Text
  /-- What it does. -/
  effect : Text

/-- A page of the manual. -/
structure Page where
  /-- What the level is about. -/
  about : Text
  /-- How the level is called. -/
  call : Text
  /-- The levels below. -/
  commands : List Entry := []
  /-- The arguments. -/
  arguments : List Entry := []
  /-- The options. -/
  options : List Entry := []

/-- The lines of a table with a title, after an empty line. What the forms do begins in the same
column in all lines. A table without entries is left out. -/
def table (title : Text) (entries : List Entry) : List Text :=
  let width := (entries.map fun entry => entry.form.length).foldl max 0
  let line := fun (entry : Entry) =>
    "  ".toList ++ entry.form.rightpad width ' ' ++ "  ".toList ++ entry.effect
  if entries.isEmpty then [] else [] :: title :: entries.map line

/-- The lines of a page. -/
def Page.lines (page : Page) : List Text :=
  [page.about, [], "Usage: ".toList ++ page.call] ++ table "Commands:".toList page.commands ++
    table "Arguments:".toList page.arguments ++ table "Options:".toList page.options

/-! ## The manual -/

/-- What `apply` is about. -/
def aboutApply : Text := "Rewrite a single message and print the result".toList

/-- What `stream` is about. -/
def aboutStream : Text := "Rewrite each line read from stdin as a separate message".toList

/-- What `init` is about. -/
def aboutInit : Text := "Write the default rule files".toList

/-- What `rules` is about. -/
def aboutRules : Text := "Rule file inspection commands".toList

/-- What `rules list` is about. -/
def aboutList : Text := "Display every compiled rule with its source location".toList

/-- What `rules validate` is about. -/
def aboutValidate : Text := "Report lines that do not form a valid rule".toList

/-- What `help` is about. -/
def aboutHelp : Text := "Print this message or the help of the given subcommand(s)".toList

/-- The option for the configuration directory, with the value of the variable for it. -/
def directoryEntry (configVariable : Option Path) : Entry :=
  ⟨"    --config-dir <DIR>".toList,
    "Directory holding the rule files and chatswap.toml [env: CHATSWAP_CONFIG_DIR=".toList ++
      configVariable.getD [] ++ "]".toList⟩

/-- The option for the log. -/
def verboseEntry : Entry :=
  ⟨"-v, --verbose...".toList, "Increase log verbosity (-v info, -vv debug)".toList⟩

/-- The option for help. -/
def helpEntry : Entry := ⟨"-h, --help".toList, "Print help".toList⟩

/-- The options of a level with these options of its own. -/
def optionsWith (configVariable : Option Path) (own : List Entry) : List Entry :=
  [directoryEntry configVariable] ++ own ++ [verboseEntry, helpEntry]

/-- The page about `help`, below this level. -/
def helpPage (above : Text) : Page where
  about := aboutHelp
  call := above ++ " help [COMMAND]...".toList
  arguments := [⟨"[COMMAND]...".toList, "Print help for the subcommand(s)".toList⟩]

/-- The page on a topic, given the variable for the configuration directory. -/
def Topic.page (configVariable : Option Path) : Topic → Page
  | .program =>
      { about := "Rewrite chat messages with wildcard substitution rules".toList
        call := "chatswap [OPTIONS] <COMMAND>".toList
        commands := [⟨"apply".toList, aboutApply⟩, ⟨"stream".toList, aboutStream⟩,
          ⟨"init".toList, aboutInit⟩, ⟨"rules".toList, aboutRules⟩, ⟨"help".toList, aboutHelp⟩]
        options := optionsWith configVariable [] ++
          [⟨"-V, --version".toList, "Print version".toList⟩] }
  | .apply =>
      { about := aboutApply
        call := "chatswap apply [OPTIONS] <MESSAGE>...".toList
        arguments := [⟨"<MESSAGE>...".toList, "Message words, joined with single spaces".toList⟩]
        options := optionsWith configVariable [] }
  | .stream =>
      { about := aboutStream
        call := "chatswap stream [OPTIONS]".toList
        options := optionsWith configVariable
          [⟨"    --reload-token <TOKEN>".toList,
            "A line equal to this reloads the rule files instead of being rewritten".toList ++
              " [default: ".toList ++ defaultToken ++ "]".toList⟩] }
  | .init =>
      { about := aboutInit
        call := "chatswap init [OPTIONS]".toList
        options := optionsWith configVariable
          [⟨"    --force".toList, "Overwrite existing rule files".toList⟩] }
  | .rules =>
      { about := aboutRules
        call := "chatswap rules [OPTIONS] <COMMAND>".toList
        commands := [⟨"list".toList, aboutList⟩, ⟨"validate".toList, aboutValidate⟩,
          ⟨"help".toList, aboutHelp⟩]
        options := optionsWith configVariable [] }
  | .list =>
      { about := aboutList
        call := "chatswap rules list [OPTIONS]".toList
        options := optionsWith configVariable [] }
  | .validate =>
      { about := aboutValidate
        call := "chatswap rules validate [OPTIONS]".toList
        options := optionsWith configVariable [] }
  | .help false => helpPage "chatswap".toList
  | .help true => helpPage "chatswap rules".toList

end Phrasebook.CommandLine
