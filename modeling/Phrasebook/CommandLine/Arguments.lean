import Phrasebook.Files.Path

/-!
# Command line arguments

The command line names one command. Options for every command may stand before it or after it; of
an option that stands in both places, the place nearer to the end counts. Each level of the command
line, that is the program itself, a command, or an action of a command, is read by `Level.read`
from left to right.

The level of `apply` takes free words: from the first word on that is no option of the level, all
words belong to the message, whatever they look like.
-/

set_option autoImplicit false

namespace Phrasebook.CommandLine

/-! ## Commands -/

/-- What the program is asked to do. -/
inductive Command where
  /-- Put the message made of these words through the rules. -/
  | apply (words : List Text)
  /-- Put every line of standard input through the rules; a line equal to the token makes the rule
  files be read anew. -/
  | stream (token : Text)
  /-- Write the demonstration rules, over existing files too if `force` is set. -/
  | init (force : Bool)
  /-- Print every rule. -/
  | list
  /-- Report every line of the rule files that is no rule. -/
  | validate
  deriving DecidableEq, Repr

/-- A command with the options for every command. -/
structure Invocation where
  /-- The command. -/
  command : Command
  /-- The configuration directory that was asked for. -/
  configDirectory : Option Path
  /-- How many times more of the log was asked for. -/
  verbosity : Nat
  deriving DecidableEq, Repr

/-- Why a command line names no command. -/
inductive UsageError where
  /-- There is no such option, command or action, or no place for this word. -/
  | unexpected (word : Text)
  /-- An option needs a value. -/
  | missingValue
  /-- An option takes no value. -/
  | unwantedValue (word : Text)
  /-- An option may be given only once. -/
  | repeated
  /-- The configuration directory must not be empty. -/
  | emptyDirectory
  /-- The command line names no command, or the command no action. -/
  | missingCommand
  /-- A message needs at least one word. -/
  | missingMessage
  deriving DecidableEq, Repr

/-- The wording of a usage error. -/
def UsageError.message : UsageError → Text
  | .unexpected word => "unexpected argument '".toList ++ word ++ "'".toList
  | .missingValue => "a value is required for an option".toList
  | .unwantedValue word => "unexpected value in '".toList ++ word ++ "'".toList
  | .repeated => "an option cannot be used multiple times".toList
  | .emptyDirectory => "a value is required for '--config-dir <DIR>'".toList
  | .missingCommand => "a command is required".toList
  | .missingMessage => "a message is required".toList

/-- What there is help on: every level of the command line. -/
inductive Topic where
  /-- The program itself. -/
  | program
  /-- The command `apply`. -/
  | apply
  /-- The command `stream`. -/
  | stream
  /-- The command `init`. -/
  | init
  /-- The command `rules`. -/
  | rules
  /-- The action `list` of `rules`. -/
  | list
  /-- The action `validate` of `rules`. -/
  | validate
  /-- The command `help`, or the action `help` of `rules`. -/
  | help (ofRules : Bool)
  deriving DecidableEq, Repr

/-- What a command line asks for. -/
inductive Request where
  /-- To carry out a command. -/
  | run (i : Invocation)
  /-- To show the version. -/
  | version
  /-- To show how the program is used. -/
  | help (topic : Topic)
  /-- Nothing, where the name of a level below is needed. -/
  | nothing (topic : Topic)
  deriving DecidableEq, Repr

/-! ## Levels of the command line -/

/-- An option with a value. -/
inductive ValueOption where
  /-- The configuration directory. -/
  | configDirectory
  /-- The token that makes a stream reload. -/
  | token
  deriving DecidableEq, Repr

/-- An option without a value. -/
inductive Flag where
  /-- More of the log. -/
  | verbose
  /-- Over existing files. -/
  | force
  /-- Show the version. -/
  | version
  /-- Show how the program is used. -/
  | help
  deriving DecidableEq, Repr

/-- What may stand on a level of the command line. -/
structure Level where
  /-- What help on this level is about. -/
  topic : Topic
  /-- The options with a value, by their long names. -/
  values : List (Text × ValueOption) := [("config-dir".toList, .configDirectory)]
  /-- The options without a value, by their long names. -/
  flags : List (Text × Flag) := [("verbose".toList, .verbose), ("help".toList, .help)]
  /-- The options without a value, by their letters. -/
  letters : List (Char × Flag) := [('v', .verbose), ('h', .help)]
  /-- The levels below, by their names. -/
  below : List (Text × Topic) := []
  /-- Whether the level takes free words. -/
  takesWords : Bool := false

/-- The options that a level of a command line holds. -/
structure Options where
  /-- The configuration directory. -/
  configDirectory : Option Path := none
  /-- The token that makes a stream reload. -/
  token : Option Text := none
  /-- How many times `verbose` stands there. -/
  verbose : Nat := 0
  /-- Whether `force` stands there. -/
  force : Bool := false
  deriving DecidableEq, Repr

/-- How the reading of a level ends early. -/
inductive Halt where
  /-- The arguments are wrong. -/
  | error (e : UsageError)
  /-- The version is asked for. -/
  | version
  /-- Help is asked for. -/
  | help (topic : Topic)
  /-- Nothing at all is given where the name of a level below is needed. -/
  | nothing (topic : Topic)
  deriving DecidableEq, Repr

/-- What follows the options of a level. -/
inductive Rest where
  /-- Nothing. -/
  | nothing
  /-- The name of a level below, and the arguments after it. -/
  | below (name : Text) (arguments : List Text)
  /-- Free words. -/
  | words (words : List Text)
  deriving DecidableEq, Repr

/-! ## Recording options -/

/-- The options with the value of one more. -/
def Options.setValue (o : Options) (option : ValueOption) (value : Text) :
    Except Halt Options :=
  match option with
  | .configDirectory =>
      if o.configDirectory.isSome then .error (.error .repeated)
      else if value.isEmpty then .error (.error .emptyDirectory)
      else .ok { o with configDirectory := some value }
  | .token =>
      if o.token.isSome then .error (.error .repeated) else .ok { o with token := some value }

/-- The options of the level of a topic with one more that has no value. -/
def Options.setFlag (topic : Topic) (o : Options) (flag : Flag) : Except Halt Options :=
  match flag with
  | .verbose => .ok { o with verbose := o.verbose + 1 }
  | .force => if o.force then .error (.error .repeated) else .ok { o with force := true }
  | .version => .error .version
  | .help => .error (.help topic)

/-! ## Reading a level -/

/-- What a single argument means on a level. -/
inductive Meaning where
  /-- The name of a level below. -/
  | name
  /-- The mark after which no options follow. -/
  | endOfOptions
  /-- An option whose value is the next argument. -/
  | option (option : ValueOption)
  /-- An option with its value. -/
  | optionWith (option : ValueOption) (value : Text)
  /-- One or more options without values. -/
  | flags (flags : List Flag)
  /-- A word that is no option. -/
  | word
  /-- An argument that may not stand here. -/
  | wrong (e : UsageError)
  deriving DecidableEq, Repr

/-- An argument that looks like an option but is none of the level: a word where free words are
taken, and wrong elsewhere. -/
def Level.unknown (level : Level) (argument : Text) : Meaning :=
  if level.takesWords then .word else .wrong (.unexpected argument)

/-- The meaning of an argument that begins with two hyphens, given what follows them. -/
def Level.longMeaning (level : Level) (argument body : Text) : Meaning :=
  let (name, value) := match Text.splitFirst? ['='] body with
    | some (name, value) => (name, some value)
    | none => (body, none)
  match level.values.lookup name, level.flags.lookup name, value with
  | some option, _, none => .option option
  | some option, _, some value => .optionWith option value
  | none, some flag, none => .flags [flag]
  | none, some _, some _ => .wrong (.unwantedValue argument)
  | none, none, _ => level.unknown argument

/-- The meaning of an argument that begins with one hyphen, given the letters that follow it. Where
free words are taken, a single unknown letter makes it a word. Elsewhere the letters before the
unknown one count, since one of them may ask for help or for the version. -/
def Level.shortMeaning (level : Level) (argument body : Text) : Meaning :=
  let known := (body.map fun c => level.letters.lookup c).takeWhile Option.isSome
  let flags := known.filterMap id
  if known.length = body.length then .flags flags
  else if level.takesWords then .word
  else if flags.any fun f => f == .help || f == .version then .flags flags
  else .wrong (.unexpected argument)

/-- The meaning of an argument. Where a value is awaited, no name of a level below is looked for. -/
def Level.meaning (level : Level) (awaiting : Bool) (argument : Text) : Meaning :=
  if !awaiting && (level.below.lookup argument).isSome then .name
  else match argument with
    | ['-', '-'] => .endOfOptions
    | '-' :: '-' :: body => level.longMeaning argument body
    | '-' :: c :: body => level.shortMeaning argument (c :: body)
    | _ => .word

/-- Reads the arguments of a level. `awaiting` is the option whose value is the next argument. -/
def Level.read (level : Level) (awaiting : Option ValueOption) (o : Options) :
    List Text → Except Halt (Options × Rest)
  | [] => if awaiting.isSome then .error (.error .missingValue) else .ok (o, .nothing)
  | argument :: later =>
      match level.meaning awaiting.isSome argument, awaiting with
      | .word, some option =>
          match o.setValue option argument with
          | .error e => .error e
          | .ok o => level.read none o later
      | .word, none =>
          if level.takesWords then .ok (o, .words (argument :: later))
          else .error (.error (.unexpected argument))
      | .wrong e, _ => .error (.error e)
      | _, some _ => .error (.error .missingValue)
      | .name, none => .ok (o, .below argument later)
      | .endOfOptions, none =>
          match later with
          | [] => .ok (o, .nothing)
          | word :: _ =>
              if level.takesWords then .ok (o, .words later)
              else .error (.error (.unexpected word))
      | .option option, none => level.read (some option) o later
      | .optionWith option value, none =>
          match o.setValue option value with
          | .error e => .error e
          | .ok o => level.read none o later
      | .flags flags, none =>
          match flags.foldlM (Options.setFlag level.topic) o with
          | .error e => .error e
          | .ok o => level.read none o later

/-! ## The levels of the program -/

/-- The level of the program itself. -/
def programLevel : Level :=
  { topic := .program
    flags := [("verbose".toList, .verbose), ("help".toList, .help), ("version".toList, .version)]
    letters := [('v', .verbose), ('h', .help), ('V', .version)]
    below := [("apply".toList, .apply), ("stream".toList, .stream), ("init".toList, .init),
      ("rules".toList, .rules), ("help".toList, .help false)] }

/-- The level of `apply`. -/
def applyLevel : Level := { topic := .apply, takesWords := true }

/-- The level of `stream`. -/
def streamLevel : Level :=
  { topic := .stream
    values := [("config-dir".toList, .configDirectory), ("reload-token".toList, .token)] }

/-- The level of `init`. -/
def initLevel : Level :=
  { topic := .init
    flags := [("verbose".toList, .verbose), ("help".toList, .help), ("force".toList, .force)] }

/-- The level of `rules`. -/
def rulesLevel : Level :=
  { topic := .rules
    below := [("list".toList, .list), ("validate".toList, .validate), ("help".toList, .help true)] }

/-- The level of an action of `rules`. -/
def actionLevel (topic : Topic) : Level := { topic }

/-- The token of a stream for which none is given. -/
def defaultToken : Text := "/reload".toList

/-! ## Reading a command line -/

/-- The configuration directory that the options of the levels give, the innermost level first:
what a level further in gives counts before what one further out gives. -/
def directoryOf (levels : List Options) : Option Path :=
  levels.findSome? fun o => o.configDirectory

/-- How many times more of the log is asked for: the innermost level that asks for any counts. -/
def verbosityOf (levels : List Options) : Nat :=
  ((levels.find? fun o => o.verbose != 0).map fun o => o.verbose).getD 0

/-- The command that an action of `rules` stands for, and the topic of its level. -/
def actionOf (name : Text) : Option (Command × Topic) :=
  if name = "list".toList then some (.list, .list)
  else if name = "validate".toList then some (.validate, .validate)
  else none

/-- Help on the level that the names lead to; the names must be names of commands and actions. -/
def helpOn : List Text → Halt
  | [] => .help .program
  | name :: later =>
      match programLevel.below.lookup name, later with
      | none, _ => .error (.unexpected name)
      | some .rules, [action] =>
          match rulesLevel.below.lookup action with
          | none => .error (.unexpected action)
          | some topic => .help topic
      | some .rules, _ :: extra :: _ => .error (.unexpected extra)
      | some topic, [] => .help topic
      | some _, extra :: _ => .error (.unexpected extra)

/-- The end of a level that needs the name of a level below, and does not have it. -/
def withoutName (level : Level) (o : Options) : Halt :=
  if o = {} then .nothing level.topic else .error .missingCommand

/-- Reads the arguments of `rules`. The options of its levels are given back, the innermost
first. -/
def readRules (arguments : List Text) : Except Halt (List Options × Command) :=
  match rulesLevel.read none {} arguments with
  | .error e => .error e
  | .ok (o, .below name later) =>
      match actionOf name with
      | none => .error (helpOn ("rules".toList :: later))
      | some (command, topic) =>
          match (actionLevel topic).read none {} later with
          | .error e => .error e
          | .ok (action, _) => .ok ([action, o], command)
  | .ok (o, _) => .error (withoutName rulesLevel o)

/-- Reads the arguments after the name of a command. The options of its levels are given back, the
innermost first. -/
def readCommand (name : Text) (arguments : List Text) : Except Halt (List Options × Command) :=
  if name = "apply".toList then
    match applyLevel.read none {} arguments with
    | .error e => .error e
    | .ok (o, .words words) => .ok ([o], .apply words)
    | .ok _ => .error (.error .missingMessage)
  else if name = "stream".toList then
    match streamLevel.read none {} arguments with
    | .error e => .error e
    | .ok (o, _) => .ok ([o], .stream (o.token.getD defaultToken))
  else if name = "init".toList then
    match initLevel.read none {} arguments with
    | .error e => .error e
    | .ok (o, _) => .ok ([o], .init o.force)
  else if name = "rules".toList then readRules arguments
  else .error (helpOn arguments)

/-- Reads the levels of a command line. The options of all levels are given back, the innermost
first. -/
def readLevels (arguments : List Text) : Except Halt (List Options × Command) :=
  match programLevel.read none {} arguments with
  | .error e => .error e
  | .ok (o, .below name later) =>
      (readCommand name later).map fun found => (found.1 ++ [o], found.2)
  | .ok (o, _) => .error (withoutName programLevel o)

/-- Reads a command line. Every level that gives no configuration directory consults
`configVariable`, which must not be empty then; it decides only if no level gives a directory. Where
it is set, a level on which nothing else is given counts as one with an option. -/
def readArguments (configVariable : Option Path) (arguments : List Text) :
    Except UsageError Request :=
  match readLevels arguments with
  | .error (.error e) => .error e
  | .error .version => .ok .version
  | .error (.help topic) => .ok (.help topic)
  | .error (.nothing topic) =>
      if configVariable.isSome then .error .missingCommand else .ok (.nothing topic)
  | .ok (levels, command) =>
      if configVariable = some [] ∧ levels.any (fun o => o.configDirectory.isNone) then
        .error .emptyDirectory
      else .ok (.run ⟨command, (directoryOf levels).or configVariable, verbosityOf levels⟩)

end Phrasebook.CommandLine
