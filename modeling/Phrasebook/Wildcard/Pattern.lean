import Phrasebook.Charset.Encoding
import Phrasebook.Text.CaseFold
import Phrasebook.Wildcard.Token

/-!
# Compiled patterns

A `Pattern` is the token list of a wildcard together with a case mode. `compile` reads the tokens
off the regular expression of the wildcard, and refuses a wildcard whose matching programs would be
too large; their size is a sum over the tokens.
-/

set_option autoImplicit false

namespace Phrasebook.Wildcard

/-! ## Case modes -/

/-- Whether matching respects case. -/
inductive CaseMode where
  /-- A literal matches only itself. -/
  | sensitive
  /-- A literal matches every case variant of itself. -/
  | insensitive
  deriving DecidableEq, Repr

/-- The representative that stands for a character when characters are compared. -/
def CaseMode.key : CaseMode → Char → Char
  | .sensitive, c => c
  | .insensitive, c => Text.foldCase c

/-! ## The size of a matching program -/

/-- The number of bytes in the matching program of a literal. A literal that matches itself alone
takes 32 for each byte of its encoding; one with case variants takes the room of their set. -/
def literalSize (backward : Bool) (mode : CaseMode) (c : Char) : Nat :=
  match mode with
  | .sensitive => 32 * c.utf8Size
  | .insensitive =>
      let variants := Charset.ofChars (Text.variants c)
      if variants.only?.isSome then 32 * c.utf8Size else variants.machineSize backward

/-- The number of bytes in the matching program of a character that is no line feed. -/
def anySize (backward : Bool) : Nat := if backward then 1000 else 424

theorem machineSize_compl_lineFeed (backward : Bool) :
    (Charset.single Text.lineFeed).compl.machineSize backward = anySize backward := by
  cases backward <;> decide

/-- The number of bytes in the matching program of a token. -/
def Token.size (backward : Bool) (mode : CaseMode) : Token → Nat
  | .lit c => literalSize backward mode c
  | .one => anySize backward
  | .run => anySize backward + 40

/-- The number of bytes in the matching program of a list of tokens that goes through a text in one
of two directions. The loop that looks for the place of a match takes 112, and its end takes 32;
two marks of 32 keep its place in the program that goes forwards. -/
def programSize (backward : Bool) (mode : CaseMode) (ts : List Token) : Nat :=
  ts.foldl (fun n t => n + t.size backward mode) (if backward then 144 else 208)

/-- The greatest size of a matching program: ten mebibytes. -/
def sizeLimit : Nat := 10 * 1024 * 1024

/-- Whether the matching programs of a list of tokens are small enough. -/
def fits (mode : CaseMode) (ts : List Token) : Bool :=
  programSize false mode ts ≤ sizeLimit && programSize true mode ts ≤ sizeLimit

/-! ## Compiling -/

/-- A wildcard that matches in one case mode. -/
structure Pattern where
  /-- The tokens of the wildcard. -/
  tokens : List Token
  /-- Whether matching respects case. -/
  mode : CaseMode
  deriving DecidableEq, Repr

/-- The regular expression of a pattern. -/
def Pattern.regex (p : Pattern) : Text := regexText p.tokens

/-- Why a wildcard does not compile. -/
inductive PatternError where
  /-- This regular expression is not in a form that can be read. -/
  | malformed (regex : Text)
  /-- A matching program of this regular expression is larger than the limit. -/
  | tooLarge (regex : Text)
  deriving DecidableEq, Repr

/-- The wording of a compile error. -/
def PatternError.message : PatternError → Text
  | .malformed regex => "Invalid compiled pattern: ".toList ++ regex
  | .tooLarge regex => "Invalid compiled pattern: ".toList ++ regex

/-- The pattern of a wildcard: its regular expression is written and read, and its matching program
must not be too large. -/
def compile (wildcard : Text) (mode : CaseMode) : Except PatternError Pattern :=
  match readRegex? (regexOf wildcard) with
  | none => .error (.malformed (regexOf wildcard))
  | some ts =>
      if fits mode ts then .ok ⟨ts, mode⟩ else .error (.tooLarge (regexOf wildcard))

end Phrasebook.Wildcard
