import Phrasebook.Regex.Basic
import Phrasebook.Regex.Property

/-!
# Items

An item is the smallest part of a regular expression: a character, a set with a name, or an edge,
each as it is written. What it stands for depends on the flags that are in force there:
`Item.charset` says so for the items that take a character.
-/

set_option autoImplicit false

namespace Phrasebook.Regex

/-! ## Flags -/

/-- What is in force at a place of an expression. -/
structure Flags where
  /-- Letters match in both cases. -/
  anyCase : Bool := false
  /-- The edges of the text are those of every line. -/
  multiLine : Bool := false
  /-- The dot matches a line feed, too. -/
  dotAll : Bool := false
  /-- Characters beyond ASCII count as such. -/
  unicode : Bool := true
  /-- Carriage returns end lines, too. -/
  returns : Bool := false
  /-- Blanks and comments are passed over. -/
  verbose : Bool := false
  /-- Repetitions are lazy where they are greedy else. -/
  swapped : Bool := false
  deriving DecidableEq, Repr

/-- The letters of flags. -/
def flagLetters : List Char := ['i', 'm', 's', 'U', 'u', 'R', 'x']

/-- The flags with one set or cleared. -/
def Flags.set (f : Flags) (letter : Char) (value : Bool) : Flags :=
  match letter with
  | 'i' => { f with anyCase := value }
  | 'm' => { f with multiLine := value }
  | 's' => { f with dotAll := value }
  | 'u' => { f with unicode := value }
  | 'R' => { f with returns := value }
  | 'x' => { f with verbose := value }
  | 'U' => { f with swapped := value }
  | _ => f

/-- The flags changed as letters say: those after a hyphen are cleared. -/
def Flags.change (f : Flags) (letters : List Char) : Flags :=
  let on := letters.takeWhile (· != '-')
  let off := letters.drop (on.length + 1)
  off.foldl (fun g c => g.set c false) (on.foldl (fun g c => g.set c true) f)

/-- A set with the case variants that the flags ask for. -/
def Flags.fold (f : Flags) (s : Charset) : Charset :=
  if !f.anyCase then s else if f.unicode then s.folded else s.foldedAscii

/-! ## Items -/

/-- The sets with names of one letter. -/
inductive Shorthand where
  /-- The decimal digits. -/
  | digit
  /-- White space. -/
  | blank
  /-- The characters of words. -/
  | word
  deriving DecidableEq, Repr

/-- The smallest part of an expression. -/
inductive Item where
  /-- A character. `byte` is set if it is written as a byte in two hexadecimal digits. -/
  | literal (c : Char) (byte : Bool)
  /-- A set with a name of one letter, or its complement. -/
  | shorthand (k : Shorthand) (negated : Bool)
  /-- The characters with a property. -/
  | property (q : Query)
  /-- An edge. -/
  | edge (e : Edge)
  deriving DecidableEq, Repr

/-- The characters of a set with a name of one letter. -/
def Shorthand.charset (unicode : Bool) : Shorthand → Charset
  | .digit => if unicode then .digit else .asciiDigit
  | .blank => if unicode then .blank else .asciiBlank
  | .word => if unicode then .word else .asciiWord

/-- The edges of words. -/
def Flags.wordEdge (f : Flags) (e : WordEdge) : Edge := .word (Shorthand.word.charset f.unicode) e

/-- A set or its complement, with case variants. Where characters beyond ASCII do not count, a
complement would hold parts of characters. -/
def Flags.negatedIf (f : Flags) (negated : Bool) (s : Charset) : Except Cause Charset :=
  if negated && !f.unicode then .error .partOfCharacter
  else .ok ((f.fold s).outsideIf negated)

/-- The characters that an item takes where it stands for itself or in a class. A character beyond
ASCII is refused in a class where such characters do not count. -/
def Item.charset (f : Flags) (inClass : Bool) : Item → Except Cause Charset
  | .literal c byte =>
      if f.unicode || c.toNat < 0x80 then .ok (.single c)
      else if byte then .error .partOfCharacter
      else if inClass then .error .beyondAscii
      else .ok (.single c)
  | .shorthand k negated =>
      if negated && !f.unicode then .error .partOfCharacter
      else .ok ((k.charset f.unicode).outsideIf negated)
  | .property q =>
      if f.unicode then
        match q.charset with
        | .ok s => .ok ((f.fold s).outsideIf q.negated)
        | .error e => .error e
      else .error .beyondAscii
  | .edge _ => .ok .nothing

/-- The characters that a dot takes. -/
def Flags.dot (f : Flags) : Except Cause Charset :=
  if !f.unicode then .error .partOfCharacter
  else if f.dotAll then .ok .all
  else if f.returns then
    .ok (Charset.ofChars [Text.lineFeed, Text.carriageReturn]).compl
  else .ok (Charset.single Text.lineFeed).compl

end Phrasebook.Regex
