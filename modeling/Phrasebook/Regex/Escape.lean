import Phrasebook.Regex.Item

/-!
# Escapes

A backslash begins an escape: punctuation as itself, a control character by a letter, a character
by its number in hexadecimal digits, a set by a letter or a property, or an edge. `readEscape`
reads one escape, whose first position is always that of the backslash.
-/

set_option autoImplicit false

namespace Phrasebook.Regex

/-- The fault of a cause at a part of an expression. -/
def fault {α : Type} (cause : Cause) (mark : Mark) : Except Fault α := .error ⟨cause, mark, none⟩

/-! ## Characters by number -/

/-- The value of a hexadecimal digit. -/
def hexValue (c : Char) : Nat :=
  if c.isDigit then c.toNat - '0'.toNat else c.toLower.toNat - 'a'.toNat + 10

/-- Whether a character is a hexadecimal digit. -/
def isHex (c : Char) : Bool := c.isDigit || ('a' ≤ c.toLower && c.toLower ≤ 'f')

/-- The character with a hexadecimal number. -/
def hexCharacter? (digits : Text) : Option Char :=
  let n := digits.foldl (fun n d => n * 16 + hexValue d) 0
  if n.isValidChar then some (Char.ofNat n) else none

/-- The number of digits that an escape takes after its letter. -/
def hexWidth? (letter : Char) : Option Nat := [('x', 2), ('u', 4), ('U', 8)].lookup letter

/-- A given number of hexadecimal digits, and the cursor after them. -/
def readHexDigits (verbose : Bool) : Nat → Cursor → Except Fault (Text × Cursor)
  | 0, c => .ok ([], c)
  | n + 1, c =>
      match c.rest with
      | [] => fault .escapeEnd c.here
      | d :: _ =>
          if isHex d then
            match readHexDigits verbose n (c.advance verbose) with
            | .ok (more, later) => .ok (d :: more, later)
            | .error e => .error e
          else fault .hexDigit c.character

/-- A character by its number in a given number of digits. -/
def readHexWidth (verbose : Bool) (width : Nat) (c : Cursor) : Except Fault (Item × Cursor) :=
  match readHexDigits verbose width c with
  | .error e => .error e
  | .ok (digits, later) =>
      match hexCharacter? digits with
      | some x => .ok (.literal x (width == 2), later)
      | none => fault .hexInvalid (later.since c.position)

/-- A character by its number in braces; the cursor is at the opening brace. -/
def readHexBraces (verbose : Bool) (c : Cursor) : Except Fault (Item × Cursor) :=
  let (digits, stop) := (c.advance verbose).gather verbose isHex
  match stop.rest with
  | [] => fault .escapeEnd (stop.since c.position)
  | '\x7d' :: _ =>
      let later := stop.advance verbose
      if digits.isEmpty then fault .hexEmpty (later.since c.position)
      else
        match hexCharacter? digits with
        | some x => .ok (.literal x false, later)
        | none => fault .hexInvalid (stop.since c.bump.position)
  | _ => fault .hexDigit stop.character

/-- A character by its number; the cursor is after the letter of the escape. -/
def readHex (verbose : Bool) (width : Nat) (c : Cursor) : Except Fault (Item × Cursor) :=
  match c.rest with
  | [] => fault .escapeEnd c.here
  | '\x7b' :: _ => readHexBraces verbose c
  | _ => readHexWidth verbose width c

/-! ## Properties -/

/-- A property by a letter or in braces; the cursor is after the letter of the escape. -/
def readProperty (verbose negated : Bool) (c : Cursor) : Except Fault (Item × Cursor) :=
  match c.rest with
  | [] => fault .escapeEnd c.here
  | '\x7b' :: _ =>
      let (name, stop) := (c.advance verbose).gather verbose (· != '\x7d')
      if stop.rest.isEmpty then fault .escapeEnd stop.here
      else .ok (.property (.ofText negated name), stop.bump)
  | '\\' :: _ => fault .propertyLetter c.character
  | letter :: _ => .ok (.property ⟨none, [letter], negated⟩, c.advance verbose)

/-! ## Edges of words -/

/-- The edges of words that have names. -/
def wordEdgeNames : List (Text × WordEdge) :=
  [("start".toList, .start), ("end".toList, .stop), ("start-half".toList, .startHalf),
   ("end-half".toList, .stopHalf)]

/-- Whether a character may stand in the name of an edge. -/
def isWordEdgeLetter (c : Char) : Bool := c.isAlpha || c == '-'

/-- The edge of a word after `\b`, whose backslash is at `start`. A brace with a letter after it
begins the name of an edge; any other brace belongs to a repetition. -/
def readWordEdge (verbose : Bool) (start : Position) (c : Cursor) :
    Except Fault (WordEdge × Cursor) :=
  match c.rest with
  | '\x7b' :: _ =>
      let inner := c.advance verbose
      match inner.rest with
      | [] => fault .wordEdgeEnd (inner.since start)
      | letter :: _ =>
          if !isWordEdgeLetter letter then .ok (.boundary, c)
          else
            let (name, stop) := inner.gather verbose isWordEdgeLetter
            if stop.rest.head? ≠ some '\x7d' then fault .wordEdgeUnclosed (stop.since c.position)
            else
              match wordEdgeNames.lookup name with
              | some e => .ok (e, stop.bump)
              | none => fault .wordEdgeUnknown (stop.since inner.position)
  | _ => .ok (.boundary, c)

/-! ## Escapes of one letter -/

/-- The characters that have a letter. -/
def letterEscapes : List (Char × Char) :=
  [('a', '\x07'), ('f', '\x0c'), ('t', '\t'), ('n', '\n'), ('r', '\r'), ('v', '\x0b')]

/-- The sets that have a letter. -/
def shorthands : List (Char × Item) :=
  [('d', .shorthand .digit false), ('D', .shorthand .digit true),
   ('s', .shorthand .blank false), ('S', .shorthand .blank true),
   ('w', .shorthand .word false), ('W', .shorthand .word true)]

/-- The edges that have a letter or a sign. -/
def edgeEscapes (f : Flags) : List (Char × Edge) :=
  [('A', .textStart), ('z', .textEnd), ('B', f.wordEdge .notBoundary),
   ('<', f.wordEdge .start), ('>', f.wordEdge .stop)]

/-- Whether a backslash before a character gives the character itself: all of ASCII but letters,
digits and angle brackets. -/
def standsForItself (c : Char) : Bool :=
  c.toNat < 0x80 && !c.isAlphanum && c != '<' && c != '>'

/-- The item of an escape of one letter. -/
def letterItem? (f : Flags) (letter : Char) : Option Item :=
  if standsForItself letter then some (.literal letter false)
  else match letterEscapes.lookup letter, shorthands.lookup letter,
      (edgeEscapes f).lookup letter with
    | some c, _, _ => some (.literal c false)
    | none, some item, _ => some item
    | none, none, some e => some (.edge e)
    | none, none, none => none

/-- The escape at a cursor, which stands at its backslash. -/
def readEscape (f : Flags) (c : Cursor) : Except Fault (Item × Cursor) :=
  let start := c.position
  let inner := c.bump
  match inner.rest with
  | [] => fault .escapeEnd (inner.since start)
  | letter :: _ =>
      let later := inner.bump
      if letter.isDigit then fault .backreference (later.since start)
      else match hexWidth? letter with
        | some width => readHex f.verbose width (inner.advance f.verbose)
        | none =>
            if letter = 'p' ∨ letter = 'P' then
              readProperty f.verbose (letter == 'P') (inner.advance f.verbose)
            else if letter = 'b' then
              match readWordEdge f.verbose start later with
              | .ok (e, stop) => .ok (.edge (f.wordEdge e), stop)
              | .error e => .error e
            else match letterItem? f letter with
              | some item => .ok (item, later)
              | none => fault .escapeUnknown (later.since start)

end Phrasebook.Regex
