import Phrasebook.Text.Blank

/-!
# Cursors

A cursor is what is left of a regular expression that is being read, together with the position of
its first character. In a verbose expression blanks and comments may stand between the characters
of most parts; `Cursor.skip` passes over them, and `Cursor.gather` reads a word with them inside.
-/

set_option autoImplicit false

namespace Phrasebook.Regex

/-! ## Positions and marks -/

/-- The position of a character: its line and its column, both counted from one. -/
structure Position where
  /-- The line. -/
  line : Nat := 1
  /-- The column. -/
  column : Nat := 1
  deriving DecidableEq, Repr

/-- The position after a character. -/
def Position.past (p : Position) (c : Char) : Position :=
  if c = Text.lineFeed then ⟨p.line + 1, 1⟩ else ⟨p.line, p.column + 1⟩

/-- Whether a position comes no later than another. -/
def Position.atMost (p q : Position) : Bool :=
  p.line < q.line || (p.line == q.line && p.column ≤ q.column)

/-- A part of an expression, from its first position to the position after it. -/
structure Mark where
  /-- The first position. -/
  start : Position
  /-- The position after the part. -/
  stop : Position
  deriving DecidableEq, Repr

/-! ## Cursors -/

/-- What is left of an expression. -/
structure Cursor where
  /-- The characters that are left. -/
  rest : Text
  /-- The position of the first of them. -/
  position : Position := {}
  deriving DecidableEq, Repr

/-- The cursor after one character. -/
def Cursor.bump (c : Cursor) : Cursor :=
  match c.rest with
  | [] => c
  | x :: rest => ⟨rest, c.position.past x⟩

/-- The cursor after several characters. -/
def Cursor.bumpBy : Nat → Cursor → Cursor
  | 0, c => c
  | n + 1, c => Cursor.bumpBy n c.bump

/-- The empty part at a cursor. -/
def Cursor.here (c : Cursor) : Mark := ⟨c.position, c.position⟩

/-- The part that holds the character at a cursor. -/
def Cursor.character (c : Cursor) : Mark := ⟨c.position, c.bump.position⟩

/-- The part from a position to a cursor. -/
def Cursor.since (c : Cursor) (start : Position) : Mark := ⟨start, c.position⟩

/-- The cursor after a text, if that is what stands at the cursor. -/
def Cursor.after? (t : Text) (c : Cursor) : Option Cursor :=
  if t.isPrefixOf c.rest then some (c.bumpBy t.length) else none

/-! ## Blanks and comments -/

/-- The cursor after blanks and comments. A comment goes from a number sign to the end of its
line. -/
def skipBlanks : (inComment : Bool) → Text → Position → Cursor
  | _, [], p => ⟨[], p⟩
  | true, c :: rest, p => skipBlanks (c != Text.lineFeed) rest (p.past c)
  | false, c :: rest, p =>
      if Text.isBlank c || c == '#' then skipBlanks (c == '#') rest (p.past c)
      else ⟨c :: rest, p⟩

/-- The cursor after the blanks and comments of a verbose expression. -/
def Cursor.skip (verbose : Bool) (c : Cursor) : Cursor :=
  if verbose then skipBlanks false c.rest c.position else c

/-- The cursor at the next character that counts. -/
def Cursor.advance (verbose : Bool) (c : Cursor) : Cursor := c.bump.skip verbose

/-- The first character of a text that is neither blank nor a number sign. A second number sign
counts as well. -/
def glanceFrom : (seenSign : Bool) → Text → Option Char
  | _, [] => none
  | seenSign, c :: rest =>
      if Text.isBlank c then glanceFrom seenSign rest
      else if !seenSign && c == '#' then glanceFrom true rest
      else some c

/-- The character that comes next after the one at a cursor. A verbose expression is searched for
it beyond blanks and a number sign, and thus within a comment; if there is nothing but these, the
very next one is meant. -/
def Cursor.glance (verbose : Bool) (c : Cursor) : Option Char :=
  let rest := c.rest.drop 1
  if verbose then (glanceFrom false rest).or rest.head? else rest.head?

/-! ## Words -/

/-- The characters of a class at the start of a text, and the cursor after them. Blanks and
comments between them are passed over if the expression is verbose. -/
def gatherFrom (verbose : Bool) (keep : Char → Bool) :
    (inComment : Bool) → Text → Position → Text × Cursor
  | _, [], p => ([], ⟨[], p⟩)
  | true, c :: rest, p => gatherFrom verbose keep (c != Text.lineFeed) rest (p.past c)
  | false, c :: rest, p =>
      if verbose && (Text.isBlank c || c == '#') then
        gatherFrom verbose keep (c == '#') rest (p.past c)
      else if keep c then
        let (word, later) := gatherFrom verbose keep false rest (p.past c)
        (c :: word, later)
      else ([], ⟨c :: rest, p⟩)

/-- The characters of a class at a cursor, and the cursor after them. -/
def Cursor.gather (verbose : Bool) (keep : Char → Bool) (c : Cursor) : Text × Cursor :=
  gatherFrom verbose keep false c.rest c.position

/-- A number in decimal digits at a cursor, and the cursor after it; a numeral without digits is
empty. Blanks may stand around the digits. -/
def Cursor.decimal (verbose : Bool) (c : Cursor) : Text × Mark × Cursor :=
  let start := (c.gather false Text.isBlank).2
  let (digits, stop) := start.gather verbose Char.isDigit
  (digits, stop.since start.position, ((stop.gather false Text.isBlank).2).skip verbose)

end Phrasebook.Regex
