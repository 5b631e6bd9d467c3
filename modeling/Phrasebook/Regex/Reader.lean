import Phrasebook.Regex.Bracket
import Phrasebook.Regex.Group
import Phrasebook.Regex.Program
import Phrasebook.Regex.Size

/-!
# Reading regular expressions

`Program.ofText` reads a regular expression and compiles it. The reading keeps a stack of the
groups that are open. A fault of the form of the expression ends the reading; something that the
flags do not allow is a fault only if the form has none. An expression whose machines would be too
large is refused, too.
-/

set_option autoImplicit false

namespace Phrasebook.Regex

/-! ## Sequences and alternatives -/

/-- A part of a sequence. -/
structure Part where
  /-- Where the part starts. -/
  start : Position
  /-- The expression; a change of flags has none, and cannot be repeated. -/
  regex : Option Regex
  /-- Its nesting. -/
  nesting : Nesting

/-- An expression with its nesting. -/
structure Nested where
  /-- The expression. -/
  regex : Regex
  /-- Its nesting. -/
  nesting : Nesting

/-- A sequence that is being read. -/
structure Sequence where
  /-- Where it starts. -/
  start : Position
  /-- Its parts, the last one first. -/
  parts : List Part := []

/-- A sequence that ends at a place. Several parts together are one part around them. -/
def Sequence.close (s : Sequence) (stop : Position) : Nested :=
  let inner := Nesting.row (s.parts.reverse.map Part.nesting)
  { regex := sequence (s.parts.reverse.filterMap Part.regex)
    nesting := if s.parts.length ≤ 1 then inner else inner.within ⟨s.start, stop⟩ }

/-- What is read of a group, or of the whole expression. -/
structure Body where
  /-- Where it starts. -/
  start : Position
  /-- The alternatives that are complete, the last one first. -/
  done : List Nested := []
  /-- The alternative that is being read. -/
  last : Sequence

/-- A body of which nothing is read, at a place. -/
def Body.emptyAt (p : Position) : Body := { start := p, last := { start := p } }

/-- The body after a vertical line from one place to another. -/
def Body.branch (b : Body) (stop next : Position) : Body :=
  { b with done := b.last.close stop :: b.done, last := { start := next } }

/-- The body with one more part. -/
def Body.push (b : Body) (part : Part) : Body :=
  { b with last := { b.last with parts := part :: b.last.parts } }

/-- A body that ends at a place. Several alternatives together are one part around them. -/
def Body.close (b : Body) (stop : Position) : Nested :=
  let all := (b.last.close stop :: b.done).reverse
  let inner := Nesting.row (all.map Nested.nesting)
  { regex := either (all.map Nested.regex)
    nesting := if b.done.isEmpty then inner else inner.within ⟨b.start, stop⟩ }

/-! ## Open groups -/

/-- A group that is open around another one. -/
structure OpenGroup where
  /-- What is read of it. -/
  body : Body
  /-- The flags that are in force in it. -/
  flags : Flags
  /-- The parenthesis that opens the inner group. -/
  opening : Mark
  /-- The number under which matches of the inner group are kept, if they are. -/
  number : Option Nat

/-- The reading of an expression. -/
structure Reading where
  /-- What is left. -/
  cursor : Cursor
  /-- The flags in force. -/
  flags : Flags := {}
  /-- What is read of the innermost open group. -/
  body : Body := .emptyAt {}
  /-- The groups around it, from the inside to the outside. -/
  outer : List OpenGroup := []
  /-- The names of groups. -/
  names : GroupNames := []
  /-- The number of groups so far whose matches are kept. -/
  groups : Nat := 0
  /-- The first thing that the flags do not allow. -/
  complaint : Option Fault := none

/-- The reading after one more part, which starts at the cursor. -/
def Reading.push (r : Reading) (regex : Option Regex) (nesting : Nesting) (later : Cursor) :
    Reading :=
  { r with cursor := later, body := r.body.push ⟨r.cursor.position, regex, nesting⟩ }

/-- The reading after one more set of characters. -/
def Reading.pushSet (r : Reading) (s : Except Cause Charset) (later : Cursor) : Reading :=
  let (s, complaint) := settle r.complaint (later.since r.cursor.position) s
  { r with complaint }.push (some (ofCharset s)) [] later

/-! ## Groups and alternatives -/

/-- The reading after an opening parenthesis. -/
def Reading.open (r : Reading) : Except Fault Reading :=
  match readOpening r.flags r.names r.cursor with
  | .error e => .error e
  | .ok (.flags letters, names, later) =>
      .ok ({ r with flags := r.flags.change letters, names }.push none [] later)
  | .ok (.group letters kept, names, later) =>
      let groups := if kept then r.groups + 1 else r.groups
      let around : OpenGroup :=
        { body := r.body, flags := r.flags, opening := r.cursor.character
          number := if kept then some groups else none }
      .ok { r with
        cursor := later, flags := r.flags.change letters, names, groups
        body := .emptyAt later.position
        outer := around :: r.outer }

/-- The reading after a closing parenthesis. -/
def Reading.close (r : Reading) : Except Fault Reading :=
  match r.outer with
  | [] => fault .groupUnopened r.cursor.character
  | around :: more =>
      let later := r.cursor.bump
      let start := around.opening.start
      let inner := r.body.close r.cursor.position
      let regex := match around.number with
        | some k => .group k inner.regex
        | none => inner.regex
      let part : Part := ⟨start, some regex, inner.nesting.within (later.since start)⟩
      .ok { r with
        cursor := later, flags := around.flags, outer := more
        body := around.body.push part }

/-- The reading after a vertical line. -/
def Reading.branch (r : Reading) : Reading :=
  let later := r.cursor.bump
  { r with cursor := later, body := r.body.branch r.cursor.position later.position }

/-! ## Repetitions -/

/-- The last part of a sequence and its expression, if it can be repeated, and the parts before
it. -/
def Reading.operand (r : Reading) : Except Fault (Part × Regex × List Part) :=
  match r.body.last.parts with
  | part :: before =>
      match part.regex with
      | some regex => .ok (part, regex, before)
      | none => fault .nothingToRepeat r.cursor.here
  | [] => fault .nothingToRepeat r.cursor.here

/-- The reading after the bounds of a repetition, given its operand. A question mark after them
exchanges greedy and lazy repetition. -/
def Reading.repetition (r : Reading) (part : Part) (regex : Regex) (before : List Part)
    (least : Nat) (most : Option Nat) (stop : Cursor) : Reading :=
  let (swapped, later) := match stop.after? ['?'] with
    | some later => (!r.flags.swapped, later)
    | none => (r.flags.swapped, stop)
  let whole : Part :=
    { part with
      regex := some (repeated regex least most !swapped)
      nesting := part.nesting.within (later.since part.start) }
  { r with
    cursor := later
    body := { r.body with last := { r.body.last with parts := whole :: before } } }

/-- The reading after the sign of a repetition. -/
def Reading.signed (r : Reading) (least : Nat) (most : Option Nat) : Except Fault Reading :=
  r.operand.map fun (part, regex, before) =>
    r.repetition part regex before least most r.cursor.bump

/-- The number that digits stand for. -/
def count (digits : Text) (mark : Mark) : Except Fault Nat :=
  let n := digits.foldl (fun n d => n * 10 + hexValue d) 0
  if digits.isEmpty then fault .countEmpty mark
  else if n < 0x100000000 then .ok n
  else fault .decimalInvalid mark

/-- The bounds of a repetition at a cursor, which is after the opening brace at `start`, and the
cursor at the closing brace. -/
def readBounds (verbose : Bool) (start : Position) (c : Cursor) :
    Except Fault (Nat × Option Nat × Cursor) :=
  let (digits, mark, stop) := c.decimal verbose
  match stop.rest with
  | [] => fault .countUnclosed (stop.since start)
  | ',' :: _ =>
      let next := stop.advance verbose
      match next.rest with
      | [] => fault .countUnclosed (next.since start)
      | '\x7d' :: _ => (count digits mark).map fun n => (n, none, next)
      | _ =>
          match count digits mark with
          | .error e => .error e
          | .ok least =>
              let (digits, mark, last) := next.decimal verbose
              (count digits mark).map fun most => (least, some most, last)
  | _ => (count digits mark).map fun n => (n, some n, stop)

/-- The reading after a repetition in braces. -/
def Reading.counted (r : Reading) : Except Fault Reading :=
  match r.operand with
  | .error e => .error e
  | .ok (part, regex, before) =>
      let verbose := r.flags.verbose
      let start := r.cursor.position
      let inner := r.cursor.advance verbose
      if inner.rest.isEmpty then fault .countUnclosed (inner.since start)
      else match readBounds verbose start inner with
        | .error e => .error e
        | .ok (least, most, stop) =>
            if stop.rest.head? ≠ some '\x7d' then fault .countUnclosed (stop.since start)
            else
              let next := r.repetition part regex before least most (stop.advance verbose)
              if most.any fun m => m < least then
                fault .countOrder (next.cursor.since start)
              else .ok next

/-! ## Single items -/

/-- The edge at the start of a text or a line. -/
def Flags.startEdge (f : Flags) : Edge := if f.multiLine then .lineStart f.returns else .textStart

/-- The edge at the end of a text or a line. -/
def Flags.endEdge (f : Flags) : Edge := if f.multiLine then .lineEnd f.returns else .textEnd

/-- The reading after an item. -/
def Reading.item (r : Reading) (item : Item) (later : Cursor) : Reading :=
  match item with
  | .edge e => r.push (some (.edge e)) [] later
  | .literal _ _ => r.pushSet ((item.charset r.flags false).map r.flags.fold) later
  | _ => r.pushSet (item.charset r.flags false) later

/-- The reading after a part that begins with the character `c` at the cursor. -/
def Reading.step (r : Reading) (c : Char) : Except Fault Reading :=
  let later := r.cursor.bump
  match c with
  | '(' => r.open
  | ')' => r.close
  | '|' => .ok r.branch
  | '[' =>
      (readClass r.flags r.complaint r.cursor).map fun found =>
        { r with complaint := found.complaint }.push (some (ofCharset found.set)) found.nesting
          found.cursor
  | '?' => r.signed 0 (some 1)
  | '*' => r.signed 0 none
  | '+' => r.signed 1 none
  | '\x7b' => r.counted
  | '\\' => (readEscape r.flags r.cursor).map fun found => r.item found.1 found.2
  | '.' => .ok (r.pushSet r.flags.dot later)
  | '^' => .ok (r.item (.edge r.flags.startEdge) later)
  | '$' => .ok (r.item (.edge r.flags.endEdge) later)
  | _ => .ok (r.item (.literal c false) later)

/-! ## Reading an expression -/

/-- The expression of a reading at its end. Groups without an end count first, then too much
nesting, and then what the flags do not allow. -/
def Reading.finish (r : Reading) : Except Fault Regex :=
  match r.outer with
  | around :: _ => fault .groupUnclosed around.opening
  | [] =>
      let whole := r.body.close r.cursor.position
      match whole.nesting.tooDeep?, r.complaint with
      | some mark, _ => fault .tooNested mark
      | none, some complaint => .error complaint
      | none, none => .ok whole.regex

/-- Reads the rest of an expression. Every turn takes at least one character, so that as many
turns as there are characters are enough. -/
def readFrom : Nat → Reading → Except Fault Regex
  | 0, r => r.finish
  | turns + 1, r =>
      let r := { r with cursor := r.cursor.skip r.flags.verbose }
      match r.cursor.rest with
      | [] => r.finish
      | c :: _ =>
          match r.step c with
          | .ok next => readFrom turns next
          | .error e => .error e

/-- Reads a regular expression, or says what is wrong with its text. -/
def read (t : Text) : Except Fault Regex := readFrom (t.length + 1) { cursor := ⟨t, {}⟩ }

/-! ## Expressions that can be used -/

/-- Why a text cannot be used as a regular expression. -/
inductive RegexError where
  /-- It is none. -/
  | fault (f : Fault) (pattern : Text)
  /-- Its machines would be too large. -/
  | tooLarge
  deriving DecidableEq, Repr

/-- The wording of an error. -/
def RegexError.message : RegexError → Text
  | .fault f pattern => f.render pattern
  | .tooLarge =>
      "Compiled regex exceeds size limit of ".toList ++ Text.ofNat sizeLimit ++ " bytes.".toList

/-- The program of the regular expression that a text stands for. -/
def Program.ofText (t : Text) : Except RegexError Program :=
  match read t with
  | .error f => .error (.fault f t)
  | .ok r => if r.fits then .ok (compile r) else .error .tooLarge

end Phrasebook.Regex
