import Phrasebook.Text.Utf8

/-!
# Control sequences

A text that is shown on a terminal may hold sequences that steer the terminal: an escape character
with a letter, a control sequence with parameters, a device control string, an operating system
command. `plain` is what is left of a text when all of them are taken out, together with every
control character that is no white space. `Place.next` says what a character of a sequence leads
to, and `Place.shows` which characters stay.
-/

set_option autoImplicit false

namespace Phrasebook.Text

/-! ## Places in a sequence -/

/-- Where a reader of control sequences stands. -/
inductive Place where
  /-- Outside every sequence. -/
  | ground
  /-- After an escape character. -/
  | escape
  /-- After an escape character and intermediate characters. -/
  | escapeIntermediate
  /-- In a control sequence. -/
  | control
  /-- At the start of a device control string. -/
  | deviceStart
  /-- In the parameters of a device control string. -/
  | deviceParameter
  /-- After the intermediate characters of a device control string. -/
  | deviceIntermediate
  /-- In the data of a device control string, or in a string that is passed over. -/
  | string
  /-- In an operating system command. -/
  | command
  deriving DecidableEq, Repr

/-- Whether a number lies in a closed interval. -/
def within (low high n : Nat) : Bool := low ≤ n && n ≤ high

/-- Whether the encoding of a character holds the byte that ends a string. -/
def holdsTerminator (c : Char) : Bool := 0x7F < c.toNat && (encode [c]).contains 0x9C

/-- The place after an escape character and a character with the code `n`. -/
def afterEscape (n : Nat) : Place :=
  if within 0x20 0x2F n then .escapeIntermediate
  else if n = '['.toNat then .control
  else if n = ']'.toNat then .command
  else if n = 'P'.toNat then .deviceStart
  else if n = 'X'.toNat ∨ n = '^'.toNat ∨ n = '_'.toNat then .string
  else if within 0x30 0x7E n then .ground
  else .escape

/-- The place after a character, where no character that ends or begins a sequence everywhere is
concerned. -/
def Place.inside (p : Place) (c : Char) : Place :=
  let n := c.toNat
  match p with
  | .ground => .ground
  | .escape => afterEscape n
  | .escapeIntermediate => if within 0x30 0x7E n then .ground else p
  | .control => if within 0x40 0x7E n then .ground else p
  | .deviceStart =>
      if within 0x20 0x2F n then .deviceIntermediate
      else if within 0x30 0x3F n then .deviceParameter
      else if within 0x40 0x7E n then .string
      else p
  | .deviceParameter =>
      if within 0x20 0x2F n then .deviceIntermediate
      else if within 0x3C 0x3F n || within 0x40 0x7E n then .string
      else p
  | .deviceIntermediate => if within 0x30 0x7E n then .string else p
  | .string => if holdsTerminator c then .ground else p
  | .command => if n = 0x07 then .ground else p

/-- The place after a character. The characters CAN and SUB end every sequence, and the escape
character begins a new one. -/
def Place.next (p : Place) (c : Char) : Place :=
  if c.toNat = 0x18 ∨ c.toNat = 0x1A then .ground
  else if c.toNat = 0x1B then .escape
  else p.inside c

/-! ## What stays -/

/-- The control characters that are white space on a terminal. -/
def isLayout (c : Char) : Bool := c == '\t' || c == '\n' || c == '\x0c' || c == '\r'

/-- Whether a character stays. Outside of sequences that is every character but the controls;
within a sequence up to its parameters it is white space, and within strings nothing. -/
def Place.shows (p : Place) (c : Char) : Bool :=
  match p with
  | .ground => isLayout c || (0x20 ≤ c.toNat && c.toNat != 0x7F)
  | .escape | .escapeIntermediate | .control => isLayout c
  | _ => false

/-- What stays of a text from a place on. After a character that stayed, the reader is `flowing`:
it goes on as outside of sequences until a character does not stay, and takes the sequence up again
only then; a character beyond ASCII ends the sequence for good. -/
def plainFrom : (p : Place) → (flowing : Bool) → Text → Text
  | _, _, [] => []
  | p, flowing, c :: rest =>
      if (if flowing then Place.ground else p).shows c then
        c :: plainFrom (if c.toNat < 0x80 then p else .ground) true rest
      else plainFrom (p.next c) false rest

/-- What stays of a text when control sequences and control characters are taken out. -/
def plain (t : Text) : Text := plainFrom .ground false t

end Phrasebook.Text
