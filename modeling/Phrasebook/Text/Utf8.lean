import Phrasebook.Text.Basic

/-!
# UTF-8

`encode` writes a text as bytes. `units` reads bytes as a sequence of scalars and malformed
places: it is a machine that takes one byte at a time, and a malformed place is the longest start
of a scalar's encoding that the next byte, or the end of input, cuts short, or else a single byte
that starts no encoding. The two readers are views of that sequence: `decode?` refuses malformed
places, and `decodeLossy` puts the replacement character U+FFFD for each.
-/

set_option autoImplicit false

namespace Phrasebook

/-- A sequence of bytes, as a file or a stream holds it. -/
abbrev Bytes := List UInt8

namespace Text

/-! ## Writing -/

/-- The byte of a line feed. -/
def lineFeedByte : UInt8 := 10

/-- The bytes of a text. -/
def encode (t : Text) : Bytes := t.flatMap String.utf8EncodeChar

/-- The number of bytes of a text. -/
def byteLength (t : Text) : Nat := t.foldl (fun n c => n + c.utf8Size) 0

/-- The byte position at which the scalar with index `i` starts. -/
def byteOffset (t : Text) (i : Nat) : Nat := byteLength (t.take i)

/-! ## Reading, one byte at a time -/

/-- A scalar's encoding that has begun: the bits read so far, how many bytes are owed after the
next one, and the least and greatest value of the next one. -/
structure Begun where
  /-- The bits read so far. -/
  bits : Nat
  /-- The bytes still owed after the next one. -/
  owed : Nat
  /-- The least value of the next byte. -/
  low : Nat
  /-- The greatest value of the next byte. -/
  high : Nat
  deriving DecidableEq, Repr

/-- What the reader knows between two bytes: nothing is open, or an encoding has begun. -/
abbrev Reading := Option Begun

/-- A scalar that was read, or `none` for a malformed place. -/
abbrev Decoded := Option Char

/-- The first byte of an encoding: a scalar of one byte, the beginning of a longer one, or a byte
with which no encoding begins. The limits of the second byte leave out overlong forms, surrogates
and values above U+10FFFF. -/
def readFirst (b : Nat) : List Decoded × Reading :=
  if b ≤ 0x7F then ([some (Char.ofNat b)], none)
  else if 0xC2 ≤ b ∧ b ≤ 0xDF then ([], some ⟨b - 0xC0, 0, 0x80, 0xBF⟩)
  else if b = 0xE0 then ([], some ⟨0, 1, 0xA0, 0xBF⟩)
  else if b = 0xED then ([], some ⟨0xD, 1, 0x80, 0x9F⟩)
  else if 0xE1 ≤ b ∧ b ≤ 0xEF then ([], some ⟨b - 0xE0, 1, 0x80, 0xBF⟩)
  else if b = 0xF0 then ([], some ⟨0, 2, 0x90, 0xBF⟩)
  else if 0xF1 ≤ b ∧ b ≤ 0xF3 then ([], some ⟨b - 0xF0, 2, 0x80, 0xBF⟩)
  else if b = 0xF4 then ([], some ⟨4, 2, 0x80, 0x8F⟩)
  else ([none], none)

/-- One byte: what is now complete, and what the reader knows after it. A byte that an open
encoding cannot take closes it as a malformed place and is then read as a first byte. -/
def readByte : Reading → Nat → List Decoded × Reading
  | none, b => readFirst b
  | some s, b =>
      if s.low ≤ b ∧ b ≤ s.high then
        let bits := s.bits * 64 + (b - 0x80)
        match s.owed with
        | 0 => ([some (Char.ofNat bits)], none)
        | owed + 1 => ([], some ⟨bits, owed, 0x80, 0xBF⟩)
      else
        let next := readFirst b
        (none :: next.1, next.2)

/-- The end of input: an open encoding is a malformed place. -/
def readEnd : Reading → List Decoded
  | none => []
  | some _ => [none]

/-- The scalars and malformed places of a sequence of bytes, from a given reading on. -/
def unitsFrom : Reading → Bytes → List Decoded
  | r, [] => readEnd r
  | r, b :: rest =>
      let step := readByte r b.toNat
      step.1 ++ unitsFrom step.2 rest

/-- The scalars and malformed places of a sequence of bytes. -/
def units (bytes : Bytes) : List Decoded := unitsFrom none bytes

/-! ## The two readers -/

/-- The text that the bytes encode, if no place is malformed. -/
def decode? (bytes : Bytes) : Option Text := (units bytes).mapM id

/-- The replacement character, which stands for a malformed place. -/
def replacementCharacter : Char := Char.ofNat 0xFFFD

/-- The text that the bytes encode, with a replacement character for each malformed place. -/
def decodeLossy (bytes : Bytes) : Text :=
  (units bytes).map fun u => u.getD replacementCharacter

end Text

end Phrasebook
