import Phrasebook.Text.Basic

/-!
# Wildcards and their regular expressions

A wildcard is read from left to right: `*` is a run of characters, `?` is one character, a
backslash makes the next character a literal, and every other character is a literal. A backslash
at the very end has nothing to escape and stands for nothing.

`translate` writes a wildcard as a regular expression while it reads it, and keeps only whether a
backslash has just gone by. `readRegex?` is the reader on the other side: it takes the forms that a
`Token` is printed in and nothing else.
-/

set_option autoImplicit false

namespace Phrasebook.Wildcard

/-- What one place of a wildcard stands for. -/
inductive Token where
  /-- Exactly this character. -/
  | lit (c : Char)
  /-- Exactly one character other than a line feed. -/
  | one
  /-- Any number of characters other than line feeds. -/
  | run
  deriving DecidableEq, Repr

/-! ## The regular expressions of tokens -/

/-- The characters that a regular expression takes literally only after a backslash. -/
def metaCharacters : List Char := "\\.+*?()|[]\x7b\x7d^$#&-~".toList

/-- A character that a regular expression takes literally. -/
def escapeLiteral (c : Char) : Text :=
  if c ∈ metaCharacters then ['\\', c] else [c]

/-- The regular expression of a token. -/
def Token.regex : Token → Text
  | .lit c => escapeLiteral c
  | .one => ['.']
  | .run => ['.', '*']

/-- The regular expression of a list of tokens. -/
def regexText (ts : List Token) : Text := ts.flatMap Token.regex

/-! ## The regular expression of a wildcard -/

/-- The regular expression of the rest of a wildcard; `escaping` says whether a backslash has just
been read. -/
def translate : (escaping : Bool) → Text → Text
  | _, [] => []
  | true, c :: rest => escapeLiteral c ++ translate false rest
  | false, c :: rest =>
      if c = '\\' then translate true rest
      else if c = '*' then '.' :: '*' :: translate false rest
      else if c = '?' then '.' :: translate false rest
      else escapeLiteral c ++ translate false rest

/-- The regular expression of a wildcard. -/
def regexOf (wildcard : Text) : Text := translate false wildcard

/-- Whether a backslash is still waiting for its character after a text has been read. -/
def scanState : (escaping : Bool) → Text → Bool
  | escaping, [] => escaping
  | true, _ :: rest => scanState false rest
  | false, c :: rest => scanState (c = '\\') rest

theorem translate_append (escaping : Bool) (a b : Text) :
    translate escaping (a ++ b) = translate escaping a ++ translate (scanState escaping a) b := by
  induction a generalizing escaping with
  | nil => cases escaping <;> simp [translate, scanState]
  | cons c rest ih =>
      cases escaping with
      | true => simp [translate, scanState, ih]
      | false =>
          by_cases h : c = '\\'
          · simp [translate, scanState, h, ih]
          · simp only [List.cons_append, translate, scanState, h, if_false, decide_false]
            split
            · simp [ih]
            · split <;> simp [ih]

/-! ## Reading a regular expression -/

/-- The tokens that a regular expression of the printed language stands for. It is refused if it
holds anything but an escaped metacharacter, `.*`, a `.` that no `*` follows, or a character that
is no metacharacter. -/
def readRegex? : Text → Option (List Token)
  | [] => some []
  | '\\' :: c :: rest =>
      if c ∈ metaCharacters then (readRegex? rest).map (.lit c :: ·) else none
  | '.' :: '*' :: rest => (readRegex? rest).map (.run :: ·)
  | '.' :: rest => (readRegex? rest).map (.one :: ·)
  | c :: rest =>
      if c ∈ metaCharacters then none else (readRegex? rest).map (.lit c :: ·)

end Phrasebook.Wildcard
