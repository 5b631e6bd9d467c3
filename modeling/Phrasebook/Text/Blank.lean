import Phrasebook.Text.Basic

/-!
# Blank characters

The characters with the Unicode property `White_Space`, which are more than those that the core
library calls white space, and `trim`, which drops them at both ends of a text.
-/

set_option autoImplicit false

namespace Phrasebook.Text

/-- The code points with the property `White_Space`, as closed intervals. -/
def blankRanges : List (Nat × Nat) :=
  [(0x09, 0x0D), (0x20, 0x20), (0x85, 0x85), (0xA0, 0xA0), (0x1680, 0x1680), (0x2000, 0x200A),
   (0x2028, 0x2029), (0x202F, 0x202F), (0x205F, 0x205F), (0x3000, 0x3000)]

/-- Whether a character has the property `White_Space`. -/
def isBlank (c : Char) : Bool :=
  blankRanges.any fun range => range.1 ≤ c.toNat && c.toNat ≤ range.2

/-- Blank characters at the start are dropped. -/
def trimStart (t : Text) : Text := t.dropWhile isBlank

/-- Blank characters at the end are dropped. -/
def trimEnd (t : Text) : Text := (t.reverse.dropWhile isBlank).reverse

/-- Blank characters at both ends are dropped. -/
def trim (t : Text) : Text := trimEnd (trimStart t)

/-- Whether a text holds blank characters only. -/
def allBlank (t : Text) : Bool := t.all isBlank

end Phrasebook.Text
