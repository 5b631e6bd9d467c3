import Phrasebook.Charset.Basic
import Phrasebook.Text.Basic

/-!
# Sets of ASCII characters

The sets of ASCII characters that expressions have names for. `posix` lists those whose names stand
between colons.
-/

set_option autoImplicit false

namespace Phrasebook.Charset

/-- The ASCII characters. -/
def ascii : Charset := interval '\x00' '\x7f'

/-- The decimal digits of ASCII. -/
def asciiDigit : Charset := interval '0' '9'

/-- The letters of ASCII. -/
def asciiLetter : Charset := (interval 'A' 'Z').union (interval 'a' 'z')

/-- The characters of words in ASCII. -/
def asciiWord : Charset := unions [asciiLetter, asciiDigit, single '_']

/-- The white space of ASCII. -/
def asciiBlank : Charset := (interval '\t' '\r').union (single ' ')

/-- The punctuation of ASCII. -/
def asciiPunctuation : Charset :=
  unions [interval '!' '/', interval ':' '@', interval '[' '\x60', interval '\x7b' '~']

/-- The hexadecimal digits of ASCII. -/
def asciiHexDigit : Charset := unions [asciiDigit, interval 'A' 'F', interval 'a' 'f']

/-- The sets of ASCII characters that have names between colons. -/
def posix : List (Text × Charset) :=
  [("alnum".toList, asciiDigit.union asciiLetter),
   ("alpha".toList, asciiLetter),
   ("ascii".toList, ascii),
   ("blank".toList, (single '\t').union (single ' ')),
   ("cntrl".toList, (interval '\x00' '\x1f').union (single '\x7f')),
   ("digit".toList, asciiDigit),
   ("graph".toList, interval '!' '~'),
   ("lower".toList, interval 'a' 'z'),
   ("print".toList, interval ' ' '~'),
   ("punct".toList, asciiPunctuation),
   ("space".toList, asciiBlank),
   ("upper".toList, interval 'A' 'Z'),
   ("word".toList, asciiWord),
   ("xdigit".toList, asciiHexDigit)]

end Phrasebook.Charset
