import Phrasebook.Regex.Cursor

/-!
# Faults of regular expressions

Why a text is no regular expression: a cause, and the part of the text that is to blame.
`Fault.render` shows the text with carets below that part.
-/

set_option autoImplicit false

namespace Phrasebook.Regex

/-! ## Causes -/

/-- What is wrong with a part of an expression. -/
inductive Cause where
  /-- An escape that a class of characters cannot hold. -/
  | escapeInClass
  /-- A range whose first character comes after its last one. -/
  | rangeOrder
  /-- A range that goes from or to something that is no character. -/
  | rangeBoundary
  /-- A class of characters without an end. -/
  | classUnclosed
  /-- A number that is too large. -/
  | decimalInvalid
  /-- A hexadecimal numeral without digits. -/
  | hexEmpty
  /-- A hexadecimal numeral for no character. -/
  | hexInvalid
  /-- A character that is no hexadecimal digit. -/
  | hexDigit
  /-- An escape without an end. -/
  | escapeEnd
  /-- An escape without a meaning. -/
  | escapeUnknown
  /-- A hyphen after which no flag follows. -/
  | flagDangling
  /-- A flag that is given twice. -/
  | flagRepeated
  /-- A second hyphen among flags. -/
  | flagNegatedTwice
  /-- Flags without an end. -/
  | flagEnd
  /-- A letter that is no flag. -/
  | flagUnknown
  /-- A second group of the same name. -/
  | nameRepeated
  /-- A group with an empty name. -/
  | nameEmpty
  /-- A character that cannot stand in a name. -/
  | nameCharacter
  /-- A name without an end. -/
  | nameEnd
  /-- A group without an end. -/
  | groupUnclosed
  /-- The end of a group that does not begin. -/
  | groupUnopened
  /-- A repetition whose least number is greater than its greatest one. -/
  | countOrder
  /-- A repetition without a number. -/
  | countEmpty
  /-- A counted repetition without an end. -/
  | countUnclosed
  /-- A repetition of nothing. -/
  | nothingToRepeat
  /-- The name of a word edge without an end. -/
  | wordEdgeUnclosed
  /-- A name of no word edge. -/
  | wordEdgeUnknown
  /-- A brace after a word edge at the end of the expression. -/
  | wordEdgeEnd
  /-- A backslash in place of the letter of a property. -/
  | propertyLetter
  /-- A reference to a group. -/
  | backreference
  /-- A condition on the text around a place. -/
  | lookAround
  /-- A property or a character beyond ASCII where only ASCII is allowed. -/
  | beyondAscii
  /-- A set that holds parts of characters. -/
  | partOfCharacter
  /-- A name of no property. -/
  | propertyUnknown
  /-- A value that a property does not take. -/
  | propertyValueUnknown
  /-- Parts within parts too many times. -/
  | tooNested
  deriving DecidableEq, Repr

/-- How many times parts may stand within parts. -/
def nestingLimit : Nat := 250

/-- The wording of a cause. -/
def Cause.message : Cause → Text
  | .escapeInClass => "invalid escape sequence found in character class".toList
  | .rangeOrder => "invalid character class range, the start must be <= the end".toList
  | .rangeBoundary => "invalid range boundary, must be a literal".toList
  | .classUnclosed => "unclosed character class".toList
  | .decimalInvalid => "decimal literal invalid".toList
  | .hexEmpty => "hexadecimal literal empty".toList
  | .hexInvalid => "hexadecimal literal is not a Unicode scalar value".toList
  | .hexDigit => "invalid hexadecimal digit".toList
  | .escapeEnd => "incomplete escape sequence, reached end of pattern prematurely".toList
  | .escapeUnknown => "unrecognized escape sequence".toList
  | .flagDangling => "dangling flag negation operator".toList
  | .flagRepeated => "duplicate flag".toList
  | .flagNegatedTwice => "flag negation operator repeated".toList
  | .flagEnd => "expected flag but got end of regex".toList
  | .flagUnknown => "unrecognized flag".toList
  | .nameRepeated => "duplicate capture group name".toList
  | .nameEmpty => "empty capture group name".toList
  | .nameCharacter => "invalid capture group character".toList
  | .nameEnd => "unclosed capture group name".toList
  | .groupUnclosed => "unclosed group".toList
  | .groupUnopened => "unopened group".toList
  | .countOrder => "invalid repetition count range, the start must be <= the end".toList
  | .countEmpty => "repetition quantifier expects a valid decimal".toList
  | .countUnclosed => "unclosed counted repetition".toList
  | .nothingToRepeat => "repetition operator missing expression".toList
  | .wordEdgeUnclosed =>
      "special word boundary assertion is either unclosed or contains an invalid character".toList
  | .wordEdgeUnknown =>
      "unrecognized special word boundary assertion, ".toList ++
        "valid choices are: start, end, start-half or end-half".toList
  | .wordEdgeEnd =>
      "found either the beginning of a special word boundary or a bounded repetition ".toList ++
        "on a \\b with an opening brace, but no closing brace".toList
  | .propertyLetter => "invalid Unicode character class".toList
  | .backreference => "backreferences are not supported".toList
  | .lookAround =>
      "look-around, including look-ahead and look-behind, is not supported".toList
  | .beyondAscii => "Unicode not allowed here".toList
  | .partOfCharacter => "pattern can match invalid UTF-8".toList
  | .propertyUnknown => "Unicode property not found".toList
  | .propertyValueUnknown => "Unicode property value not found".toList
  | .tooNested =>
      "exceed the maximum number of nested parentheses/brackets (".toList ++
        Text.ofNat nestingLimit ++ ")".toList

/-! ## Faults -/

/-- What is wrong with an expression, and where. -/
structure Fault where
  /-- The cause. -/
  cause : Cause
  /-- The part that is to blame. -/
  mark : Mark
  /-- The part before it that it clashes with. -/
  clash : Option Mark := none
  deriving DecidableEq, Repr

/-- The parts that a fault points at, in order. -/
def Fault.marks (f : Fault) : List Mark := f.clash.toList ++ [f.mark]

/-- Whether a part lies on one line. -/
def Mark.onOneLine (m : Mark) : Bool := m.start.line == m.stop.line

/-! ## Showing faults -/

/-- The carets below parts of a line, given the column up to which the line is filled. A part has
at least one caret. -/
def caretsFrom (column : Nat) : List Mark → Text
  | [] => []
  | m :: more =>
      let width := max 1 (m.stop.column - m.start.column)
      List.replicate (m.start.column - column) ' ' ++ List.replicate width '^' ++
        caretsFrom (max column m.start.column + width) more

/-- A line of an expression under its heading, and the carets below it. -/
def annotate (marks : List Mark) (heading line : Text) (number : Nat) : List Text :=
  let here := marks.filter fun m => m.onOneLine && m.start.line == number
  (heading ++ line) ::
    (if here.isEmpty then [] else [List.replicate heading.length ' ' ++ caretsFrom 1 here])

/-- The number of a line, with blanks before it that make it as wide as `width`. -/
def lineNumber (width number : Nat) : Text :=
  let digits := Text.ofNat number
  List.replicate (width - digits.length) ' ' ++ digits ++ ": ".toList

/-- The remark about a part that goes over several lines. -/
def Mark.remark (m : Mark) : Text :=
  "on line ".toList ++ Text.ofNat m.start.line ++ " (column ".toList ++
    Text.ofNat m.start.column ++ ") through line ".toList ++ Text.ofNat m.stop.line ++
    " (column ".toList ++ Text.ofNat (m.stop.column - 1) ++ ")".toList

/-- The lines of an expression of one line, with carets. -/
def Fault.shortLines (f : Fault) (pattern : Text) : List Text :=
  annotate f.marks "    ".toList pattern 1

/-- The lines of an expression of several lines, with numbers, carets and remarks. -/
def Fault.longLines (f : Fault) (pattern : Text) : List Text :=
  let lines := Text.lines pattern
  let count := lines.length + (if pattern.getLast? = some Text.lineFeed then 1 else 0)
  let width := (Text.ofNat count).length
  let divider : Text := List.replicate 79 '~'
  [divider] ++
    (lines.zipIdx 1).flatMap (fun l => annotate f.marks (lineNumber width l.2) l.1 l.2) ++
    [divider] ++ (f.marks.filter fun m => !m.onOneLine).map Mark.remark

/-- The report of a fault of an expression. -/
def Fault.render (f : Fault) (pattern : Text) : Text :=
  let shown :=
    if pattern.contains Text.lineFeed then f.longLines pattern else f.shortLines pattern
  Text.joinWith [Text.lineFeed]
    (["regex parse error:".toList] ++ shown ++ ["error: ".toList ++ f.cause.message])

end Phrasebook.Regex
