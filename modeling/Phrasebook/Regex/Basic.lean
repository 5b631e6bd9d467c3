import Phrasebook.Charset.Ascii
import Phrasebook.Text.Utf8

/-!
# Regular expressions

A regular expression is built from texts, sets of characters and edges, which match between two
characters and take none. The functions that put expressions together keep them in a normal form:
sequences and alternatives are flat, neighbouring texts are one, a choice between characters is a
set, and alternatives that begin alike share their beginning.
-/

set_option autoImplicit false

namespace Phrasebook.Regex

/-! ## Edges -/

/-- A condition on the characters around a place with regard to words. -/
inductive WordEdge where
  /-- A word starts or ends here. -/
  | boundary
  /-- No word starts or ends here. -/
  | notBoundary
  /-- A word starts here. -/
  | start
  /-- A word ends here. -/
  | stop
  /-- No character of a word stands before. -/
  | startHalf
  /-- No character of a word stands after. -/
  | stopHalf
  deriving DecidableEq, Repr

/-- A condition on a place between two characters. -/
inductive Edge where
  /-- The start of the text. -/
  | textStart
  /-- The end of the text. -/
  | textEnd
  /-- The start of a line. If `returns` is set, carriage returns end lines, too. -/
  | lineStart (returns : Bool)
  /-- The end of a line. If `returns` is set, carriage returns end lines, too. -/
  | lineEnd (returns : Bool)
  /-- A place at a word, whose characters are given. -/
  | word (letters : Charset) (e : WordEdge)
  deriving DecidableEq, Repr

/-- Whether a word has a character on one side of a place, and has one on the other side. -/
def WordEdge.holds (before after : Bool) : WordEdge → Bool
  | .boundary => before != after
  | .notBoundary => before == after
  | .start => !before && after
  | .stop => before && !after
  | .startHalf => !before
  | .stopHalf => !after

/-- Whether an edge is at the place between two characters; where there is no character, the text
starts or ends. A carriage return and the line feed after it end one line together. -/
def Edge.holds (before after : Option Char) : Edge → Bool
  | .textStart => before.isNone
  | .textEnd => after.isNone
  | .lineStart false => before.isNone || before == some Text.lineFeed
  | .lineStart true =>
      before.isNone || before == some Text.lineFeed ||
        (before == some Text.carriageReturn && after != some Text.lineFeed)
  | .lineEnd false => after.isNone || after == some Text.lineFeed
  | .lineEnd true =>
      after.isNone || after == some Text.carriageReturn ||
        (after == some Text.lineFeed && before != some Text.carriageReturn)
  | .word letters e => e.holds (before.any letters.contains) (after.any letters.contains)

end Phrasebook.Regex

namespace Phrasebook

/-! ## Expressions -/

/-- A regular expression. -/
inductive Regex where
  /-- The empty text. -/
  | empty
  /-- A text. -/
  | literal (t : Text)
  /-- One character of a set. -/
  | one (s : Charset)
  /-- The empty text at an edge. -/
  | edge (e : Regex.Edge)
  /-- Several matches one after the other. -/
  | seq (parts : List Regex)
  /-- A match of one of several expressions. -/
  | alt (branches : List Regex)
  /-- At least `least` and at most `most` matches one after the other; as many as possible if
  `greedy` is set, and else as few. -/
  | times (r : Regex) (least : Nat) (most : Option Nat) (greedy : Bool)
  /-- A match that is kept under a number. -/
  | group (number : Nat) (r : Regex)
  deriving BEq, Repr

namespace Regex

/-! ## The length of matches -/

mutual

/-- The number of bytes that every match takes, unless there is no match. -/
def leastLength? : Regex → Option Nat
  | .empty => some 0
  | .literal t => some (Text.byteLength t)
  | .one s => s.intervals.head?.map fun i => i.first.utf8Size
  | .edge _ => some 0
  | .seq parts => leastTotal? parts
  | .alt branches => leastOfAll? branches
  | .times r least _ _ => (leastLength? r).map (· * least)
  | .group _ r => leastLength? r

/-- The number of bytes that matches of all expressions of a list take together. -/
def leastTotal? : List Regex → Option Nat
  | [] => some 0
  | r :: more =>
      match leastLength? r, leastTotal? more with
      | some a, some b => some (a + b)
      | _, _ => none

/-- The number of bytes that a match of any expression of a list takes, if all can match. -/
def leastOfAll? : List Regex → Option Nat
  | [] => none
  | [r] => leastLength? r
  | r :: more =>
      match leastLength? r, leastOfAll? more with
      | some a, some b => some (Nat.min a b)
      | _, _ => none

end

mutual

/-- The greatest number of bytes that a match takes, if there is a match and a bound. -/
def greatestLength? : Regex → Option Nat
  | .empty => some 0
  | .literal t => some (Text.byteLength t)
  | .one s => s.intervals.getLast?.map fun i => i.last.utf8Size
  | .edge _ => some 0
  | .seq parts => greatestTotal? parts
  | .alt branches => greatestOfAll? branches
  | .times r _ most _ =>
      match most, greatestLength? r with
      | some n, some a => some (a * n)
      | _, _ => none
  | .group _ r => greatestLength? r

/-- The greatest number of bytes that matches of all expressions of a list take together. -/
def greatestTotal? : List Regex → Option Nat
  | [] => some 0
  | r :: more =>
      match greatestLength? r, greatestTotal? more with
      | some a, some b => some (a + b)
      | _, _ => none

/-- The greatest number of bytes that a match of any expression of a list takes. -/
def greatestOfAll? : List Regex → Option Nat
  | [] => none
  | [r] => greatestLength? r
  | r :: more =>
      match greatestLength? r, greatestOfAll? more with
      | some a, some b => some (Nat.max a b)
      | _, _ => none

end

/-! ## Single characters -/

/-- The expression for one character of a set. -/
def ofCharset (s : Charset) : Regex :=
  match s.only? with
  | some c => .literal [c]
  | none => .one s

/-- The character that an expression is, if it is one. -/
def character? : Regex → Option Char
  | .literal [c] => some c
  | _ => none

/-- The set of which an expression takes one character, if that is all it does. -/
def charset? : Regex → Option Charset
  | .one s => some s
  | _ => none

/-! ## Sequences -/

/-- The parts of an expression as a part of a sequence. -/
def parts : Regex → List Regex
  | .seq l => l
  | .empty => []
  | r => [r]

/-- A sequence with one more part at its start. Texts that meet become one. -/
def prepend : Regex → List Regex → List Regex
  | .literal t, .literal u :: more => .literal (t ++ u) :: more
  | r, more => r :: more

/-- The expression for several things one after the other. -/
def sequence (l : List Regex) : Regex :=
  match (l.flatMap parts).foldr prepend [] with
  | [] => .empty
  | [r] => r
  | parts => .seq parts

/-! ## Alternatives -/

/-- The branches of an expression as a branch of alternatives. -/
def branches : Regex → List Regex
  | .alt l => l
  | r => [r]

/-- The expression for one of several things. Several characters, or several sets, become one
set. -/
def choice (l : List Regex) : Regex :=
  match l with
  | [] => .one .nothing
  | [r] => r
  | _ =>
      match l.mapM character?, l.mapM charset? with
      | some cs, _ => ofCharset (.ofChars cs)
      | none, some sets => ofCharset (.unions sets)
      | none, none => .alt l

/-- How many parts two sequences have in common at the start. -/
def sharedParts (a b : List Regex) : Nat := ((a.zip b).takeWhile fun x => x.1 == x.2).length

/-- The parts that all of some expressions begin with, if all are sequences. -/
def sharedBeginning : List Regex → List Regex
  | .seq a :: more =>
      a.take (more.foldl
        (fun n r =>
          match r with
          | .seq b => Nat.min n (sharedParts a b)
          | _ => 0)
        a.length)
  | _ => []

/-- The expression for one of several things. What all branches begin with is taken out of them,
and then a branch may turn out to be alternatives itself. -/
def either (l : List Regex) : Regex :=
  let l := l.flatMap branches
  match choice l with
  | .alt l =>
      let beginning := sharedBeginning l
      if beginning.isEmpty then .alt l
      else
        let rests := l.map fun r => sequence (r.parts.drop beginning.length)
        sequence (beginning ++ [choice (rests.flatMap branches)])
  | r => r

/-! ## Repetitions -/

/-- The expression for a repetition. What takes no characters need not be repeated more than
once. -/
def repeated (r : Regex) (least : Nat) (most : Option Nat) (greedy : Bool) : Regex :=
  let once := greatestLength? r == some 0
  let least := if once then Nat.min least 1 else least
  let most := if once then some (Nat.min (most.getD 1) 1) else most
  if least = 0 ∧ most = some 0 then .empty
  else if least = 1 ∧ most = some 1 then r
  else .times r least most greedy

end Regex

end Phrasebook
