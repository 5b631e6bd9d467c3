import Phrasebook.Wildcard.Pattern

/-!
# Matching

For one position of a text there may be many segments that match a pattern. A run takes as many
characters as it can while the rest of the pattern still matches. `reaches` computes, for every
position of a text at once, the length of the match that starts there. It needs one pass over the
positions for each token; a token that stands for one character leaves one position fewer to look
at, so that a long pattern takes few steps in a text that is hardly longer.

`Pattern.search` is the first match from a position on. `Pattern.spans` is the list of all matches
that do not overlap, from left to right; a match that is empty and starts where the match before it
ended is passed over.
-/

set_option autoImplicit false

namespace Phrasebook.Wildcard

/-! ## The length of the match at each position -/

/-- The length of a match, or `none` where nothing matches. -/
abbrev Reach := Option Nat

/-- Whether a token that stands for a single character takes `c`. -/
def Token.takes : Token → Char → Bool
  | .lit d, c => d == c
  | .one, c => c != Text.lineFeed
  | .run, _ => false

/-- The match of a single character that holds `c`, given the match at the next position. -/
def extendSingle (tok : Token) (c : Char) (next : Reach) : Reach :=
  if tok.takes c then next.map (· + 1) else none

/-- The match of a run at a position that holds `c`: one character longer than the match of the
run at the next position, if there is one, and else the match without any character for the run. -/
def extendRun (c : Char) (here : Reach) (next : Reach) : Reach :=
  match next with
  | some n => if c = Text.lineFeed then here else some (n + 1)
  | none => here

/-- Matches that begin with a run; `tails` are the matches of what follows the run. -/
def reachesRun (t : Text) (tails : List Reach) : List Reach :=
  (t.zip tails).foldr
    (fun place later => extendRun place.1 place.2 (later.head?.getD none) :: later)
    (tails.drop t.length)

/-- The length of the match at every position of a text, its end included. Where the list ends
earlier, nothing matches at the positions after it. -/
def reaches : List Token → Text → List Reach
  | [], t => List.replicate (t.length + 1) (some 0)
  | .run :: ts, t => reachesRun t (reaches ts t)
  | tok :: ts, t =>
      match t with
      | [] => []
      | c :: rest => (c :: rest).zipWith (extendSingle tok) (reaches ts rest)

/-- A token with its literal replaced by the representative of its class. -/
def Token.keyed (mode : CaseMode) : Token → Token
  | .lit c => .lit (mode.key c)
  | .one => .one
  | .run => .run

/-- The length of the match of a pattern at every position of a text. -/
def Pattern.reaches (p : Pattern) (t : Text) : List Reach :=
  Wildcard.reaches (p.tokens.map (Token.keyed p.mode)) (t.map p.mode.key)

/-! ## The first match -/

/-- A segment of a text, from the position `start` up to, but without, the position `stop`. -/
structure Span where
  /-- The position of the first character. -/
  start : Nat
  /-- The position after the last character. -/
  stop : Nat
  deriving DecidableEq, Repr

/-- The first match from a position on, given the lengths of the matches from there on. -/
def firstSpan? : (position : Nat) → List Reach → Option Span
  | _, [] => none
  | position, none :: rest => firstSpan? (position + 1) rest
  | position, some length :: _ => some ⟨position, position + length⟩

/-- The first match of a pattern in a text that starts at a position or after it. -/
def Pattern.search (p : Pattern) (t : Text) (start : Nat) : Option Span :=
  firstSpan? start ((p.reaches t).drop start)

/-- Whether a pattern matches somewhere in a text. -/
def Pattern.isMatch (p : Pattern) (t : Text) : Bool := (p.search t 0).isSome

/-! ## All matches -/

/-- Whether a match of length `length` at `position` may follow a match that ended at `last`: it
must not start earlier, and if it starts right there it must not be empty. -/
def mayFollow (last : Option Nat) (position length : Nat) : Bool :=
  match last with
  | none => true
  | some stop => stop < position || (stop == position && 0 < length)

/-- The matches from a position on, given the end of the match before. -/
def spansFrom : (position : Nat) → (last : Option Nat) → List Reach → List Span
  | _, _, [] => []
  | position, last, none :: rest => spansFrom (position + 1) last rest
  | position, last, some length :: rest =>
      if mayFollow last position length then
        ⟨position, position + length⟩ :: spansFrom (position + 1) (some (position + length)) rest
      else spansFrom (position + 1) last rest

/-- All matches of a pattern in a text. -/
def Pattern.spans (p : Pattern) (t : Text) : List Span := spansFrom 0 none (p.reaches t)

/-- A span with its positions counted in bytes. -/
def Span.inBytes (t : Text) (s : Span) : Span :=
  ⟨Text.byteOffset t s.start, Text.byteOffset t s.stop⟩

end Phrasebook.Wildcard
