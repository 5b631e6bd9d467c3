import Phrasebook.Charset.Encoding
import Phrasebook.Regex.Basic

/-!
# The size of expressions

An expression is turned into two machines that go through the bytes of a text, one forwards and
one backwards. `Regex.machineSize` gives the number of bytes that such a machine takes: 32 for a
state, 4 for each of several ways out of a state, and 8 for each interval of bytes of a state that
reads one of several. A repetition with a count is written out. Expressions whose machines would
be too large are refused.
-/

set_option autoImplicit false

namespace Phrasebook.Regex

/-! ## Choices between texts -/

/-- The size of a state that reads a byte of some intervals. -/
def readSize (intervals : Nat) : Nat := if intervals = 1 then 32 else 32 + 8 * intervals

/-- The size of a machine for a choice between byte strings, in order, without its end. Strings
that begin alike share their first states, unless one that is at its end comes between them.
`length` is greater than the length of the strings. -/
def choiceSize : (length : Nat) → List Bytes → Nat
  | 0, _ => 0
  | length + 1, strings =>
      if strings.all List.isEmpty then 0
      else
        let begun := strings.dropWhile List.isEmpty
        let runs := Text.pieces [] begun
        let ends := (if begun.length < strings.length then 1 else 0) + (runs.length - 1)
        let chunks := runs.filter fun run => !run.isEmpty
        let ways := 32 + 4 * (chunks.length + ends)
        chunks.foldl
          (fun n chunk =>
            let firsts := (chunk.filterMap List.head?).eraseDups
            firsts.foldl
              (fun n b =>
                n + choiceSize length
                  ((chunk.filter fun string => string.head? == some b).map List.tail))
              (n + readSize firsts.length))
          ways

/-- The texts of a list of expressions, if all are texts. -/
def texts? (l : List Regex) : Option (List Text) :=
  l.mapM fun r =>
    match r with
    | .literal t => some t
    | _ => none

/-- The size of a machine for a choice between texts. -/
def textChoiceSize (backward : Bool) (ts : List Text) : Nat :=
  let strings := ts.map fun t => if backward then (Text.encode t).reverse else Text.encode t
  32 + choiceSize (strings.foldl (fun n s => Nat.max n s.length) 0 + 1) strings

/-! ## Repetitions -/

/-- The size of a machine for a repetition, given the size for what is repeated, and whether that
takes a character at least. -/
def repetitionSize (size : Nat) (takes : Bool) (least : Nat) (most : Option Nat) : Nat :=
  let exactly := if least = 0 then 32 else least * size
  match most with
  | none =>
      if least = 0 then if takes then size + 40 else size + 112
      else exactly + 40
  | some most =>
      if least = 0 ∧ most = 1 then size + 72
      else if most ≤ least then exactly
      else exactly + 32 + (most - least) * (size + 40)

/-! ## Expressions -/

mutual

/-- The size of a machine for an expression. Only machines that go forwards keep groups. -/
def size (backward : Bool) : Regex → Nat
  | .empty => 32
  | .literal t => 32 * Text.byteLength t
  | .one s => s.machineSize backward
  | .edge _ => 32
  | .seq parts => totalSize backward parts
  | .alt branches =>
      match texts? branches with
      | some ts => textChoiceSize backward ts
      | none => 64 + 4 * branches.length + totalSize backward branches
  | .times r least most _ =>
      repetitionSize (size backward r) (leastLength? r |>.any (0 < ·)) least most
  | .group _ r => size backward r + (if backward then 0 else 64)

/-- The size of machines for several expressions. -/
def totalSize (backward : Bool) : List Regex → Nat
  | [] => 0
  | r :: more => size backward r + totalSize backward more

end

mutual

/-- Whether every match begins at an edge. -/
def startsAt (e : Edge) : Regex → Bool
  | .edge f => e = f
  | .seq parts => someStartsAt e parts
  | .alt branches => allStartAt e branches
  | .times r least _ _ => 0 < least && startsAt e r
  | .group _ r => startsAt e r
  | _ => false

/-- Whether every match of a sequence begins at an edge: if it comes before everything that takes
characters. -/
def someStartsAt (e : Edge) : List Regex → Bool
  | [] => false
  | r :: more => startsAt e r || (greatestLength? r == some 0 && someStartsAt e more)

/-- Whether every match of several expressions begins at an edge. -/
def allStartAt (e : Edge) : List Regex → Bool
  | [] => true
  | r :: more => startsAt e r && allStartAt e more

end

mutual

/-- Whether every match ends at an edge. -/
def endsAt (e : Edge) : Regex → Bool
  | .edge f => e = f
  | .seq parts => (someEndsAt e parts).1
  | .alt branches => allEndAt e branches
  | .times r least _ _ => 0 < least && endsAt e r
  | .group _ r => endsAt e r
  | _ => false

/-- Whether every match of a sequence ends at an edge, and whether the sequence takes no
characters. -/
def someEndsAt (e : Edge) : List Regex → Bool × Bool
  | [] => (false, true)
  | r :: more =>
      let (found, takesNothing) := someEndsAt e more
      (found || (takesNothing && endsAt e r), takesNothing && greatestLength? r == some 0)

/-- Whether every match of several expressions ends at an edge. -/
def allEndAt (e : Edge) : List Regex → Bool
  | [] => true
  | r :: more => endsAt e r && allEndAt e more

end

/-- The size of the whole machine of an expression: the loop that looks for the place of a match,
unless there is just one, the state at which a match is complete, and the groups of the whole
match. -/
def machineSize (backward : Bool) (r : Regex) : Nat :=
  let onePlace := if backward then endsAt .textEnd r else startsAt .textStart r
  (if onePlace then 32 else 112) + size backward r + (if backward then 32 else 96)

/-- The greatest size of a machine: ten mebibytes. -/
def sizeLimit : Nat := 10 * 1024 * 1024

/-- Whether the machines of an expression are small enough. -/
def fits (r : Regex) : Bool :=
  r.machineSize false ≤ sizeLimit && r.machineSize true ≤ sizeLimit

end Phrasebook.Regex
