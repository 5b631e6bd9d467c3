import Phrasebook.Regex.Basic

/-!
# Matching programs

An expression is compiled to a program, which is a list of instructions: after an instruction
comes the next one, unless it says otherwise, and the end of the program is a match. A text holds
a match if one of the runs of the program that begin at its places comes to the end. All runs go
through the text together: `Program.advance` follows the instructions that take no character, and
meets each of them at most once at a place.
-/

set_option autoImplicit false

namespace Phrasebook.Regex

/-! ## Programs -/

/-- One step of a program. -/
inductive Instruction where
  /-- Takes a character of a set. -/
  | take (s : Charset)
  /-- Goes on at an edge only. -/
  | check (e : Edge)
  /-- Goes on at either of two places. -/
  | fork (a b : Nat)
  /-- Goes on at a place. -/
  | jump (a : Nat)
  deriving DecidableEq, Repr

/-- A list of instructions. The places that they name are counted from its start. -/
structure Program where
  /-- The instructions. -/
  code : Array Instruction := #[]
  deriving DecidableEq, Repr

namespace Program

/-- The place after the last instruction. -/
def size (p : Program) : Nat := p.code.size

/-- A program with one more instruction. -/
def push (p : Program) (i : Instruction) : Program := ⟨p.code.push i⟩

/-- A program with another instruction at a place. -/
def replace (p : Program) (k : Nat) (i : Instruction) : Program := ⟨p.code.setIfInBounds k i⟩

/-- A program with one more part that may be passed over and may be taken again. -/
def repeating (part : Program → Program) (p : Program) : Program :=
  let k := p.size
  let q := (part (p.push (.jump k))).push (.jump k)
  let stop := q.size
  q.replace k (.fork (k + 1) stop)

/-- A program with a part several times. -/
def copies (part : Program → Program) : Nat → Program → Program
  | 0, p => p
  | n + 1, p => copies part n (part p)

/-- A program with a part several times, and before each one a place for a fork. These places are
added to `forks`. -/
def copiesAfterForks (part : Program → Program) :
    Nat → Program → (forks : List Nat) → Program × List Nat
  | 0, p, forks => (p, forks)
  | n + 1, p, forks =>
      let k := p.size
      copiesAfterForks part n (part (p.push (.jump k))) (k :: forks)

/-- A program with a part at most several times. Before each time the others may be passed over. -/
def atMost (part : Program → Program) (n : Nat) (p : Program) : Program :=
  let (q, forks) := copiesAfterForks part n p []
  let stop := q.size
  forks.foldl (fun q k => q.replace k (.fork (k + 1) stop)) q

end Program

mutual

/-- A program with the instructions for an expression at its end. -/
def compileAt : Regex → Program → Program
  | .empty, p => p
  | .literal t, p => t.foldl (fun p c => p.push (.take (.single c))) p
  | .one s, p => p.push (.take s)
  | .edge e, p => p.push (.check e)
  | .seq parts, p => compileAll parts p
  | .alt branches, p =>
      let (q, ends) := compileBranches branches p []
      let q := q.push (.take .nothing)
      let stop := q.size
      ends.foldl (fun q k => q.replace k (.jump stop)) q
  | .times r least most _, p =>
      let p := Program.copies (compileAt r) least p
      match most with
      | none => Program.repeating (compileAt r) p
      | some most => Program.atMost (compileAt r) (most - least) p
  | .group _ r, p => compileAt r p

/-- A program with the instructions for several expressions one after the other at its end. -/
def compileAll : List Regex → Program → Program
  | [], p => p
  | r :: more, p => compileAll more (compileAt r p)

/-- A program with the instructions for several expressions, of which one is chosen. Before each
one is a fork to the next one, and after each one a place for a jump, which is added to `ends`. -/
def compileBranches : List Regex → Program → (ends : List Nat) → Program × List Nat
  | [], p, ends => (p, ends)
  | r :: more, p, ends =>
      let k := p.size
      let q := compileAt r (p.push (.jump k))
      let stop := q.size
      let q := (q.push (.jump stop)).replace k (.fork (k + 1) (stop + 1))
      compileBranches more q (stop :: ends)

end

/-- The program of an expression. -/
def compile (r : Regex) : Program := compileAt r {}

/-! ## Runs -/

namespace Program

/-- The runs of a program at a place of a text. -/
structure Runs where
  /-- The instructions at which runs wait for a character. -/
  waiting : List Nat := []
  /-- For every instruction the number of the last place at which a run met it. -/
  met : Array Nat
  /-- Whether a run came to the end. -/
  matched : Bool := false

/-- Follows the instructions of `pending` runs that take no character, at the place with number
`place` between two characters. Every turn takes a run; an instruction is followed once at a place
and makes at most two new ones, so that two turns for every instruction and one for every run that
is pending at first are enough. -/
def advance (p : Program) (place : Nat) (before after : Option Char) :
    (turns : Nat) → (pending : List Nat) → Runs → Runs
  | 0, _, runs => runs
  | _, [], runs => runs
  | turns + 1, k :: pending, runs =>
      match p.code[k]? with
      | none => { runs with matched := true }
      | some instruction =>
          if runs.met.getD k 0 = place then advance p place before after turns pending runs
          else
            let { waiting, met, matched } := runs
            let met := met.setIfInBounds k place
            match instruction with
            | .take _ =>
                advance p place before after turns pending ⟨k :: waiting, met, matched⟩
            | .check e =>
                let pending := if e.holds before after then (k + 1) :: pending else pending
                advance p place before after turns pending ⟨waiting, met, matched⟩
            | .fork a b =>
                advance p place before after turns (a :: b :: pending) ⟨waiting, met, matched⟩
            | .jump a =>
                advance p place before after turns (a :: pending) ⟨waiting, met, matched⟩

/-- The place after an instruction, if it takes a character. -/
def takes? (p : Program) (c : Char) (k : Nat) : Option Nat :=
  match p.code[k]? with
  | some (.take s) => if s.contains c then some (k + 1) else none
  | _ => none

/-- Whether one of the `pending` runs, or one that begins at a later place, comes to the end in the
rest of a text. Places have numbers greater than zero. -/
def holdsFrom (p : Program) (place : Nat) (met : Array Nat) (before : Option Char)
    (pending : List Nat) : Text → Bool
  | [] =>
      (p.advance place before none (pending.length + 2 * p.size + 1) (0 :: pending)
        { met }).matched
  | c :: rest =>
      let turns := pending.length + 2 * p.size + 1
      let runs := p.advance place before (some c) turns (0 :: pending) { met }
      if runs.matched then true
      else
        holdsFrom p (place + 1) runs.met (some c) (runs.waiting.filterMap (p.takes? c)) rest

/-- Whether a text holds a match of a program. -/
def isMatch (p : Program) (t : Text) : Bool :=
  p.holdsFrom 1 (Array.replicate p.size 0) none [] t

end Program

end Phrasebook.Regex
