/-!
# Text as a list of scalars

A text is the list of its Unicode scalar values. This module holds the cuts that the rest of the
library makes in a text: `splitFirst?` (at the first occurrence of a separator), `pieces` (at every
occurrence of a character), `endedPieces` (after every occurrence of a character), `lines` (at line
feeds, with one carriage return before each removed) and `joinWith`, which puts pieces together
again.
-/

set_option autoImplicit false

namespace Phrasebook

/-- A text: its Unicode scalar values in order. -/
abbrev Text := List Char

namespace Text

/-! ## Characters that end lines -/

/-- The line feed, which ends a line. -/
def lineFeed : Char := '\n'

/-- The carriage return, which may stand before a line feed. -/
def carriageReturn : Char := '\r'

/-! ## Cutting -/

/-- The text before and the text after the first occurrence of `sep`. -/
def splitFirst? (sep : Text) : Text → Option (Text × Text)
  | [] => if sep.isEmpty then some ([], []) else none
  | c :: rest =>
      if sep.isPrefixOf (c :: rest) then some ([], (c :: rest).drop sep.length)
      else (splitFirst? sep rest).map fun halves => (c :: halves.1, halves.2)

/-- What comes after a separator is no longer than the text that holds it. -/
theorem length_splitFirst?_le {sep t before after : Text}
    (h : splitFirst? sep t = some (before, after)) : after.length ≤ t.length := by
  induction t generalizing before after with
  | nil =>
      simp only [splitFirst?] at h
      split at h
      · simp_all
      · simp at h
  | cons c rest ih =>
      simp only [splitFirst?] at h
      split at h
      · simp only [Option.some.injEq, Prod.mk.injEq] at h
        rw [← h.2, List.length_drop]
        exact Nat.sub_le ..
      · simp only [Option.map_eq_some_iff] at h
        obtain ⟨halves, hsplit, heq⟩ := h
        have hle : halves.2.length ≤ rest.length := ih hsplit
        simp only [Prod.mk.injEq] at heq
        rw [← heq.2]
        exact Nat.le_succ_of_le hle

/-- The pieces of a list between the occurrences of `sep`: always at least one piece. -/
def pieces {α : Type} [DecidableEq α] (sep : α) (l : List α) : List (List α) :=
  l.foldr
    (fun c acc =>
      if c = sep then [] :: acc
      else match acc with
        | [] => [[c]]
        | piece :: more => (c :: piece) :: more)
    [[]]

/-- The pieces of a list, each with the `sep` that ends it. Only the last one may come without, and
no piece is empty. -/
def endedPieces {α : Type} [DecidableEq α] (sep : α) (l : List α) : List (List α) :=
  l.foldr
    (fun c acc =>
      if c = sep then [c] :: acc
      else match acc with
        | [] => [[c]]
        | piece :: more => (c :: piece) :: more)
    []

/-- One carriage return at the very end is dropped. -/
def dropReturn (t : Text) : Text :=
  if t.getLast? = some carriageReturn then t.dropLast else t

/-- The lines of a text. A line ends at a line feed, together with one carriage return directly
before it; what follows the last line feed is a line only if it is not empty, and keeps a
carriage return at its end. -/
def lines (t : Text) : List Text :=
  let ps := pieces lineFeed t
  let last := ps.getLast?.getD []
  ps.dropLast.map dropReturn ++ (if last.isEmpty then [] else [last])

/-- Every occurrence of `c` at the end is dropped. -/
def dropTrailing (c : Char) (t : Text) : Text :=
  (t.reverse.dropWhile (· == c)).reverse

/-! ## Joining -/

/-- The pieces in order with `sep` between neighbours. -/
def joinWith (sep : Text) : List Text → Text
  | [] => []
  | [piece] => piece
  | piece :: more => piece ++ sep ++ joinWith sep more

/-- The decimal numeral of a number. -/
def ofNat (n : Nat) : Text := Nat.toDigits 10 n

end Text

end Phrasebook
