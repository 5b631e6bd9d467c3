import Phrasebook.Text.Basic

/-!
# Replacement templates

A replacement is a template in which a dollar sign is special: `$$` is a dollar sign, and `$name`
or a name in braces after a dollar sign refers to a group of the match. A pattern has one group
only, the whole match, which is called zero; every other reference is empty.

`parts` decodes a template once into literal pieces and holes, and `fill` puts a matched text into
the holes. Nothing of the matched text is ever read as a template.
-/

set_option autoImplicit false

namespace Phrasebook.Template

/-- A part of a decoded template. -/
inductive Part where
  /-- Text that is copied. -/
  | literal (t : Text)
  /-- A place that takes the whole match. -/
  | hole
  deriving DecidableEq, Repr

/-! ## References -/

/-- The characters of a name that stands without braces. -/
def isNameCharacter (c : Char) : Bool := c.isAlphanum || c == '_'

/-- Whether a name is a numeral for zero: zeros only, and perhaps a plus sign before them. -/
def namesWholeMatch (name : Text) : Bool :=
  let digits := match name with
    | '+' :: rest => rest
    | _ => name
  !digits.isEmpty && digits.all (· == '0')

/-- The part for a reference: a hole for the whole match, and nothing for any other name. -/
def reference (name : Text) : Part :=
  if namesWholeMatch name then .hole else .literal []

/-- What a dollar sign means with the text after it: a part and the text that it leaves. If the
text begins neither with a second dollar sign nor with a name, the dollar sign is literal. -/
def afterDollar : Text → Part × Text
  | '$' :: rest => (.literal ['$'], rest)
  | '\x7b' :: rest =>
      match Text.splitFirst? ['\x7d'] rest with
      | some (name, later) => (reference name, later)
      | none => (.literal ['$'], '\x7b' :: rest)
  | t =>
      let name := t.takeWhile isNameCharacter
      if name.isEmpty then (.literal ['$'], t)
      else (reference name, t.dropWhile isNameCharacter)

/-- What a dollar sign leaves is no longer than what follows it. -/
theorem length_afterDollar_le (t : Text) : (afterDollar t).2.length ≤ t.length := by
  unfold afterDollar
  split
  · exact Nat.le_succ _
  · next rest =>
      split
      · next h => exact Nat.le_succ_of_le (Text.length_splitFirst?_le h)
      · exact Nat.le_refl _
  · dsimp only
    split
    · exact Nat.le_refl _
    · exact (List.dropWhile_sublist _).length_le

/-! ## Decoding and filling -/

/-- The parts of a template. -/
def parts : Text → List Part
  | [] => []
  | c :: rest =>
      if c = '$' then
        have := length_afterDollar_le rest
        (afterDollar rest).1 :: parts (afterDollar rest).2
      else .literal [c] :: parts rest
  termination_by t => t.length
  decreasing_by all_goals simp; try omega

/-- What a part contributes to the replacement of a matched text. -/
def Part.fill (matched : Text) : Part → Text
  | .literal t => t
  | .hole => matched

/-- The replacement of a matched text. -/
def fill (template matched : Text) : Text := (parts template).flatMap (Part.fill matched)

theorem fill_nil (matched : Text) : fill [] matched = [] := by
  rw [fill, parts]
  rfl

theorem fill_dollar (rest matched : Text) :
    fill ('$' :: rest) matched
      = (afterDollar rest).1.fill matched ++ fill (afterDollar rest).2 matched := by
  rw [fill, parts, if_pos rfl]
  rfl

theorem fill_cons {c : Char} (hc : c ≠ '$') (rest matched : Text) :
    fill (c :: rest) matched = c :: fill rest matched := by
  rw [fill, parts, if_neg hc]
  rfl

end Phrasebook.Template
