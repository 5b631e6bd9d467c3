import Phrasebook.Regex.Escape

/-!
# Opening groups

A parenthesis opens a group, which may have a name or flags of its own, or else it holds nothing
but flags, which are in force as far as the end of the group around it. `readOpening` reads what
follows a parenthesis.
-/

set_option autoImplicit false

namespace Phrasebook.Regex

/-! ## Names -/

/-- The names of groups, each with the part at which it stands. -/
abbrev GroupNames := List (Text × Mark)

/-- Whether a character may begin the name of a group. -/
def beginsName (c : Char) : Bool := c == '_' || Charset.alphabetic.contains c

/-- Whether a character may stand in the name of a group. -/
def standsInName (c : Char) : Bool :=
  beginsName c || c == '.' || c == '[' || c == ']' || Charset.numeric.contains c

/-- The name of a group at a cursor, which an angle bracket ends, added to the names before it. -/
def readName (names : GroupNames) (c : Cursor) : Except Fault (GroupNames × Cursor) :=
  let (name, stop) := c.gather false standsInName
  let begins := match c.rest with
    | x :: _ => x == '>' || beginsName x
    | [] => true
  if !begins then fault .nameCharacter c.character
  else match stop.rest with
    | [] => fault .nameEnd stop.here
    | '>' :: _ =>
        let mark := stop.since c.position
        if name.isEmpty then fault .nameEmpty c.here
        else match names.lookup name with
          | some earlier => .error ⟨.nameRepeated, mark, some earlier⟩
          | none => .ok ((name, mark) :: names, stop.bump)
    | _ => fault .nameCharacter stop.character

/-! ## Flags -/

/-- The letters of flags at the start of a text, with the hyphen after which flags are cleared, as
far as the colon or the parenthesis that ends them. `seen` are those before, the last one first. -/
def readFlagsFrom (seen : List (Char × Mark)) : Text → Position →
    Except Fault (List Char × Cursor)
  | [], p => fault .flagEnd ⟨p, p⟩
  | c :: rest, p =>
      let mark : Mark := ⟨p, p.past c⟩
      if c = ':' ∨ c = ')' then
        match seen with
        | ('-', hyphen) :: _ => fault .flagDangling hyphen
        | _ => .ok (seen.reverse.map Prod.fst, ⟨c :: rest, p⟩)
      else if c ≠ '-' ∧ !flagLetters.contains c then fault .flagUnknown mark
      else match seen.lookup c with
        | some earlier =>
            .error ⟨if c = '-' then .flagNegatedTwice else .flagRepeated, mark, some earlier⟩
        | none => readFlagsFrom ((c, mark) :: seen) rest (p.past c)

/-! ## Openings -/

/-- What a parenthesis begins. -/
inductive Opening where
  /-- A group. It has the flags that are in force, changed as letters say. Its matches are kept if
  `kept` is set. -/
  | group (letters : List Char) (kept : Bool)
  /-- Nothing: the flags in force are changed as letters say. -/
  | flags (letters : List Char)
  deriving DecidableEq, Repr

/-- The beginnings of groups that are conditions on the text around them. -/
def lookArounds : List Text := ["?=".toList, "?!".toList, "?<=".toList, "?<!".toList]

/-- What is left after one of several texts, if one of them stands at a cursor. -/
def Cursor.afterSome? (ts : List Text) (c : Cursor) : Option Cursor :=
  ts.findSome? fun t => c.after? t

/-- What follows a parenthesis with a question mark after it. The cursor is after the question
mark, which is at `question`; the parenthesis is `opening`. -/
def readFlagged (opening question : Mark) (c : Cursor) : Except Fault (Opening × Cursor) :=
  if c.rest.isEmpty then fault .groupUnclosed opening
  else
    match readFlagsFrom [] c.rest c.position with
    | .error e => .error e
    | .ok (letters, stop) =>
        if stop.rest.head? ≠ some ')' then .ok (.group letters false, stop.bump)
        else if letters.isEmpty then fault .nothingToRepeat question
        else .ok (.flags letters, stop.bump)

/-- What follows the parenthesis at a cursor. -/
def readOpening (f : Flags) (names : GroupNames) (c : Cursor) :
    Except Fault (Opening × GroupNames × Cursor) :=
  let opening := c.character
  let inner := c.advance f.verbose
  match inner.afterSome? lookArounds with
  | some later => fault .lookAround (later.since c.position)
  | none =>
      match inner.afterSome? ["?P<".toList, "?<".toList], inner.after? ['?'] with
      | some later, _ =>
          (readName names later).map fun named => (.group [] true, named.1, named.2)
      | none, some later =>
          (readFlagged opening inner.here later).map fun opened => (opened.1, names, opened.2)
      | none, none => .ok (.group [] true, names, inner)

end Phrasebook.Regex
