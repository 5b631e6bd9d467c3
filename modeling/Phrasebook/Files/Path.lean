import Phrasebook.Text.Utf8

/-!
# Paths

A path is kept as it is written: `join` and `parent?` work on its text and normalise nothing that
they do not have to cut. `steps` reads a path as the sequence of steps that lead to the place it
names.
-/

set_option autoImplicit false

namespace Phrasebook

/-- A path as it is written. -/
abbrev Path := Text

namespace Path

/-! ## The text of a path -/

/-- The separator of path components. -/
def separator : Char := '/'

/-- Whether a path starts at the root. -/
def isAbsolute (p : Path) : Bool := p.head? == some separator

/-- The path of `right` as seen from `left`. An absolute right side stands alone, and a separator
is put in only if the left side is not empty and does not end in one. -/
def join (left right : Path) : Path :=
  if isAbsolute right then right
  else if left.isEmpty || left.getLast? == some separator then left ++ right
  else left ++ separator :: right

/-- The length of the part that comes before all components: the first separator of an absolute
path, or a dot component at the very start. -/
def anchorLength : Path → Nat
  | '/' :: _ => 1
  | ['.'] => 1
  | '.' :: '/' :: _ => 1
  | _ => 0

/-- Empty components and dot components at the end are dropped. -/
def dropIdle (components : List Text) : List Text :=
  (components.reverse.dropWhile fun c => c == [] || c == ['.']).reverse

/-- The path without its last component. The root and the empty path have no parent; the parent of
a path of one component is empty. -/
def parent? (p : Path) : Option Path :=
  let anchor := p.take (anchorLength p)
  match dropIdle (Text.pieces separator (p.drop (anchorLength p))) with
  | [] => if anchor = ['.'] then some [] else none
  | c :: more => some (anchor ++ Text.joinWith [separator] (dropIdle (c :: more).dropLast))

/-! ## The steps of a path -/

/-- A step from a directory. -/
inductive Step where
  /-- The directory itself. -/
  | stay
  /-- The directory above. -/
  | up
  /-- The entry of this name. -/
  | down (name : Text)
  deriving DecidableEq, Repr

/-- The step that a component stands for. -/
def Step.ofComponent (c : Text) : Step :=
  if c = ['.'] then .stay else if c = ['.', '.'] then .up else .down c

/-- The steps of a path. Empty components are no steps, but a separator at the end asks for a
directory, as one more step to the directory itself does. -/
def steps (p : Path) : List Step :=
  let components := (Text.pieces separator p).filter fun c => !c.isEmpty
  components.map Step.ofComponent ++ (if p.getLast? = some separator then [.stay] else [])

/-- The greatest number of bytes of a path. -/
def maxLength : Nat := 4095

/-- The greatest number of bytes of a name. -/
def maxNameLength : Nat := 255

/-- Whether a path can name anything: it is not empty, holds no null character, and is not too
long. -/
def isUsable (p : Path) : Bool :=
  !p.isEmpty && !p.contains '\x00' && Text.byteLength p ≤ maxLength

end Path

end Phrasebook
