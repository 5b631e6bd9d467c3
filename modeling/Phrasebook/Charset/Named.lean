import Phrasebook.Charset.Basic
import Phrasebook.Text.Basic

/-!
# Sets with names

A set may have several names. They are compared loosely: case, blanks, hyphens, underscores, `is`
at the start and whatever is not ASCII do not count.
-/

set_option autoImplicit false

namespace Phrasebook

/-! ## Loose names -/

/-- What counts of a name. Nothing but `c` after `is` is taken as it stands. -/
def looseName (name : Text) : Text :=
  let small := name.map Char.toLower
  let bare := if "is".toList.isPrefixOf small then small.drop 2 else small
  let kept := bare.filter fun c => c.toNat < 0x80 && c != ' ' && c != '_' && c != '-'
  if kept = ['c'] ∧ bare.length < small.length then "isc".toList else kept

/-- Whether one of several names is the one that is meant, which is given loosely. -/
def isNamed (loose : Text) (names : List String) : Bool :=
  names.any fun name => looseName name.toList == loose

/-! ## Named sets -/

/-- A set of characters that has names. -/
structure NamedSet where
  /-- The names. -/
  names : List String
  /-- The set. -/
  members : Charset

/-- The set with a name that is given loosely. -/
def NamedSet.find? (sets : List NamedSet) (loose : Text) : Option Charset :=
  (sets.find? fun s => isNamed loose s.names).map NamedSet.members

end Phrasebook
