import Phrasebook.Charset.Named
import Phrasebook.Text.Age
import Phrasebook.Text.ScriptExtension

/-!
# Sets by script and by age

The characters of a script, those that are used in it, and those that a version of Unicode has.
-/

set_option autoImplicit false

namespace Phrasebook

/-! ## Scripts -/

/-- The names of a script. -/
def Text.Script.names (s : Text.Script) : List String :=
  s.code :: s.name ::
    (Text.formerScriptCodes.filter fun former => former.2 == s.code).map Prod.fst

/-- The script with a name that is given loosely. -/
def Text.Script.find? (loose : Text) : Option Text.Script :=
  Text.scripts.find? fun s => isNamed loose s.names

/-- The characters that belong to a script. -/
def Charset.ofScript (s : Text.Script) : Charset := .ofRanges s.ranges

/-- The characters that are used in a script: those of it, unless they are used in several scripts
or in other ones, and those that other scripts share with it. -/
def Charset.usedIn (s : Text.Script) : Charset :=
  let shared := Text.sharedCharacters
  let own := (Charset.ofScript s).difference
    (.ofRanges (shared.flatMap Text.SharedCharacters.ranges))
  own.union (.ofRanges
    ((shared.filter fun group => group.scripts.contains s.code).flatMap
      Text.SharedCharacters.ranges))

/-! ## Ages -/

/-- The names of a version: its number, and the number with an underscore after a `V`. -/
def Text.Version.names (v : Text.Version) : List String :=
  [v.number, "V" ++ String.ofList (v.number.toList.map fun c => if c = '.' then '_' else c)]

/-- The characters that there are in the version with a name that is given loosely: those that came
with it or with an earlier one. -/
def Charset.inVersion? (loose : Text) : Option Charset :=
  let earlier := Text.versions.takeWhile fun v => !isNamed loose v.names
  match Text.versions.drop earlier.length with
  | [] => none
  | v :: _ => some (.ofRanges ((earlier ++ [v]).flatMap Text.Version.added))

end Phrasebook
