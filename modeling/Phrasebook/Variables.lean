import Phrasebook.Text.Basic

/-!
# Variables of the environment

A program finds variables when it starts. Each has a name and a value, and one that is not there
is not set, which is something else than an empty value.
-/

set_option autoImplicit false

namespace Phrasebook

/-- The names of the variables that are set, with their values. -/
abbrev Variables := List (Text × Text)

namespace Variables

/-- The value of a variable, if it is set. -/
def value? (vs : Variables) (name : String) : Option Text := vs.lookup name.toList

/-- Whether a variable is set. -/
def sets (vs : Variables) (name : String) : Bool := (vs.value? name).isSome

/-- Whether a variable is set to a value other than the one given. -/
def differs (vs : Variables) (name value : String) : Bool :=
  (vs.value? name).any fun v => v != value.toList

end Variables

end Phrasebook
