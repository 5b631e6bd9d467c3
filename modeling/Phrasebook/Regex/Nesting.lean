import Phrasebook.Regex.Fault

/-!
# Nesting

Groups, classes, repetitions, alternatives and sequences of several parts stand within each other.
A `Nesting` tells how deep: it lists, for every depth, the first part of an expression that stands
as deep as that.
-/

set_option autoImplicit false

namespace Phrasebook.Regex

/-- For every depth the first part that stands there, from the outside to the inside. -/
abbrev Nesting := List Mark

/-- The nesting of two things side by side. -/
def Nesting.beside (a b : Nesting) : Nesting := a ++ b.drop a.length

/-- The nesting of several things side by side. -/
def Nesting.row (l : List Nesting) : Nesting := l.foldl Nesting.beside []

/-- The nesting of a part that holds other parts. -/
def Nesting.within (m : Mark) (inner : Nesting) : Nesting := m :: inner

/-- The first part that stands too deep. -/
def Nesting.tooDeep? (n : Nesting) : Option Mark := n[nestingLimit]?

end Phrasebook.Regex
