import Phrasebook.Rule.Report

/-!
# Rulebooks

A rulebook is the pair of rule sets that a message goes through: first the rules that respect
case, then the rules that fold it.
-/

set_option autoImplicit false

namespace Phrasebook

/-- The two rule sets that are applied to every message. -/
structure Rulebook where
  /-- The rules that respect case. -/
  sensitive : RuleSet := []
  /-- The rules that fold case. -/
  insensitive : RuleSet := []
  deriving DecidableEq, Repr

namespace Rulebook

/-- A message after both rule sets. -/
def apply (b : Rulebook) (message : Text) : Text :=
  b.insensitive.apply (b.sensitive.apply message)

/-- The number of rules. -/
def ruleCount (b : Rulebook) : Nat := b.sensitive.length + b.insensitive.length

/-- The rulebook of two lists of lines. -/
def ofLines (sensitive insensitive : List Text) : Rulebook :=
  ⟨RuleSet.ofLines sensitive, RuleSet.ofLinesCaseInsensitive insensitive⟩

end Rulebook

end Phrasebook
