import Phrasebook.Rule.Template
import Phrasebook.Wildcard.Match

/-!
# Rules and rule sets

A rule replaces every match of its pattern. A rule set applies its rules in order, each to the
output of the one before; a rule that matches nowhere is passed over.
-/

set_option autoImplicit false

namespace Phrasebook

open Wildcard

/-! ## Replacing spans -/

/-- The rest of a text with every span replaced. `position` is the position in the whole text at
which the rest starts, and `edit` gives the replacement of a matched text. -/
def splice (edit : Text → Text) : (position : Nat) → Text → List Span → Text
  | _, t, [] => t
  | position, t, s :: later =>
      let fromStart := t.drop (s.start - position)
      t.take (s.start - position) ++ edit (fromStart.take (s.stop - s.start)) ++
        splice edit s.stop (fromStart.drop (s.stop - s.start)) later

/-! ## Rules -/

/-- A substitution rule. -/
structure Rule where
  /-- The wildcard as written. -/
  wildcard : Text
  /-- The compiled wildcard. -/
  pattern : Pattern
  /-- The template of the replacement. -/
  replacement : Text
  /-- Whether matching respects case. -/
  mode : CaseMode
  /-- The number of the line that holds the rule, counted from one. -/
  line : Nat
  deriving DecidableEq, Repr

/-- A text with every match of the rule replaced. -/
def Rule.apply (r : Rule) (t : Text) : Text :=
  splice (Template.fill r.replacement) 0 t (r.pattern.spans t)

/-- A text after a rule, which is left alone if the rule matches nowhere. -/
def Rule.applyIfMatch (r : Rule) (t : Text) : Text :=
  if r.pattern.isMatch t then r.apply t else t

/-! ## Rule sets -/

/-- Rules of one case mode, in the order of their lines. -/
abbrev RuleSet := List Rule

namespace RuleSet

/-- A message after all rules in order. -/
def apply (rules : RuleSet) (message : Text) : Text :=
  rules.foldl (fun t r => r.applyIfMatch t) message

/-- The message after each rule in turn, with the number of the rule's line. -/
def steps (rules : RuleSet) (message : Text) : List (Nat × Text) :=
  match rules with
  | [] => []
  | r :: later =>
      let t := r.applyIfMatch message
      (r.line, t) :: steps later t

/-- The rules with every pattern compiled anew so that it folds case. A rule whose pattern then
becomes too large is dropped. -/
def toCaseInsensitive (rules : RuleSet) : RuleSet :=
  rules.filterMap fun r =>
    match compile r.wildcard .insensitive with
    | .ok pattern => some { r with pattern := pattern, mode := .insensitive }
    | .error _ => none

/-- The rules at the given positions, in that order; positions without a rule are passed over. -/
def pick (rules : RuleSet) (positions : List Nat) : RuleSet :=
  positions.filterMap fun i => rules[i]?

end RuleSet

end Phrasebook
