import Phrasebook.Proofs.Rule.Folding
import Phrasebook.Proofs.Rule.Grammar
import Phrasebook.Proofs.Rule.Verdicts

/-!
# Well-formed rule sets

A rule set of a case mode is well formed if every rule in it has that mode, goes with the pattern
that its own wildcard compiles to in that mode, and could stand on a line of its own number, and if
the rules are in the order of their lines. Rule sets are made in two ways, from lines and by compiling
the rules of another set anew, and both give well-formed sets (`wellFormed_ofLines`,
`WellFormed.toCaseInsensitive`).
-/

set_option autoImplicit false

namespace Phrasebook

open Wildcard

/-- What fits together in a rule of a case mode. -/
structure Rule.WellFormed (mode : CaseMode) (r : Rule) : Prop where
  /-- The rule has the mode of the set that it is in. -/
  mode_eq : r.mode = mode
  /-- The pattern is the one that the wildcard compiles to, in the mode that the rule itself has. -/
  compile_eq : compile r.wildcard r.mode = .ok r.pattern
  /-- The regular expression of the pattern is the one of the wildcard. -/
  regex_eq : r.pattern.regex = regexOf r.wildcard
  /-- A line is cut at the first separator, so that none is left in the wildcard. -/
  separator_free : ¬ RuleLine.separator <:+: r.wildcard
  /-- Lines are counted from one. -/
  one_le_line : 1 ≤ r.line

/-- What fits together in a rule set of a case mode. -/
structure RuleSet.WellFormed (mode : CaseMode) (rules : RuleSet) : Prop where
  /-- Every rule is well formed. -/
  rule : ∀ r ∈ rules, r.WellFormed mode
  /-- Later rules are from later lines, and no two rules are from one line. -/
  increasing : rules.Pairwise fun r s => r.line < s.line

/-! ## Rules -/

theorem Wildcard.regex_of_compile {w : Text} {mode : CaseMode} {p : Pattern}
    (h : compile w mode = .ok p) : p.regex = regexOf w := by
  obtain ⟨-, rfl⟩ := compile_eq_ok_iff.1 h
  exact regexText_tokens w

theorem Rule.wellFormed_of_readRule {mode : CaseMode} {number : Nat} {line : Text} {r : Rule}
    (hnumber : 1 ≤ number) (h : readRule mode number line = .ok r) : r.WellFormed mode := by
  obtain ⟨hparse, hmode, hline, hcompile⟩ := readRule_eq_ok h
  obtain ⟨_, _, _, _, _, _, _, _, _, hfree⟩ := RuleLine.parse_eq_ok_iff.1 hparse
  exact ⟨hmode, hcompile, regex_of_compile hcompile, hfree, hline ▸ hnumber⟩

/-- To compile a rule anew touches its pattern and its mode, and both at once. -/
theorem Rule.folded?_eq_some_iff {r s : Rule} :
    r.folded? = some s ↔ compile r.wildcard .insensitive = .ok s.pattern ∧
      s = { r with pattern := s.pattern, mode := .insensitive } := by
  unfold folded?
  cases compile r.wildcard .insensitive with
  | error e => simp
  | ok pattern =>
      constructor
      · intro h
        cases h
        exact ⟨rfl, rfl⟩
      · rintro ⟨hpattern, hs⟩
        cases hpattern
        rw [hs]

theorem Rule.WellFormed.folded? {mode : CaseMode} {r s : Rule} (h : r.WellFormed mode)
    (hs : r.folded? = some s) : s.WellFormed .insensitive := by
  obtain ⟨hcompile, heq⟩ := Rule.folded?_eq_some_iff.1 hs
  rw [heq]
  exact ⟨rfl, hcompile, regex_of_compile hcompile, h.separator_free, h.one_le_line⟩

theorem Rule.line_of_folded? {r s : Rule} (h : r.folded? = some s) : s.line = r.line := by
  rw [(Rule.folded?_eq_some_iff.1 h).2]

/-! ## Rule sets -/

namespace RuleSet

theorem wellFormed_nil (mode : CaseMode) : WellFormed mode [] :=
  ⟨fun _ hr => absurd hr List.not_mem_nil, .nil⟩

/-- **Rule sets of lines.** -/
theorem wellFormed_ofLines (mode : CaseMode) (lines : List Text) :
    WellFormed mode (Report.ofLines mode lines).rules where
  rule r hr := by
    obtain ⟨line, hnumber, -, -, hread⟩ := mem_rules_ofLines_iff.1 hr
    exact Rule.wellFormed_of_readRule hnumber hread
  increasing := pairwise_rules_ofLines mode lines

/-- **Rule sets that are compiled anew.** Rules may be lost, but those that are left keep their
numbers and their order. -/
theorem WellFormed.toCaseInsensitive {mode : CaseMode} {rules : RuleSet} (h : WellFormed mode rules) :
    WellFormed .insensitive rules.toCaseInsensitive := by
  rw [toCaseInsensitive_eq]
  constructor
  · intro s hs
    obtain ⟨r, hr, hfolded⟩ := List.mem_filterMap.1 hs
    exact (h.rule r hr).folded? hfolded
  · refine h.increasing.filterMap Rule.folded? fun r r' hlt s hs s' hs' => ?_
    rw [Rule.line_of_folded? hs, Rule.line_of_folded? hs']
    exact hlt

end RuleSet

end Phrasebook
