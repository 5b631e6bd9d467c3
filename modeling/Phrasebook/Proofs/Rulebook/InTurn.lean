import Phrasebook.Proofs.Rule.Rewriting
import Phrasebook.Rulebook.Basic

/-!
# Rules in turn

A message goes through the rules of a rulebook one after the other. A rule that matches nowhere is
passed over, which is a shortcut only: it would leave the message as it is. So a rulebook rewrites a
message as its rules do in turn, with no look at what matches (`apply_eq_rules_in_turn`), and a list of
rules can be cut anywhere (`RuleSet.apply_append`).
-/

set_option autoImplicit false

namespace Phrasebook

/-! ## Rule sets -/

namespace RuleSet

/-- A message after some rules in turn, each of which replaces all that it matches. -/
def inTurn (rules : List Rule) (message : Text) : Text :=
  rules.foldl (fun t r => r.apply t) message

/-- **One rule after the other**, and nothing else. -/
theorem apply_eq_inTurn (rules : RuleSet) (message : Text) :
    rules.apply message = inTurn rules message := by
  induction rules generalizing message with
  | nil => rfl
  | cons r later ih => rw [apply_cons, ih, inTurn, inTurn, List.foldl_cons]

theorem apply_append (first later : RuleSet) (message : Text) :
    RuleSet.apply (first ++ later) message = later.apply (first.apply message) :=
  List.foldl_append

/-- If no rule matches in a message, then none comes to match on the way. -/
theorem apply_of_no_match {rules : RuleSet} {message : Text}
    (h : ∀ r ∈ rules, ¬ r.pattern.isMatch message = true) : rules.apply message = message := by
  induction rules with
  | nil => rfl
  | cons r later ih =>
      obtain ⟨hr, hlater⟩ := List.forall_mem_cons.1 h
      rw [apply_cons, Rule.apply_of_not_isMatch hr, ih hlater]

end RuleSet

/-! ## Rulebooks -/

namespace Rulebook

/-- All rules of a rulebook, in the order in which a message goes through them. -/
def allRules (b : Rulebook) : RuleSet := b.sensitive ++ b.insensitive

theorem apply_eq_allRules (b : Rulebook) (message : Text) :
    b.apply message = b.allRules.apply message :=
  (RuleSet.apply_append b.sensitive b.insensitive message).symm

/-- **A rulebook rewrites a message as its rules do in turn.** That a rule which matches nowhere is
passed over plays no part: a pattern matches in a text exactly if there is a match among those that
are replaced. The rules can be cut anywhere into those that come first and those that come later, and
a message in which no rule matches stays as it is. -/
theorem apply_eq_rules_in_turn (b : Rulebook) (message : Text) :
    b.apply message = RuleSet.inTurn b.allRules message ∧
      (∀ first later : RuleSet, b.allRules = first ++ later →
        b.apply message = later.apply (first.apply message) ∧
        b.apply message = RuleSet.inTurn later (RuleSet.inTurn first message)) ∧
      ((∀ r ∈ b.allRules, ¬ r.pattern.isMatch message = true) → b.apply message = message) ∧
      ∀ (p : Wildcard.Pattern) (t : Text), p.isMatch t = true ↔ p.spans t ≠ [] := by
  refine ⟨?_, fun first later hcut => ?_, fun hnone => ?_, Wildcard.Pattern.isMatch_iff_spans_ne_nil⟩
  · rw [apply_eq_allRules, RuleSet.apply_eq_inTurn]
  · have hparts : b.apply message = later.apply (first.apply message) := by
      rw [apply_eq_allRules, hcut, RuleSet.apply_append]
    refine ⟨hparts, ?_⟩
    rw [hparts, RuleSet.apply_eq_inTurn, RuleSet.apply_eq_inTurn]
  · rw [apply_eq_allRules, RuleSet.apply_of_no_match hnone]

/-- A rule that doubles what is not empty, and one that drops the letter `k` in either case. -/
def doubling : Rulebook :=
  ⟨[⟨"?*".toList, ⟨[.one, .run], .sensitive⟩, "$0$0".toList, .sensitive, 1⟩],
    [⟨"k".toList, ⟨[.lit 'k'], .insensitive⟩, [], .insensitive, 1⟩]⟩

/-- The second rule finds what the first one has doubled; neither matches in the empty message. -/
theorem apply_eq_rules_in_turn_doubling :
    doubling.allRules = doubling.sensitive ++ doubling.insensitive ∧
      doubling.apply "aK".toList = doubling.insensitive.apply (doubling.sensitive.apply "aK".toList) ∧
      doubling.apply "aK".toList = "aa".toList ∧
      (∀ r ∈ doubling.allRules, ¬ r.pattern.isMatch [] = true) ∧ doubling.apply [] = [] := by
  have hnone : ∀ r ∈ doubling.allRules, ¬ r.pattern.isMatch [] = true := by decide
  exact ⟨rfl, ((apply_eq_rules_in_turn doubling "aK".toList).2.1 _ _ rfl).1, by decide +kernel, hnone,
    (apply_eq_rules_in_turn doubling []).2.2.1 hnone⟩

end Rulebook

end Phrasebook
