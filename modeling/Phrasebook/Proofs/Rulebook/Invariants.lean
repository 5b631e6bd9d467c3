import Phrasebook.Proofs.Rule.Reading
import Phrasebook.Proofs.Rulebook.Loading

/-!
# Invariants of the rulebook in force

Whatever holds of the rule sets of all rule files holds of every rulebook that is loaded. A reload
keeps it, since it installs rule sets of files or leaves what is in force; and so does every history
of operations, if it holds of the rulebooks that are published on the way (`Satisfies.afterAll`).
-/

set_option autoImplicit false

namespace Phrasebook

open Wildcard

/-- What holds of every rule that is read from one line holds of the rules of a rule file. -/
theorem forall_rulesOfText {P : Rule → Prop} {mode : CaseMode}
    (h : ∀ line number r, Text.lineFeed ∉ line → readRule mode number line = .ok r → P r)
    (content : Text) : ∀ r ∈ rulesOfText mode content, P r := by
  intro r hr
  obtain ⟨line, hline, number, hread⟩ := exists_line_of_mem_rules hr
  exact h line number r (Text.lineFeed_not_mem_of_mem_lines hline) hread

namespace Rulebook

variable {P : CaseMode → RuleSet → Prop} {b : Rulebook}

/-- Both rule sets are of a kind. -/
def Satisfies (P : CaseMode → RuleSet → Prop) (b : Rulebook) : Prop := ∀ mode, P mode (b.rules mode)

theorem satisfies_load (hfile : ∀ mode content, P mode (rulesOfText mode content))
    {fs : FileSystem} {paths : RulePaths} (h : load fs paths = .ok b) : b.Satisfies P := by
  intro mode
  obtain ⟨content, -, hrules⟩ := load_eq_ok_iff.1 h mode
  rw [hrules]
  exact hfile mode content

namespace Satisfies

/-- **One operation.** -/
theorem perform (hfile : ∀ mode content, P mode (rulesOfText mode content)) (h : b.Satisfies P)
    {op : Operation} (hop : ∀ next, op = .publish next → next.Satisfies P) :
    (op.perform b).1.Satisfies P := by
  intro mode
  rw [rules_perform]
  cases op with
  | publish next => exact hop next rfl mode
  | reload fs paths =>
      rw [Operation.installs?]
      cases fs.readText? (paths.file mode) with
      | none => exact h mode
      | some content => exact hfile mode content
  | apply message => exact h mode
  | consult => exact h mode

theorem reload (hfile : ∀ mode content, P mode (rulesOfText mode content)) (h : b.Satisfies P)
    (fs : FileSystem) (paths : RulePaths) : (b.reload fs paths).book.Satisfies P := by
  have hop : ∀ next, Operation.reload fs paths = .publish next → next.Satisfies P := by
    rintro next ⟨⟩
  exact h.perform hfile hop

/-- **A whole history.** -/
theorem afterAll (hfile : ∀ mode content, P mode (rulesOfText mode content)) (h : b.Satisfies P)
    {history : List Operation} (hhistory : ∀ next, .publish next ∈ history → next.Satisfies P) :
    (b.afterAll history).Satisfies P := by
  induction history generalizing b with
  | nil => exact h
  | cons op later ih =>
      have hfirst : (op.perform b).1.Satisfies P :=
        h.perform hfile fun next hop => hhistory next (hop ▸ List.mem_cons_self)
      exact ih hfirst fun next hnext => hhistory next (List.mem_cons_of_mem op hnext)

end Satisfies

end Rulebook

end Phrasebook
