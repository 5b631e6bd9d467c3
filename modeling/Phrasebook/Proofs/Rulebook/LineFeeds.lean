import Phrasebook.Proofs.Rule.Provenance
import Phrasebook.Proofs.Rule.Rewriting
import Phrasebook.Proofs.Rulebook.Invariants
import Phrasebook.Proofs.Rulebook.Reloading

/-!
# Rules that stay on the line

A rule of a rule file stands on one line, so that its replacement holds no line feed, and it makes
one line of one line (`staysOnLine_rulesOfText`). What holds of each rule holds of a rulebook, however
long the chain of rules is (`Rulebook.StaysOnLine.apply`).
-/

set_option autoImplicit false

namespace Phrasebook

open Wildcard
open Text (lineFeed)

/-! ## Rules -/

/-- A rule that puts no line feed into a text that has none. -/
def Rule.StaysOnLine (r : Rule) : Prop := ∀ t, lineFeed ∉ t → lineFeed ∉ r.apply t

theorem Rule.staysOnLine_of_replacement {r : Rule} (h : lineFeed ∉ r.replacement) :
    r.StaysOnLine := by
  intro t ht hmem
  rcases Rule.mem_of_mem_apply hmem with hmem | hmem
  · exact ht hmem
  · exact h hmem

theorem staysOnLine_rulesOfText (mode : CaseMode) (content : Text) :
    ∀ r ∈ rulesOfText mode content, r.StaysOnLine := by
  refine forall_rulesOfText (fun line number r hline hread => ?_) content
  obtain ⟨hparse, -, -, -⟩ := readRule_eq_ok hread
  exact Rule.staysOnLine_of_replacement fun hmem =>
    hline (RuleLine.mem_line_of_mem_replacement hparse hmem)

/-- **A chain of rules.** Every rule gets one line from the rule before it. -/
theorem RuleSet.lineFeed_not_mem_apply {rules : RuleSet} (h : ∀ r ∈ rules, r.StaysOnLine) {t : Text}
    (ht : lineFeed ∉ t) : lineFeed ∉ rules.apply t := by
  induction rules generalizing t with
  | nil => exact ht
  | cons r later ih =>
      rw [RuleSet.apply_cons]
      exact ih (fun r' hr' => h r' (List.mem_cons_of_mem r hr')) (h r List.mem_cons_self t ht)

/-! ## Rulebooks -/

namespace Rulebook

/-- Every rule of a rulebook stays on the line. -/
def StaysOnLine (b : Rulebook) : Prop := b.Satisfies fun _ rules => ∀ r ∈ rules, r.StaysOnLine

theorem StaysOnLine.apply {b : Rulebook} (h : b.StaysOnLine) {message : Text}
    (hmessage : lineFeed ∉ message) : lineFeed ∉ b.apply message :=
  RuleSet.lineFeed_not_mem_apply (h .insensitive)
    (RuleSet.lineFeed_not_mem_apply (h .sensitive) hmessage)

theorem staysOnLine_ofFiles (fs : FileSystem) (paths : RulePaths) :
    (ofFiles fs paths).StaysOnLine := by
  have hnothing : StaysOnLine {} := by
    intro mode r hr
    cases mode <;> cases hr
  rw [← reload_nothing]
  exact hnothing.reload staysOnLine_rulesOfText fs paths

end Rulebook

end Phrasebook
