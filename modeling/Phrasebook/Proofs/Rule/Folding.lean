import Phrasebook.Proofs.Charset.Cover
import Phrasebook.Proofs.Charset.Machine
import Phrasebook.Proofs.Rule.Reading
import Phrasebook.Proofs.Text.Folding

/-!
# Two ways to rules that fold case

Rules that fold case are read from lines at once, or read with case respected first and compiled
anew afterwards. The two ways lose rules at different places: the second drops what does not compile
with case respected before it looks at what folding makes of it. They agree because folding makes no
matching program smaller (`programSize_le_insensitive`), so that what is dropped early would have
been dropped in any case.
-/

set_option autoImplicit false

namespace Phrasebook

open Wildcard

/-! ## Folding makes no program smaller -/

namespace Wildcard

theorem literalSize_le_insensitive (backward : Bool) (c : Char) :
    literalSize backward .sensitive c ≤ literalSize backward .insensitive c := by
  obtain ⟨i, hi, hfirst, hlast⟩ := Charset.exists_mem_ofChars (Text.mem_variants c)
  simp only [literalSize]
  split
  · exact Nat.le_refl _
  · exact Charset.utf8Size_le_machineSize hi hfirst hlast backward

theorem Token.size_le_insensitive (backward : Bool) (tok : Token) :
    tok.size backward .sensitive ≤ tok.size backward .insensitive := by
  cases tok with
  | lit c => exact literalSize_le_insensitive backward c
  | one => exact Nat.le_refl _
  | run => exact Nat.le_refl _

theorem programSize_le_insensitive (backward : Bool) (ts : List Token) :
    programSize backward .sensitive ts ≤ programSize backward .insensitive ts := by
  have key : ∀ (ts : List Token) {n k : Nat}, n ≤ k →
      ts.foldl (fun n t => n + t.size backward .sensitive) n
        ≤ ts.foldl (fun n t => n + t.size backward .insensitive) k := by
    intro ts
    induction ts with
    | nil => exact fun h => h
    | cons tok rest ih => exact fun h => ih (Nat.add_le_add h (tok.size_le_insensitive backward))
  exact key ts (Nat.le_refl _)

/-- What fits when it folds case fits when it respects case. -/
theorem fits_sensitive {ts : List Token} (h : fits .insensitive ts = true) :
    fits .sensitive ts = true := by
  simp only [fits, Bool.and_eq_true, decide_eq_true_eq] at h ⊢
  exact ⟨Nat.le_trans (programSize_le_insensitive false ts) h.1,
    Nat.le_trans (programSize_le_insensitive true ts) h.2⟩

end Wildcard

/-! ## One line -/

/-- A rule compiled anew so that it folds case, unless its pattern then becomes too large. -/
def Rule.folded? (r : Rule) : Option Rule :=
  match compile r.wildcard .insensitive with
  | .ok pattern => some { r with pattern := pattern, mode := .insensitive }
  | .error _ => none

theorem Rule.folded?_of_folded? {r s : Rule} (h : r.folded? = some s) : s.folded? = some s := by
  unfold folded? at h
  split at h
  · next pattern hcompile =>
      rw [Option.some.injEq] at h
      subst h
      simp only [folded?, hcompile]
  · cases h

/-- **One line read twice.** Whether a line is compiled with case respected in between makes no
difference to the rule that folds case. -/
theorem rule?_judge_insensitive (number : Nat) (line : Text) :
    (judge .sensitive number line).rule?.bind Rule.folded?
      = (judge .insensitive number line).rule? := by
  unfold judge readRule
  by_cases hblank : Text.allBlank line = true
  · rw [if_pos hblank, if_pos hblank]
    rfl
  · rw [if_neg hblank, if_neg hblank]
    cases RuleLine.parse line with
    | error reason => rfl
    | ok halves =>
        obtain ⟨wildcard, replacement⟩ := halves
        simp only [compile_eq]
        by_cases hfolded : fits .insensitive (tokens wildcard) = true
        · rw [if_pos hfolded, if_pos (fits_sensitive hfolded)]
          simp only [Verdict.rule?, Option.bind_some, Rule.folded?, compile_eq, if_pos hfolded]
        · -- Dropped now or later: the rule that folds case is too large in any case.
          rw [if_neg hfolded]
          by_cases hfits : fits .sensitive (tokens wildcard) = true
          · rw [if_pos hfits]
            simp only [Verdict.rule?, Option.bind_some, Rule.folded?, compile_eq, if_neg hfolded]
          · rw [if_neg hfits]
            rfl

/-! ## Lists of lines -/

theorem rules_ofLines (mode : CaseMode) (lines : List Text) :
    (Report.ofLines mode lines).rules
      = (lines.zipIdx 1).filterMap fun numbered => (judge mode numbered.2 numbered.1).rule? := by
  rw [Report.ofLines, verdicts, List.filterMap_map]
  rfl

theorem RuleSet.toCaseInsensitive_eq (rules : RuleSet) :
    rules.toCaseInsensitive = rules.filterMap Rule.folded? := rfl

theorem RuleSet.toCaseInsensitive_idem (rules : RuleSet) :
    rules.toCaseInsensitive.toCaseInsensitive = rules.toCaseInsensitive := by
  have hbind : ∀ r : Rule, r.folded?.bind Rule.folded? = r.folded? := by
    intro r
    cases h : r.folded? with
    | none => rfl
    | some s => exact Rule.folded?_of_folded? h
  rw [toCaseInsensitive_eq, toCaseInsensitive_eq, List.filterMap_filterMap]
  exact congrArg (fun f => rules.filterMap f) (funext hbind)

/-- **The two ways to rules that fold case agree.** For all lines they give the same list of rules,
each with everything that belongs to it; every rule folds case and has the pattern of its wildcard;
compiling the rules once more changes none of them; and a wildcard that is small enough to fold case
is small enough to respect it, so that no rule is lost on one of the ways only. -/
theorem ways_to_fold_case_agree (lines : List Text) :
    RuleSet.ofLinesCaseInsensitive lines = (Report.ofLines .insensitive lines).rules ∧
      (∀ r ∈ RuleSet.ofLinesCaseInsensitive lines,
        r.mode = .insensitive ∧ compile r.wildcard .insensitive = .ok r.pattern) ∧
      (RuleSet.ofLinesCaseInsensitive lines).toCaseInsensitive
        = RuleSet.ofLinesCaseInsensitive lines ∧
      ∀ w, fits .insensitive (tokens w) = true → fits .sensitive (tokens w) = true := by
  have hagree : RuleSet.ofLinesCaseInsensitive lines = (Report.ofLines .insensitive lines).rules := by
    calc RuleSet.ofLinesCaseInsensitive lines
        = ((lines.zipIdx 1).filterMap fun numbered =>
            (judge .sensitive numbered.2 numbered.1).rule?).filterMap Rule.folded? := by
          rw [RuleSet.ofLinesCaseInsensitive, RuleSet.toCaseInsensitive_eq, RuleSet.ofLines,
            rules_ofLines]
      _ = (lines.zipIdx 1).filterMap fun numbered =>
            (judge .insensitive numbered.2 numbered.1).rule? := by
          rw [List.filterMap_filterMap]
          simp only [rule?_judge_insensitive]
      _ = (Report.ofLines .insensitive lines).rules := (rules_ofLines .insensitive lines).symm
  refine ⟨hagree, fun r hr => ?_, RuleSet.toCaseInsensitive_idem _, fun w => fits_sensitive⟩
  rw [hagree] at hr
  obtain ⟨line, -, number, hread⟩ := exists_line_of_mem_rules hr
  obtain ⟨-, hmode, -, hcompile⟩ := readRule_eq_ok hread
  exact ⟨hmode, hmode ▸ hcompile⟩

/-- A rule between a blank line and a line that is no rule. -/
theorem ways_to_fold_case_agree_between_others :
    (⟨['K', '?'], ⟨[.lit 'K', .one], .insensitive⟩, ['x'], .insensitive, 2⟩ : Rule)
        ∈ RuleSet.ofLinesCaseInsensitive [[' '], "\"K?\"===\"x\"".toList, "K?===x".toList] ∧
      compile ['K', '?'] .insensitive = .ok ⟨[.lit 'K', .one], .insensitive⟩ ∧
      fits .insensitive (tokens ['K', '?']) = true ∧ fits .sensitive (tokens ['K', '?']) = true := by
  have hmem : (⟨['K', '?'], ⟨[.lit 'K', .one], .insensitive⟩, ['x'], .insensitive, 2⟩ : Rule)
      ∈ RuleSet.ofLinesCaseInsensitive [[' '], "\"K?\"===\"x\"".toList, "K?===x".toList] := by
    decide +kernel
  have hfits : fits .insensitive (tokens ['K', '?']) = true := by decide +kernel
  obtain ⟨-, hrules, -, hsizes⟩ :=
    ways_to_fold_case_agree [[' '], "\"K?\"===\"x\"".toList, "K?===x".toList]
  exact ⟨hmem, (hrules _ hmem).2, hfits, hsizes _ hfits⟩

end Phrasebook
