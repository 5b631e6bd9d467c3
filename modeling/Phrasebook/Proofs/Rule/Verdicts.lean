import Mathlib.Data.List.Forall2
import Phrasebook.Proofs.Rule.Reading

/-!
# Verdicts on lines

A line that is not blank is either accepted as a rule or rejected for one reason (`Accepts`,
`Rejects`), and its number plays no part in that. The rules of a report stand one by one on the
accepted lines, and its skipped lines are one by one the rejected lines (`forall₂_rules_ofLines`,
`forall₂_skipped_ofLines`), so that nothing is lost, doubled or put out of order.
-/

set_option autoImplicit false

namespace Phrasebook

open Wildcard

variable {mode : CaseMode} {number : Nat} {line : Text} {lines : List Text}

/-! ## One line -/

/-- A line is read as a rule, and its wildcard compiles. -/
def Accepts (mode : CaseMode) (line : Text) : Prop :=
  ∃ wildcard replacement pattern, RuleLine.parse line = .ok (wildcard, replacement) ∧
    compile wildcard mode = .ok pattern

/-- A line is no rule for this reason: it cannot be read as one, or its wildcard does not compile. -/
inductive Rejects (mode : CaseMode) (line : Text) : LineError → Prop where
  /-- The line breaks the grammar of rule lines. -/
  | unread {reason : LineError} (h : RuleLine.parse line = .error reason) :
      Rejects mode line reason
  /-- The wildcard on the line does not compile. -/
  | uncompiled {wildcard replacement : Text} {e : PatternError}
      (h : RuleLine.parse line = .ok (wildcard, replacement))
      (he : compile wildcard mode = .error e) : Rejects mode line (.invalidPattern e.message)

theorem readRule_eq_ok_iff {r : Rule} :
    readRule mode number line = .ok r ↔
      RuleLine.parse line = .ok (r.wildcard, r.replacement) ∧ r.mode = mode ∧ r.line = number ∧
        compile r.wildcard r.mode = .ok r.pattern := by
  constructor
  · exact readRule_eq_ok
  · rintro ⟨hparse, rfl, rfl, hcompile⟩
    simp only [readRule, hparse, hcompile]

theorem readRule_eq_error_iff {reason : LineError} :
    readRule mode number line = .error reason ↔ Rejects mode line reason := by
  constructor
  · intro h
    unfold readRule at h
    split at h
    · next hparse =>
        cases h
        exact .unread hparse
    · next wildcard replacement hparse =>
        split at h
        · next e he =>
            cases h
            exact .uncompiled hparse he
        · cases h
  · intro h
    cases h with
    | unread hparse => simp only [readRule, hparse]
    | uncompiled hparse he => simp only [readRule, hparse, he]

theorem accepts_iff (number : Nat) : Accepts mode line ↔ ∃ r, readRule mode number line = .ok r := by
  constructor
  · rintro ⟨wildcard, replacement, pattern, hparse, hcompile⟩
    exact ⟨⟨wildcard, pattern, replacement, mode, number⟩,
      readRule_eq_ok_iff.2 ⟨hparse, rfl, rfl, hcompile⟩⟩
  · rintro ⟨r, hread⟩
    obtain ⟨hparse, rfl, -, hcompile⟩ := readRule_eq_ok_iff.1 hread
    exact ⟨r.wildcard, r.replacement, r.pattern, hparse, hcompile⟩

instance (mode : CaseMode) (line : Text) : Decidable (Accepts mode line) :=
  decidable_of_iff ((readRule mode 0 line).toOption.isSome = true) (by
    rw [accepts_iff 0]
    cases readRule mode 0 line <;> simp [Except.toOption])

/-- Every line is accepted or rejected, and not both. -/
theorem not_accepts_iff : ¬ Accepts mode line ↔ ∃ reason, Rejects mode line reason := by
  have hrejects : ∀ reason, readRule mode 0 line = .error reason ↔ Rejects mode line reason :=
    fun reason => readRule_eq_error_iff
  rw [accepts_iff 0]
  simp only [← hrejects]
  cases readRule mode 0 line with
  | error reason => simp
  | ok r => simp

theorem judge_eq_blank_iff : judge mode number line = .blank ↔ Text.allBlank line = true := by
  rcases judge_cases mode number line with
    ⟨hblank, hjudge⟩ | ⟨hblank, r, -, hjudge⟩ | ⟨hblank, reason, -, hjudge⟩
  · simp [hblank, hjudge]
  · simp [hblank, hjudge]
  · simp [hblank, hjudge]

theorem judge_eq_rule_iff {r : Rule} :
    judge mode number line = .rule r ↔
      Text.allBlank line = false ∧ readRule mode number line = .ok r := by
  rcases judge_cases mode number line with
    ⟨hblank, hjudge⟩ | ⟨hblank, r', hread, hjudge⟩ | ⟨hblank, reason, hread, hjudge⟩
  · simp [hblank, hjudge]
  · simp [hblank, hread, hjudge]
  · simp [hread, hjudge]

theorem judge_eq_skipped_iff {s : SkippedLine} :
    judge mode number line = .skipped s ↔ Text.allBlank line = false ∧
      s.line = number ∧ s.content = line ∧ Rejects mode line s.reason := by
  have hrejects : readRule mode number line = .error s.reason ↔ Rejects mode line s.reason :=
    readRule_eq_error_iff
  rw [← hrejects]
  obtain ⟨n, content, reason⟩ := s
  rcases judge_cases mode number line with
    ⟨hblank, hjudge⟩ | ⟨hblank, r, hread, hjudge⟩ | ⟨hblank, e, hread, hjudge⟩
  · simp [hblank, hjudge]
  · simp [hread, hjudge]
  · simp [hblank, hread, hjudge, eq_comm]

/-! ## All lines -/

/-- Among what is taken from the verdicts on some lines is what is taken from the verdict on each. -/
theorem mem_filterMap_verdicts_iff {α : Type} {f : Verdict → Option α} {first : Nat} {a : α} :
    a ∈ (verdicts mode first lines).filterMap f ↔
      ∃ number line, first ≤ number ∧ lines[number - first]? = some line ∧
        f (judge mode number line) = some a := by
  rw [verdicts, List.filterMap_map, List.mem_filterMap]
  constructor
  · rintro ⟨⟨line, number⟩, hmem, ha⟩
    obtain ⟨hfirst, hline⟩ := List.mk_mem_zipIdx_iff_le_and_getElem?_sub.1 hmem
    exact ⟨number, line, hfirst, hline, ha⟩
  · rintro ⟨number, line, hfirst, hline, ha⟩
    exact ⟨(line, number), List.mk_mem_zipIdx_iff_le_and_getElem?_sub.2 ⟨hfirst, hline⟩, ha⟩

theorem Verdict.rule?_eq_some_iff {v : Verdict} {r : Rule} : v.rule? = some r ↔ v = .rule r := by
  cases v <;> simp [rule?]

theorem Verdict.skipped?_eq_some_iff {v : Verdict} {s : SkippedLine} :
    v.skipped? = some s ↔ v = .skipped s := by
  cases v <;> simp [skipped?]

theorem line_of_rule? {r : Rule} (h : (judge mode number line).rule? = some r) :
    r.line = number := by
  obtain ⟨-, hread⟩ := judge_eq_rule_iff.1 (Verdict.rule?_eq_some_iff.1 h)
  exact (readRule_eq_ok_iff.1 hread).2.2.1

theorem line_of_skipped? {s : SkippedLine} (h : (judge mode number line).skipped? = some s) :
    s.line = number :=
  (judge_eq_skipped_iff.1 (Verdict.skipped?_eq_some_iff.1 h)).2.1

/-- **The rules of a report** are what its lines are read as, each with the number of its line. -/
theorem mem_rules_ofLines_iff {r : Rule} :
    r ∈ (Report.ofLines mode lines).rules ↔
      ∃ line, 1 ≤ r.line ∧ lines[r.line - 1]? = some line ∧ Text.allBlank line = false ∧
        readRule mode r.line line = .ok r := by
  rw [Report.ofLines, mem_filterMap_verdicts_iff]
  simp only [Verdict.rule?_eq_some_iff, judge_eq_rule_iff]
  constructor
  · rintro ⟨number, line, hfirst, hline, hblank, hread⟩
    obtain ⟨-, -, rfl, -⟩ := readRule_eq_ok_iff.1 hread
    exact ⟨line, hfirst, hline, hblank, hread⟩
  · rintro ⟨line, hfirst, hline, hblank, hread⟩
    exact ⟨r.line, line, hfirst, hline, hblank, hread⟩

/-! ## The order of the lines -/

/-- What is taken from the verdicts, at most one from each, is in the order of the lines. -/
theorem pairwise_filterMap_verdicts {α : Type} {f : Verdict → Option α} {place : α → Nat}
    (hplace : ∀ {number line a}, f (judge mode number line) = some a → place a = number)
    (first : Nat) (lines : List Text) :
    ((verdicts mode first lines).filterMap f).Pairwise fun a b => place a < place b := by
  have hnumbers : (lines.zipIdx first).Pairwise fun x y => x.2 < y.2 := by
    rw [← List.pairwise_map (f := Prod.snd) (R := (· < ·)), List.zipIdx_map_snd]
    exact List.pairwise_lt_range'
  rw [verdicts, List.filterMap_map]
  refine hnumbers.filterMap _ fun x y hxy a ha b hb => ?_
  rw [hplace ha, hplace hb]
  exact hxy

theorem pairwise_rules_ofLines (mode : CaseMode) (lines : List Text) :
    (Report.ofLines mode lines).rules.Pairwise fun r s => r.line < s.line :=
  pairwise_filterMap_verdicts line_of_rule? 1 lines

/-! ## Lines one by one -/

/-- The lines that are not blank, each with its number. -/
def fullLines (lines : List Text) : List (Text × Nat) :=
  (lines.zipIdx 1).filter fun numbered => !Text.allBlank numbered.1

/-- The lines that are accepted as rules, each with its number. -/
def acceptedLines (mode : CaseMode) (lines : List Text) : List (Text × Nat) :=
  (fullLines lines).filter fun numbered => Accepts mode numbered.1

/-- The lines that are neither blank nor accepted as rules, each with its number. -/
def rejectedLines (mode : CaseMode) (lines : List Text) : List (Text × Nat) :=
  (fullLines lines).filter fun numbered => ¬ Accepts mode numbered.1

/-- The rule is what the line of this number is read as. -/
def Rule.StandsOn (mode : CaseMode) (numbered : Text × Nat) (r : Rule) : Prop :=
  RuleLine.parse numbered.1 = .ok (r.wildcard, r.replacement) ∧ r.mode = mode ∧
    r.line = numbered.2 ∧ compile r.wildcard r.mode = .ok r.pattern

/-- The skipped line is the line of this number, with the reason for which it is no rule. -/
def SkippedLine.StandsOn (mode : CaseMode) (numbered : Text × Nat) (s : SkippedLine) : Prop :=
  s.line = numbered.2 ∧ s.content = numbered.1 ∧ Rejects mode numbered.1 s.reason

theorem forall₂_filter_filterMap {α β : Type} {R : α → β → Prop} {p : α → Bool} {f : α → Option β}
    {l : List α} (hsome : ∀ a ∈ l, p a = true → ∃ b, f a = some b ∧ R a b)
    (hnone : ∀ a ∈ l, p a = false → f a = none) :
    List.Forall₂ R (l.filter p) (l.filterMap f) := by
  induction l with
  | nil => exact .nil
  | cons a rest ih =>
      have hrest := ih (fun b hb => hsome b (List.mem_cons_of_mem a hb))
        (fun b hb => hnone b (List.mem_cons_of_mem a hb))
      cases hp : p a with
      | true =>
          obtain ⟨b, hb, hR⟩ := hsome a List.mem_cons_self hp
          rw [List.filter_cons_of_pos hp, List.filterMap_cons_some hb]
          exact .cons hR hrest
      | false =>
          rw [List.filter_cons_of_neg (by simp [hp]),
            List.filterMap_cons_none (hnone a List.mem_cons_self hp)]
          exact hrest

/-- **The rules of a report**, one by one. -/
theorem forall₂_rules_ofLines (mode : CaseMode) (lines : List Text) :
    List.Forall₂ (Rule.StandsOn mode) (acceptedLines mode lines)
      (Report.ofLines mode lines).rules := by
  rw [Report.ofLines, verdicts, List.filterMap_map, acceptedLines, fullLines, List.filter_filter]
  refine forall₂_filter_filterMap (fun numbered _ h => ?_) (fun numbered _ h => ?_)
  · simp only [Bool.and_eq_true, decide_eq_true_eq, Bool.not_eq_true'] at h
    obtain ⟨r, hread⟩ := (accepts_iff numbered.2).1 h.1
    exact ⟨r, Verdict.rule?_eq_some_iff.2 (judge_eq_rule_iff.2 ⟨h.2, hread⟩),
      readRule_eq_ok_iff.1 hread⟩
  · rw [Option.eq_none_iff_forall_ne_some]
    intro r hr
    obtain ⟨hblank, hread⟩ := judge_eq_rule_iff.1 (Verdict.rule?_eq_some_iff.1 hr)
    simp [hblank, (accepts_iff numbered.2).2 ⟨r, hread⟩] at h

/-- **The skipped lines of a report**, one by one. -/
theorem forall₂_skipped_ofLines (mode : CaseMode) (lines : List Text) :
    List.Forall₂ (SkippedLine.StandsOn mode) (rejectedLines mode lines)
      (Report.ofLines mode lines).skipped := by
  simp only [Report.ofLines, verdicts, List.filterMap_map, rejectedLines, fullLines,
    List.filter_filter]
  refine forall₂_filter_filterMap (fun numbered _ h => ?_) (fun numbered _ h => ?_)
  · simp only [Bool.and_eq_true, decide_eq_true_eq, Bool.not_eq_true'] at h
    obtain ⟨reason, hrejects⟩ := not_accepts_iff.1 h.1
    refine ⟨⟨numbered.2, numbered.1, reason⟩, ?_, rfl, rfl, hrejects⟩
    exact Verdict.skipped?_eq_some_iff.2 (judge_eq_skipped_iff.2 ⟨h.2, rfl, rfl, hrejects⟩)
  · rw [Option.eq_none_iff_forall_ne_some]
    intro s hs
    obtain ⟨hblank, -, -, hrejects⟩ :=
      judge_eq_skipped_iff.1 (Verdict.skipped?_eq_some_iff.1 hs)
    simp [hblank, not_accepts_iff.2 ⟨_, hrejects⟩] at h

/-- If no line is rejected, then every line that is not blank is accepted. -/
theorem rejectedLines_eq_nil_iff :
    rejectedLines mode lines = [] ↔
      ∀ line ∈ lines, Text.allBlank line = false → Accepts mode line := by
  have hmem : ∀ line, line ∈ lines ↔ ∃ number, (line, number) ∈ lines.zipIdx 1 := by
    intro line
    constructor
    · intro h
      rw [← List.zipIdx_map_fst 1 lines] at h
      obtain ⟨⟨line', number⟩, hnumbered, rfl⟩ := List.mem_map.1 h
      exact ⟨number, hnumbered⟩
    · rintro ⟨number, hnumbered⟩
      exact List.fst_mem_of_mem_zipIdx hnumbered
  simp only [rejectedLines, fullLines, List.filter_eq_nil_iff, List.mem_filter, hmem]
  constructor
  · rintro h line ⟨number, hnumbered⟩ hblank
    simpa using h (line, number) ⟨hnumbered, by simp [hblank]⟩
  · rintro h ⟨line, number⟩ ⟨hnumbered, hblank⟩
    simpa using h line ⟨number, hnumbered⟩ (by simpa using hblank)

theorem acceptedLines_eq_fullLines (h : rejectedLines mode lines = []) :
    acceptedLines mode lines = fullLines lines := by
  rw [rejectedLines, List.filter_eq_nil_iff] at h
  exact List.filter_eq_self.2 fun numbered hnumbered => by simpa using h numbered hnumbered

end Phrasebook
