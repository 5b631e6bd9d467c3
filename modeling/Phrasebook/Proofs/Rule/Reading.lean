import Phrasebook.Proofs.Text.Cutting
import Phrasebook.Proofs.Wildcard.Reading
import Phrasebook.Rule.Report

/-!
# What rules are made of

A rule that was read from a line holds a wildcard and a replacement that stand in the line, and the
pattern that its wildcard compiles to (`readRule_eq_ok`). A rule of a list of lines comes from one
of them (`exists_line_of_mem_rules`).
-/

set_option autoImplicit false

namespace Phrasebook

open Wildcard

namespace RuleLine

/-- A text in double quotes. -/
def inQuotes (t : Text) : Text := '"' :: (t ++ ['"'])

theorem eq_inQuotes_of_unquote? {t body : Text} (h : unquote? t = some body) :
    t = inQuotes body := by
  unfold unquote? at h
  split at h
  · next rest =>
      split at h
      · next hlast =>
          obtain ⟨front, rfl⟩ := List.getLast?_eq_some_iff.1 hlast
          rw [Option.some.injEq, List.dropLast_concat] at h
          rw [inQuotes, h]
      · cases h
  · cases h

theorem unquote?_inQuotes (body : Text) : unquote? (inQuotes body) = some body := by
  simp [unquote?, inQuotes]

theorem trim_inQuotes (t : Text) : Text.trim (inQuotes t) = inQuotes t :=
  Text.trim_eq_self (by decide) (by decide)

/-- Where a wildcard and a replacement stand in their line. -/
theorem eq_of_parse {line wildcard replacement : Text}
    (h : parse line = .ok (wildcard, replacement)) :
    ∃ left right, line = left ++ separator ++ right ∧
      Text.trim left = inQuotes wildcard ∧ Text.trim right = inQuotes replacement := by
  unfold parse at h
  split at h
  · cases h
  · next left right hsplit =>
      split at h
      · cases h
      · next w hw =>
          split at h
          · cases h
          · next r hr =>
              rw [Except.ok.injEq, Prod.mk.injEq] at h
              rw [← h.1, ← h.2]
              exact ⟨left, right, (Text.splitFirst?_eq_some_iff.1 hsplit).whole,
                eq_inQuotes_of_unquote? hw, eq_inQuotes_of_unquote? hr⟩

theorem mem_of_mem_body {half body : Text} {c : Char} (h : Text.trim half = inQuotes body)
    (hc : c ∈ body) : c ∈ half := by
  apply Text.mem_of_mem_trim
  rw [h]
  exact List.mem_cons_of_mem _ (List.mem_append_left _ hc)

theorem mem_line_of_mem_wildcard {line wildcard replacement : Text} {c : Char}
    (h : parse line = .ok (wildcard, replacement)) (hc : c ∈ wildcard) : c ∈ line := by
  obtain ⟨left, right, rfl, hleft, -⟩ := eq_of_parse h
  exact List.mem_append_left _ (List.mem_append_left _ (mem_of_mem_body hleft hc))

theorem mem_line_of_mem_replacement {line wildcard replacement : Text} {c : Char}
    (h : parse line = .ok (wildcard, replacement)) (hc : c ∈ replacement) : c ∈ line := by
  obtain ⟨left, right, rfl, -, hright⟩ := eq_of_parse h
  exact List.mem_append_right _ (mem_of_mem_body hright hc)

end RuleLine

/-! ## Rules of lines -/

theorem readRule_eq_ok {mode : CaseMode} {number : Nat} {line : Text} {r : Rule}
    (h : readRule mode number line = .ok r) :
    RuleLine.parse line = .ok (r.wildcard, r.replacement) ∧ r.mode = mode ∧ r.line = number ∧
      compile r.wildcard r.mode = .ok r.pattern := by
  unfold readRule at h
  split at h
  · cases h
  · next w replacement hparse =>
      split at h
      · cases h
      · next p hp =>
          rw [Except.ok.injEq] at h
          rw [← h]
          exact ⟨hparse, rfl, rfl, hp⟩

/-- What can become of a line. -/
theorem judge_cases (mode : CaseMode) (number : Nat) (line : Text) :
    (Text.allBlank line = true ∧ judge mode number line = .blank) ∨
      (Text.allBlank line = false ∧
        ∃ r, readRule mode number line = .ok r ∧ judge mode number line = .rule r) ∨
      (Text.allBlank line = false ∧ ∃ reason, readRule mode number line = .error reason ∧
        judge mode number line = .skipped ⟨number, line, reason⟩) := by
  unfold judge
  cases hblank : Text.allBlank line with
  | true => exact .inl ⟨rfl, if_pos rfl⟩
  | false =>
      rw [if_neg Bool.false_ne_true]
      cases hread : readRule mode number line with
      | ok r => exact .inr (.inl ⟨rfl, r, rfl, rfl⟩)
      | error reason => exact .inr (.inr ⟨rfl, reason, rfl, rfl⟩)

theorem readRule_of_judge {mode : CaseMode} {number : Nat} {line : Text} {r : Rule}
    (h : judge mode number line = .rule r) : readRule mode number line = .ok r := by
  rcases judge_cases mode number line with
    ⟨-, hjudge⟩ | ⟨-, r', hread, hjudge⟩ | ⟨-, reason, -, hjudge⟩
  · rw [hjudge] at h
    cases h
  · rw [hjudge, Verdict.rule.injEq] at h
    rw [hread, h]
  · rw [hjudge] at h
    cases h

theorem exists_line_of_mem_rules {mode : CaseMode} {lines : List Text} {r : Rule}
    (h : r ∈ (Report.ofLines mode lines).rules) :
    ∃ line ∈ lines, ∃ number, readRule mode number line = .ok r := by
  obtain ⟨v, hv, hr⟩ := List.mem_filterMap.1 h
  obtain ⟨⟨line, number⟩, hnumbered, rfl⟩ := List.mem_map.1 hv
  -- Of the three verdicts on a line, only one yields a rule.
  refine ⟨line, List.fst_mem_of_mem_zipIdx hnumbered, number, readRule_of_judge ?_⟩
  show judge mode number line = _
  cases hverdict : judge mode number line with
  | blank => simp [hverdict, Verdict.rule?] at hr
  | rule r' => simpa [hverdict, Verdict.rule?] using hr
  | skipped s => simp [hverdict, Verdict.rule?] at hr

end Phrasebook
