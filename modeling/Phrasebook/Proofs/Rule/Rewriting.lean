import Phrasebook.Proofs.Wildcard.Iteration
import Phrasebook.Rule.Basic

/-!
# Rewriting along the text

A rule finds all spans first and then replaces them. `rewrite` does both in one pass along the
text, copies what is not matched, and carries only whether a match has just ended
(`Rule.apply_eq_rewrite`). The shortcut for texts in which nothing matches changes nothing
(`Rule.applyIfMatch_eq_apply`).
-/

set_option autoImplicit false

namespace Phrasebook

open Wildcard

/-- A text with every match replaced; `ended` says whether a match has just ended, after which an
empty match is passed over. -/
def rewrite (find : Text → Reach) (edit : Text → Text) (ended : Bool) : Text → Text
  | [] => if ended || (find []).isNone then [] else edit []
  | c :: rest =>
      match find (c :: rest) with
      | none => c :: rewrite find edit false rest
      | some 0 => (if ended then [] else edit []) ++ c :: rewrite find edit false rest
      | some (n + 1) => edit (c :: rest.take n) ++ rewrite find edit true (rest.drop n)
  termination_by t => t.length
  decreasing_by all_goals simp; try omega

section

variable {find : Text → Reach} {edit : Text → Text} {ended : Bool} {c : Char} {rest : Text}

theorem rewrite_none (h : find (c :: rest) = none) :
    rewrite find edit ended (c :: rest) = c :: rewrite find edit false rest := by
  rw [rewrite, h]

theorem rewrite_zero (h : find (c :: rest) = some 0) :
    rewrite find edit ended (c :: rest)
      = (if ended then [] else edit []) ++ c :: rewrite find edit false rest := by
  rw [rewrite, h]

theorem rewrite_succ {n : Nat} (h : find (c :: rest) = some (n + 1)) :
    rewrite find edit ended (c :: rest)
      = edit (c :: rest.take n) ++ rewrite find edit true (rest.drop n) := by
  rw [rewrite, h]

end

/-! ## Spans and rewriting -/

/-- A character before all spans is copied. -/
theorem splice_cons (edit : Text → Text) {position : Nat} (c : Char) (t : Text) {spans : List Span}
    (h : ∀ s ∈ spans, position + 1 ≤ s.start) :
    splice edit position (c :: t) spans = c :: splice edit (position + 1) t spans := by
  cases spans with
  | nil => rfl
  | cons s later =>
      have hstart : s.start - position = s.start - (position + 1) + 1 := by
        have hle := h s List.mem_cons_self
        omega
      simp only [splice, hstart, List.take_succ_cons, List.drop_succ_cons, List.cons_append]

theorem splice_spansAlong (find : Text → Reach) (edit : Text → Text) (ended : Bool)
    (position : Nat) (t : Text) :
    splice edit position t (spansAlong find ended position t) = rewrite find edit ended t := by
  induction t using scan_induction find generalizing ended position with
  | nil =>
      rw [spansAlong, rewrite]
      by_cases h : (ended || (find []).isNone) = true
      · rw [if_pos h, if_pos h]
        rfl
      · rw [if_neg h, if_neg h]
        simp [splice]
  | none c rest hfind ih =>
      rw [spansAlong_none hfind, rewrite_none hfind,
        splice_cons edit c rest fun s hs => le_start_of_mem_spansAlong hs, ih]
  | zero c rest hfind ih =>
      have hcopy : splice edit position (c :: rest) (spansAlong find false (position + 1) rest)
          = c :: rewrite find edit false rest := by
        rw [splice_cons edit c rest fun s hs => le_start_of_mem_spansAlong hs, ih]
      -- The empty match is edited, or passed over; the character after it is copied either way.
      rw [spansAlong_zero hfind, rewrite_zero hfind]
      cases ended with
      | true => exact hcopy
      | false =>
          simp only [Bool.false_eq_true, if_false, List.singleton_append, splice, Nat.sub_self,
            List.take_zero, List.drop_zero, List.nil_append]
          rw [hcopy]
  | succ c rest n hfind ih =>
      rw [spansAlong_succ hfind, rewrite_succ hfind]
      simp [splice, ih]

theorem Rule.apply_eq_rewrite (r : Rule) (t : Text) :
    r.apply t = rewrite r.pattern.reachAt (Template.fill r.replacement) false t := by
  calc r.apply t
      = splice (Template.fill r.replacement) 0 t (r.pattern.spans t) := rfl
    _ = splice (Template.fill r.replacement) 0 t (spansAlong r.pattern.reachAt false 0 t) := by
        rw [Pattern.spans_eq_spansAlong]
    _ = rewrite r.pattern.reachAt (Template.fill r.replacement) false t :=
        splice_spansAlong _ _ false 0 t

/-! ## Texts without a match -/

theorem Rule.apply_of_not_isMatch {r : Rule} {t : Text} (h : ¬ r.pattern.isMatch t = true) :
    r.apply t = t := by
  have hspans : r.pattern.spans t = [] := by
    rwa [Pattern.isMatch_iff_spans_ne_nil, ne_eq, Classical.not_not] at h
  rw [apply, hspans]
  rfl

/-- **The shortcut changes nothing**: where the search finds nothing, the list of all matches, which
begins with what the search finds, is empty. -/
theorem Rule.applyIfMatch_eq_apply (r : Rule) (t : Text) : r.applyIfMatch t = r.apply t := by
  by_cases h : r.pattern.isMatch t = true
  · rw [applyIfMatch, if_pos h]
  · rw [applyIfMatch, if_neg h, apply_of_not_isMatch h]

theorem RuleSet.apply_cons (r : Rule) (later : RuleSet) (t : Text) :
    RuleSet.apply (r :: later) t = RuleSet.apply later (r.apply t) := by
  calc RuleSet.apply (r :: later) t
      = RuleSet.apply later (r.applyIfMatch t) := rfl
    _ = RuleSet.apply later (r.apply t) := by rw [Rule.applyIfMatch_eq_apply]

end Phrasebook
