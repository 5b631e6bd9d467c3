import Phrasebook.Proofs.Rule.Templates
import Phrasebook.Proofs.Wildcard.Enumeration

/-!
# Matches and the gaps between them

A text is cut by the matches of a pattern into gaps and matched texts, which stand in turn. A rule
replaces the matched texts and copies the gaps (`splice_eq_weave`), and what it puts in is not looked
at again. Replacing every matched text by itself changes nothing, wherever the text is cut
(`splice_self`).
-/

set_option autoImplicit false

namespace Phrasebook

open Wildcard

/-- What stands in a text between the spans of a list, from a position on: a gap before each span,
and one after the last. -/
def gaps (t : Text) : (position : Nat) → List Span → List Text
  | position, [] => [t.drop position]
  | position, s :: later => Span.text ⟨position, s.start⟩ t :: gaps t s.stop later

/-- Gaps with pieces between them, in turn. -/
def weave : (gaps pieces : List Text) → Text
  | gap :: gaps, piece :: pieces => gap ++ piece ++ weave gaps pieces
  | gaps, _ => gaps.flatten

theorem length_gaps (t : Text) (position : Nat) (spans : List Span) :
    (gaps t position spans).length = spans.length + 1 := by
  induction spans generalizing position with
  | nil => rfl
  | cons s later ih => rw [gaps, List.length_cons, ih, List.length_cons]

/-! ## Replacing spans -/

/-- **The gaps are copied** and the spans between them are edited, if the spans are in order. -/
theorem splice_eq_weave (edit : Text → Text) {t : Text} {position : Nat} {spans : List Span}
    (hordered : spans.Pairwise fun a b => a.stop ≤ b.start)
    (hspans : ∀ s ∈ spans, position ≤ s.start ∧ s.start ≤ s.stop) :
    splice edit position (t.drop position) spans
      = weave (gaps t position spans) (spans.map fun s => edit (s.text t)) := by
  induction spans generalizing position with
  | nil => exact (List.append_nil (t.drop position)).symm
  | cons s later ih =>
      obtain ⟨hstop, hlater⟩ := List.pairwise_cons.1 hordered
      obtain ⟨⟨hposition, hstart⟩, hspans⟩ := List.forall_mem_cons.1 hspans
      -- What is cut from the front of the rest of the text is what stands at these places of all of it.
      have hgap : (t.drop position).take (s.start - position) = Span.text ⟨position, s.start⟩ t :=
        (Span.text_eq ⟨position, s.start⟩ t).symm
      have hfrom : (t.drop position).drop (s.start - position) = t.drop s.start := by
        rw [List.drop_drop, Nat.add_sub_cancel' hposition]
      have hafter : (t.drop s.start).drop (s.stop - s.start) = t.drop s.stop := by
        rw [List.drop_drop, Nat.add_sub_cancel' hstart]
      simp only [splice]
      rw [hgap, hfrom, hafter, ← Span.text_eq,
        ih hlater fun b hb => ⟨hstop b hb, (hspans b hb).2⟩]
      rfl

/-- Spans that are replaced by themselves leave the text as it is. -/
theorem splice_self (position : Nat) (t : Text) (spans : List Span) :
    splice (fun matched => matched) position t spans = t := by
  induction spans generalizing position t with
  | nil => rfl
  | cons s later ih =>
      simp only [splice, ih]
      rw [List.append_assoc, List.take_append_drop, List.take_append_drop]

/-! ## Templates for the whole match -/

theorem fill_zero (matched : Text) : Template.fill "$0".toList matched = matched := by
  show Template.fill ['$', '0'] matched = matched
  rw [Template.fill_dollar]
  show matched ++ Template.fill [] matched = matched
  rw [Template.fill_nil, List.append_nil]

theorem fill_zero_in_braces (matched : Text) :
    Template.fill "$\x7b0\x7d".toList matched = matched := by
  have h := Template.fill_hole_append [] matched
  rwa [List.append_nil, Template.fill_nil, List.append_nil] at h

/-! ## Rules -/

theorem splice_spans_eq_weave (edit : Text → Text) (p : Pattern) (t : Text) :
    splice edit 0 t (p.spans t)
      = weave (gaps t 0 (p.spans t)) ((p.spans t).map fun s => edit (s.text t)) := by
  have hordered : (p.spans t).Pairwise fun a b => a.stop ≤ b.start :=
    (p.pairwise_spans t).imp fun h => h.stop_le
  exact splice_eq_weave edit hordered fun s hs =>
    ⟨Nat.zero_le _, (Pattern.leftmostLongest_of_mem_spans hs).inside.1⟩

/-- **A rule rewrites its matches and nothing else.** Its matches are those that searching again and
again finds in the text as it is given. They cut the text into gaps and matched texts; after the rule
the same gaps stand in the same order, and between them, for each match, what the template is filled
to with the matched text. So a rule that puts in the whole match, in whichever way it is written,
changes nothing. -/
theorem Rule.apply_rewrites_matches_only (r : Rule) (t : Text) :
    let spans := r.pattern.spans t
    r.pattern.Enumerates t (r.pattern.search t 0) spans ∧
      (gaps t 0 spans).length = spans.length + 1 ∧
      t = weave (gaps t 0 spans) (spans.map fun s => s.text t) ∧
      r.apply t = weave (gaps t 0 spans)
        (spans.map fun s => Template.fill r.replacement (s.text t)) ∧
      (r.replacement = "$0".toList ∨ r.replacement = "$\x7b0\x7d".toList → r.apply t = t) := by
  intro spans
  refine ⟨r.pattern.enumerates_spans t, length_gaps t 0 spans, ?_,
    splice_spans_eq_weave (Template.fill r.replacement) r.pattern t, fun hreplacement => ?_⟩
  · calc t
        = splice (fun matched => matched) 0 t spans := (splice_self 0 t spans).symm
      _ = weave (gaps t 0 spans) (spans.map fun s => s.text t) :=
          splice_spans_eq_weave (fun matched => matched) r.pattern t
  · have hfill : Template.fill r.replacement = fun matched => matched := by
      funext matched
      rcases hreplacement with h | h
      · rw [h, fill_zero]
      · rw [h, fill_zero_in_braces]
    rw [Rule.apply, hfill, splice_self]

/-- A star that puts in what it takes, with an empty match on the empty line. -/
theorem Rule.apply_rewrites_matches_only_of_star :
    let r : Rule :=
      ⟨"*".toList, ⟨[.run], .sensitive⟩, "$\x7b0\x7d".toList, .sensitive, 1⟩
    r.pattern.spans "é\n\nk".toList = [⟨0, 1⟩, ⟨2, 2⟩, ⟨3, 4⟩] ∧
      gaps "é\n\nk".toList 0 [⟨0, 1⟩, ⟨2, 2⟩, ⟨3, 4⟩] = [[], "\n".toList, "\n".toList, []] ∧
      r.replacement = "$\x7b0\x7d".toList ∧ r.apply "é\n\nk".toList = "é\n\nk".toList := by
  intro r
  obtain ⟨-, -, -, -, hsame⟩ := Rule.apply_rewrites_matches_only r "é\n\nk".toList
  exact ⟨by decide, by decide, rfl, hsame (.inr rfl)⟩

end Phrasebook
