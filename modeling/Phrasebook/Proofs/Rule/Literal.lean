import Phrasebook.Proofs.Rule.Reading
import Phrasebook.Proofs.Rule.Rewriting

/-!
# Every literal replacement has a rule line

To replace one text by another, put a backslash before every character of the first and double
every dollar sign of the second. None of the readers of the line (the separator, the quotes, the
wildcard, the matching and the template) takes anything in the two texts for its own sign, so that
the rule replaces every occurrence of the one by the other (`literalRule_apply`).
-/

set_option autoImplicit false

namespace Phrasebook

open Wildcard
open RuleLine (inQuotes)

/-! ## Replacing occurrences -/

namespace Text

/-- A text with every occurrence of `p` replaced by `r`, from left to right and without overlaps;
`p` is not empty. -/
def replaceOccurrences (p r : Text) : Text → Text
  | [] => []
  | c :: rest =>
      if p.isPrefixOf (c :: rest) then r ++ replaceOccurrences p r (rest.drop (p.length - 1))
      else c :: replaceOccurrences p r rest
  termination_by t => t.length
  decreasing_by all_goals simp; try omega

/-- A text with every occurrence of `p` replaced by `r`. The empty text occurs before every
character and at the end. -/
def replaceAll (p r t : Text) : Text :=
  if p.isEmpty then t.flatMap (fun c => r ++ [c]) ++ r else replaceOccurrences p r t

end Text

/-! ## The line -/

/-- A text with a backslash before every character. -/
def escapeAll (t : Text) : Text := t.flatMap fun c => ['\\', c]

/-- A text with every dollar sign doubled. -/
def doubleDollars (t : Text) : Text := t.flatMap fun c => if c = '$' then ['$', '$'] else [c]

/-- The rule line for the replacement of `p` by `r`. -/
def literalLine (p r : Text) : Text :=
  inQuotes (escapeAll p) ++ RuleLine.separator ++ inQuotes (doubleDollars r)

/-- Between two characters of an escaped text there is always a backslash, so that no separator
begins in it. -/
theorem splitFirst?_escapeAll (p after : Text) :
    Text.splitFirst? RuleLine.separator (escapeAll p ++ '"' :: (RuleLine.separator ++ after))
      = some (escapeAll p ++ ['"'], after) := by
  have hskip : ∀ (c : Char) (t : Text), RuleLine.separator.isPrefixOf (c :: t) = false →
      Text.splitFirst? RuleLine.separator (c :: t)
        = (Text.splitFirst? RuleLine.separator t).map fun halves => (c :: halves.1, halves.2) := by
    intro c t h
    rw [Text.splitFirst?, h]
    rfl
  induction p with
  | nil =>
      rw [show escapeAll [] ++ '"' :: (RuleLine.separator ++ after)
        = '"' :: (RuleLine.separator ++ after) from rfl, hskip]
      · rfl
      · rfl
  | cons c p ih =>
      -- Even if `c` is an equals sign, no second one follows it.
      have hnext : RuleLine.separator.isPrefixOf
          (c :: (escapeAll p ++ '"' :: (RuleLine.separator ++ after))) = false := by
        cases p with
        | nil => simp [escapeAll, RuleLine.separator, List.isPrefixOf]
        | cons d p => simp [escapeAll, RuleLine.separator, List.isPrefixOf]
      rw [show escapeAll (c :: p) ++ '"' :: (RuleLine.separator ++ after)
        = '\\' :: c :: (escapeAll p ++ '"' :: (RuleLine.separator ++ after)) from rfl,
        hskip _ _ rfl, hskip _ _ hnext, ih]
      rfl

theorem splitFirst?_literalLine (p r : Text) :
    Text.splitFirst? RuleLine.separator (literalLine p r)
      = some (inQuotes (escapeAll p), inQuotes (doubleDollars r)) := by
  have hline : literalLine p r
      = '"' :: (escapeAll p ++ '"' :: (RuleLine.separator ++ inQuotes (doubleDollars r))) := by
    simp [literalLine, inQuotes]
  rw [hline, Text.splitFirst?, if_neg, splitFirst?_escapeAll]
  · rfl
  · rw [show RuleLine.separator.isPrefixOf ('"' ::
      (escapeAll p ++ '"' :: (RuleLine.separator ++ inQuotes (doubleDollars r)))) = false from rfl]
    exact Bool.false_ne_true

theorem parse_literalLine (p r : Text) :
    RuleLine.parse (literalLine p r) = .ok (escapeAll p, doubleDollars r) := by
  have hunquote : ∀ t, RuleLine.unquote? (Text.trim (inQuotes t)) = some t := by
    intro t
    rw [RuleLine.trim_inQuotes]
    exact RuleLine.unquote?_inQuotes t
  rw [RuleLine.parse, splitFirst?_literalLine]
  simp only [hunquote]

/-! ## The wildcard and the template -/

theorem tokens_escapeAll (p : Text) : tokens (escapeAll p) = p.map Token.lit := by
  induction p with
  | nil => rfl
  | cons c p ih =>
      rw [show escapeAll (c :: p) = '\\' :: c :: escapeAll p from rfl, tokens, ih]
      rfl

/-- With its dollar signs doubled, a text stands for itself, whatever follows it. -/
theorem fill_doubleDollars_append (r rest matched : Text) :
    Template.fill (doubleDollars r ++ rest) matched = r ++ Template.fill rest matched := by
  induction r with
  | nil => rfl
  | cons c r ih =>
      by_cases hc : c = '$'
      · subst hc
        show Template.fill ('$' :: '$' :: (doubleDollars r ++ rest)) matched = _
        rw [Template.fill_dollar]
        exact congrArg ('$' :: ·) ih
      · have hdouble : doubleDollars (c :: r) = c :: doubleDollars r := by
          rw [doubleDollars, List.flatMap_cons, if_neg hc]
          rfl
        rw [hdouble, List.cons_append, Template.fill_cons hc, ih, List.cons_append]

/-- With its dollar signs doubled, a text is a template for itself. -/
theorem fill_doubleDollars (r matched : Text) : Template.fill (doubleDollars r) matched = r := by
  have h := fill_doubleDollars_append r [] matched
  rwa [Template.fill_nil, List.append_nil, List.append_nil] at h

/-! ## Matching a literal text -/

theorem greedy_map_lit (p t : Text) :
    greedy .sensitive (p.map Token.lit) t = if p.isPrefixOf t then some p.length else none := by
  induction p generalizing t with
  | nil => rfl
  | cons c p ih =>
      cases t with
      | nil => rfl
      | cons d rest =>
          have haccepts : (Token.lit c).accepts .sensitive d = (c == d) := rfl
          rw [List.map_cons, greedy_single_cons Token.noConfusion, ih, haccepts, List.isPrefixOf]
          by_cases hcd : (c == d) = true
          · rw [hcd, if_pos rfl, Bool.true_and]
            split <;> rfl
          · rw [Bool.not_eq_true] at hcd
            rw [hcd, if_neg Bool.false_ne_true, Bool.false_and, if_neg Bool.false_ne_true]

/-- The empty text is found everywhere, and never where something has just ended. -/
theorem rewrite_of_nil {find : Text → Reach} (hfind : ∀ t, find t = some 0) (r t : Text) :
    rewrite find (fun _ => r) false t = t.flatMap (fun c => r ++ [c]) ++ r := by
  induction t with
  | nil =>
      rw [rewrite, hfind]
      rfl
  | cons c rest ih =>
      rw [rewrite_zero (hfind _), ih]
      simp

theorem rewrite_of_prefix {find : Text → Reach} {p : Text} (hp : p ≠ [])
    (hfind : ∀ t, find t = if p.isPrefixOf t then some p.length else none) (r : Text)
    (ended : Bool) (t : Text) :
    rewrite find (fun _ => r) ended t = Text.replaceOccurrences p r t := by
  have hlength : p.length ≠ 0 := fun h => hp (List.length_eq_zero_iff.1 h)
  have hpos : ∀ {t : Text} {n : Nat}, find t = some n → p.isPrefixOf t = true ∧ n = p.length := by
    intro t n h
    rw [hfind] at h
    split at h
    · next hstarts => exact ⟨hstarts, (Option.some.inj h).symm⟩
    · cases h
  induction t using scan_induction find generalizing ended with
  | nil =>
      have hnone : find [] = none := by
        cases hfound : find [] with
        | none => rfl
        | some n => exact absurd (List.isPrefixOf_iff_prefix.1 (hpos hfound).1) (by simpa using hp)
      rw [rewrite, hnone, Text.replaceOccurrences]
      simp
  | none c rest hfound ih =>
      have hno : ¬ p.isPrefixOf (c :: rest) = true := by
        intro h
        rw [hfind, if_pos h] at hfound
        cases hfound
      rw [rewrite_none hfound, Text.replaceOccurrences, if_neg hno, ih]
  | zero c rest hfound ih =>
      -- No match of `p` is empty.
      exact absurd (hpos hfound).2.symm hlength
  | succ c rest n hfound ih =>
      obtain ⟨hstarts, hn⟩ := hpos hfound
      rw [rewrite_succ hfound, Text.replaceOccurrences, if_pos hstarts, ih, ← hn,
        Nat.add_sub_cancel]

/-! ## The rule -/

/-- The rule on the line for the replacement of `p` by `r`. -/
def literalRule (p r : Text) : Rule :=
  ⟨escapeAll p, ⟨p.map Token.lit, .sensitive⟩, doubleDollars r, .sensitive, 1⟩

theorem literalRule_apply (p r m : Text) : (literalRule p r).apply m = Text.replaceAll p r m := by
  have hfind : (literalRule p r).pattern.reachAt
      = fun t => if p.isPrefixOf t then some p.length else none :=
    funext fun t => greedy_map_lit p t
  have hedit : Template.fill (literalRule p r).replacement = fun _ => r :=
    funext fun matched => fill_doubleDollars r matched
  -- What is left is to rewrite with a search for `p` and with `r` for whatever is found.
  rw [Rule.apply_eq_rewrite, hfind, hedit, Text.replaceAll]
  cases p with
  | nil => exact rewrite_of_nil (fun _ => rfl) r m
  | cons c p => exact rewrite_of_prefix (List.cons_ne_nil c p) (fun _ => rfl) r false m

theorem ofLines_literalLine {p : Text} (h : fits .sensitive (tokens (escapeAll p)) = true)
    (r : Text) : RuleSet.ofLines [literalLine p r] = [literalRule p r] := by
  have hcompile : compile (escapeAll p) .sensitive = .ok ⟨p.map Token.lit, .sensitive⟩ :=
    compile_eq_ok_iff.2 ⟨h, by rw [tokens_escapeAll]⟩
  have hblank : Text.allBlank (literalLine p r) = false := by
    rw [literalLine, inQuotes, Text.allBlank]
    rfl
  have hjudge : judge .sensitive 1 (literalLine p r) = .rule (literalRule p r) := by
    simp only [judge, hblank, readRule, parse_literalLine, hcompile]
    rfl
  show [judge .sensitive 1 (literalLine p r)].filterMap Verdict.rule? = _
  rw [hjudge]
  rfl

/-- **Every literal replacement has a rule line.** For any two texts of which the first is not too
long for a pattern, the line that is made of them is one rule, its wildcard and its replacement are
the two texts as escaped, and it replaces every occurrence of the first by the second. -/
theorem literalLine_replaces_all (p r : Text)
    (h : fits .sensitive (tokens (escapeAll p)) = true) :
    (∃ rule, RuleSet.ofLines [literalLine p r] = [rule] ∧ rule.wildcard = escapeAll p ∧
        rule.replacement = doubleDollars r) ∧
      ∀ m, (RuleSet.ofLines [literalLine p r]).apply m = Text.replaceAll p r m := by
  rw [ofLines_literalLine h]
  refine ⟨⟨literalRule p r, rfl, rfl, rfl⟩, fun m => ?_⟩
  calc RuleSet.apply [literalRule p r] m
      = RuleSet.apply [] ((literalRule p r).apply m) := RuleSet.apply_cons _ _ _
    _ = (literalRule p r).apply m := rfl
    _ = Text.replaceAll p r m := literalRule_apply p r m

/-- Separators, quotes, stars and dollar signs are replaced like any other text. -/
theorem literalLine_replaces_signs :
    fits .sensitive (tokens (escapeAll "\"===*".toList)) = true ∧
      ∀ m, (RuleSet.ofLines [literalLine "\"===*".toList "$0\\\"".toList]).apply m
        = Text.replaceAll "\"===*".toList "$0\\\"".toList m :=
  ⟨by decide, (literalLine_replaces_all _ _ (by decide)).2⟩

end Phrasebook
