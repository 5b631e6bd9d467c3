import Phrasebook.Proofs.Rule.WellFormed
import Phrasebook.Proofs.Wildcard.Inclusion

/-!
# Folding case widens what matches

A literal that folds case stands for its whole class, and so for itself: whatever a wildcard stands
for with case respected, it stands for with case folded (`Matches.insensitive`). Nothing is added
exactly if every literal is alone in its class (`matches_modes_iff`). Spans that are found, lists of
all matches and the rules of a set that is compiled anew follow suit
(`folding_case_widens_matching`).
-/

set_option autoImplicit false

namespace Phrasebook

open Wildcard

/-! ## Case modes -/

namespace Wildcard

theorem CaseMode.agree_insensitive_iff {x c : Char} :
    CaseMode.insensitive.Agree x c ↔ Text.SameClass x c := by
  rw [Text.sameClass_iff_foldCase]
  exact eq_comm

theorem CaseMode.Agree.insensitive {mode : CaseMode} {x c : Char} (h : mode.Agree x c) :
    CaseMode.insensitive.Agree x c := by
  cases mode with
  | sensitive =>
      have hc : c = x := h
      rw [hc]
      exact CaseMode.agree_refl .insensitive x
  | insensitive => exact h

/-- **Folding case adds to a language** and takes nothing away. -/
theorem Matches.insensitive {mode : CaseMode} {ts : List Token} {m : Text} (h : Matches mode ts m) :
    Matches .insensitive ts m :=
  h.mono fun _ _ _ => CaseMode.Agree.insensitive

/-- **Folding case adds nothing** exactly if every literal is alone in its class. -/
theorem matches_modes_iff {ts : List Token} :
    (∀ m, Matches .insensitive ts m ↔ Matches .sensitive ts m) ↔
      ∀ x, Token.lit x ∈ ts → Text.AloneInClass x := by
  have hone : (∀ m, Matches .insensitive ts m ↔ Matches .sensitive ts m) ↔
      ∀ m, Matches .insensitive ts m → Matches .sensitive ts m :=
    ⟨fun h m => (h m).1, fun h m => ⟨h m, Matches.insensitive⟩⟩
  rw [hone, matches_imp_iff]
  simp only [CaseMode.agree_insensitive_iff]
  rfl

end Wildcard

/-! ## Rules -/

/-- A rule that folds case stands for another one: it is that rule with its wildcard compiled anew,
and it matches in every message in which that one does. -/
structure Rule.StandsFor (s r : Rule) : Prop where
  /-- The pattern is the one of the same wildcard, with case folded. -/
  compile_eq : compile r.wildcard .insensitive = .ok s.pattern
  /-- Nothing but the pattern and the mode is changed. -/
  eq : s = { r with pattern := s.pattern, mode := .insensitive }
  /-- No message stops matching. -/
  isMatch : ∀ message, r.pattern.isMatch message = true → s.pattern.isMatch message = true

theorem Rule.standsFor_of_folded? {r s : Rule} (hr : compile r.wildcard r.mode = .ok r.pattern)
    (hs : r.folded? = some s) : s.StandsFor r := by
  obtain ⟨hcompile, heq⟩ := Rule.folded?_eq_some_iff.1 hs
  obtain ⟨-, hpattern⟩ := compile_eq_ok_iff.1 hr
  obtain ⟨-, hpattern'⟩ := compile_eq_ok_iff.1 hcompile
  have hle : ∀ m, Matches r.pattern.mode r.pattern.tokens m →
      Matches s.pattern.mode s.pattern.tokens m := by
    intro m hm
    rw [hpattern] at hm
    rw [hpattern']
    exact hm.insensitive
  exact ⟨hcompile, heq, fun _ => Pattern.isMatch_mono hle⟩

/-- Each of the rules that are small enough to fold case has a rule that stands for it. -/
theorem RuleSet.forall₂_standsFor {rules : RuleSet}
    (hrules : ∀ r ∈ rules, compile r.wildcard r.mode = .ok r.pattern) :
    List.Forall₂ (fun r s : Rule => s.StandsFor r)
      (rules.filter fun r => (compile r.wildcard .insensitive).isOk) rules.toCaseInsensitive := by
  rw [toCaseInsensitive_eq]
  refine forall₂_filter_filterMap (fun r hr hok => ?_) (fun r _ hfail => ?_)
  · cases hcompile : compile r.wildcard .insensitive with
    | error e => simp [hcompile, Except.isOk, Except.toBool] at hok
    | ok p =>
        have hfolded : r.folded? = some { r with pattern := p, mode := .insensitive } :=
          Rule.folded?_eq_some_iff.2 ⟨hcompile, rfl⟩
        exact ⟨_, hfolded, Rule.standsFor_of_folded? (hrules r hr) hfolded⟩
  · cases hcompile : compile r.wildcard .insensitive with
    | error e => simp only [Rule.folded?, hcompile]
    | ok p => simp [hcompile, Except.isOk, Except.toBool] at hfail

/-- **Folding case widens what matches.** For every wildcard that compiles in both modes: where a
search finds a span with case respected, it finds one with case folded that starts no further right,
and that ends no further left if it starts at the same place, in characters and in bytes; and the
two modes have the same list of all matches in every text exactly if every literal of the wildcard
is alone in its class. So, when a rule set is compiled anew to fold case, the rules whose wildcards
still compile go on in their order, and each of them matches in every message in which it has
matched before. -/
theorem folding_case_widens_matching :
    (∀ w p p', compile w .sensitive = .ok p → compile w .insensitive = .ok p' →
      (∀ t start s, p.search t start = some s →
        ∃ s', p'.search t start = some s' ∧ s'.AsGoodAs s ∧ (s'.inBytes t).AsGoodAs (s.inBytes t)) ∧
      ((∀ t, p'.spans t = p.spans t) ↔ ∀ x, Token.lit x ∈ tokens w → Text.AloneInClass x)) ∧
    ∀ rules : RuleSet, (∀ r ∈ rules, compile r.wildcard r.mode = .ok r.pattern) →
      List.Forall₂ (fun r s : Rule => s.StandsFor r)
        (rules.filter fun r => (compile r.wildcard .insensitive).isOk) rules.toCaseInsensitive := by
  refine ⟨fun w p p' hp hp' => ?_, fun rules hrules => RuleSet.forall₂_standsFor hrules⟩
  obtain ⟨-, rfl⟩ := compile_eq_ok_iff.1 hp
  obtain ⟨-, rfl⟩ := compile_eq_ok_iff.1 hp'
  constructor
  · intro t start s hs
    exact Pattern.exists_search_asGoodAs (fun _ => Matches.insensitive) hs
  · exact Pattern.spans_eq_iff.trans matches_modes_iff

/-- Folding goes on to the Kelvin sign. A digit has no variant, so that folding changes nothing. -/
theorem folding_case_widens_matching_to_kelvin :
    compile "*k".toList .sensitive = .ok ⟨[.run, .lit 'k'], .sensitive⟩ ∧
      compile "*k".toList .insensitive = .ok ⟨[.run, .lit 'k'], .insensitive⟩ ∧
      Pattern.search ⟨[.run, .lit 'k'], .sensitive⟩ "ck\u212A".toList 0 = some ⟨0, 2⟩ ∧
      Span.AsGoodAs ⟨0, 3⟩ ⟨0, 2⟩ ∧ Span.AsGoodAs ⟨0, 5⟩ ⟨0, 2⟩ ∧
      compile "1?".toList .sensitive = .ok ⟨[.lit '1', .one], .sensitive⟩ ∧
      compile "1?".toList .insensitive = .ok ⟨[.lit '1', .one], .insensitive⟩ ∧
      (∀ t, Pattern.spans ⟨[.lit '1', .one], .insensitive⟩ t
        = Pattern.spans ⟨[.lit '1', .one], .sensitive⟩ t) ∧
      Rule.StandsFor
        ⟨"*k".toList, ⟨[.run, .lit 'k'], .insensitive⟩, "$0!".toList, .insensitive, 3⟩
        ⟨"*k".toList, ⟨[.run, .lit 'k'], .sensitive⟩, "$0!".toList, .sensitive, 3⟩ := by
  have hstar : compile "*k".toList .sensitive = .ok ⟨[.run, .lit 'k'], .sensitive⟩ :=
    compile_eq_ok_iff.2 ⟨by decide, rfl⟩
  have hstar' : compile "*k".toList .insensitive = .ok ⟨[.run, .lit 'k'], .insensitive⟩ :=
    compile_eq_ok_iff.2 ⟨by decide +kernel, rfl⟩
  have hdigit : compile "1?".toList .sensitive = .ok ⟨[.lit '1', .one], .sensitive⟩ :=
    compile_eq_ok_iff.2 ⟨by decide, rfl⟩
  have hdigit' : compile "1?".toList .insensitive = .ok ⟨[.lit '1', .one], .insensitive⟩ :=
    compile_eq_ok_iff.2 ⟨by decide +kernel, rfl⟩
  have hsearch : Pattern.search ⟨[.run, .lit 'k'], .sensitive⟩ "ck\u212A".toList 0
      = some ⟨0, 2⟩ := by decide
  have halone : ∀ x, Token.lit x ∈ tokens "1?".toList → Text.AloneInClass x := by
    intro x hx
    have hliteral : x = '1' := by simpa [tokens] using hx
    rw [hliteral]
    exact Text.aloneInClass_of_variants (by decide +kernel)
  obtain ⟨hwildcards, hsets⟩ := folding_case_widens_matching
  obtain ⟨s, hs, hgood, hbytes⟩ := (hwildcards _ _ _ hstar hstar').1 _ _ _ hsearch
  obtain rfl : (⟨0, 3⟩ : Span) = s := Option.some.inj (Eq.trans (by decide +kernel) hs)
  have hrules := hsets
    [⟨"*k".toList, ⟨[.run, .lit 'k'], .sensitive⟩, "$0!".toList, .sensitive, 3⟩]
    (List.forall_mem_singleton.2 hstar)
  rw [List.filter_cons_of_pos (by rw [hstar']; rfl)] at hrules
  exact ⟨hstar, hstar', hsearch, hgood, hbytes, hdigit, hdigit',
    (hwildcards _ _ _ hdigit hdigit').2.2 halone, (List.forall₂_cons.1 hrules).1⟩

end Phrasebook
