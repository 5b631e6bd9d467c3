import Phrasebook.Proofs.Wildcard.Iteration
import Phrasebook.Proofs.Wildcard.Search

/-!
# Languages and the spans that are found

A search picks one span of all that match, so that a pattern with a larger language may well find
another span. But it picks the leftmost one and of those the longest, and from more spans to pick
from it gets nothing worse (`Pattern.exists_search_asGoodAs`). Two patterns have the same list of
all matches in every text exactly if they have the same language (`Pattern.spans_eq_iff`), since a
text that matches as a whole is the first match in itself. How the languages of one pattern in two
modes compare can be read off its literals (`matches_imp_iff`): texts that hold one character for
each place of the pattern, and nothing for a run, tell them apart.
-/

set_option autoImplicit false

namespace Phrasebook.Wildcard

/-! ## Spans -/

/-- A search that goes for the leftmost span, and for the longest one there, would not give up the
first of two spans for the second. -/
structure Span.AsGoodAs (a b : Span) : Prop where
  /-- It starts no further right. -/
  start_le : a.start ≤ b.start
  /-- If it starts at the same place, then it ends no further left. -/
  stop_le : a.start = b.start → b.stop ≤ a.stop

theorem Span.AsGoodAs.inBytes {a b : Span} {t : Text} (h : a.AsGoodAs b) (ha : a.Inside t)
    (hb : b.Inside t) : (a.inBytes t).AsGoodAs (b.inBytes t) := by
  have hastart : a.start ≤ t.length := Nat.le_trans ha.1 ha.2
  have hbstart : b.start ≤ t.length := Nat.le_trans hb.1 hb.2
  constructor
  · exact (Text.byteOffset_le_iff hastart hbstart).2 h.start_le
  · intro hstart
    have heq : a.start = b.start := (Text.byteOffset_inj hastart hbstart).1 hstart
    exact (Text.byteOffset_le_iff hb.2 ha.2).2 (h.stop_le heq)

/-- The leftmost longest segment with a weaker property. -/
theorem LeftmostLongest.asGoodAs {P Q : Text → Prop} {t : Text} {start : Nat} {s s' : Span}
    (hle : ∀ m, P m → Q m) (h : LeftmostLongest P t start s) (h' : LeftmostLongest Q t start s') :
    s'.AsGoodAs s where
  start_le := h'.leftmost s h.inside h.start_le (hle _ h.holds)
  stop_le hstart := h'.longest s h.inside hstart.symm (hle _ h.holds)

/-! ## Patterns with a larger language -/

section

variable {p p' : Pattern} {t : Text}

/-- **A larger language finds nothing worse.** -/
theorem Pattern.exists_search_asGoodAs
    (hle : ∀ m, Matches p.mode p.tokens m → Matches p'.mode p'.tokens m) {start : Nat} {s : Span}
    (hs : p.search t start = some s) :
    ∃ s', p'.search t start = some s' ∧ s'.AsGoodAs s ∧ (s'.inBytes t).AsGoodAs (s.inBytes t) := by
  have hbest : LeftmostLongest (Matches p.mode p.tokens) t start s :=
    Pattern.search_eq_some_iff.1 hs
  cases hs' : p'.search t start with
  | none =>
      -- The span that was found would do for the other pattern too.
      have hno := Pattern.search_eq_none_iff.1 hs' s hbest.inside hbest.start_le
      exact absurd (hle _ hbest.holds) hno
  | some s' =>
      have hbest' := Pattern.search_eq_some_iff.1 hs'
      have hgood : s'.AsGoodAs s := hbest.asGoodAs hle hbest'
      exact ⟨s', rfl, hgood, hgood.inBytes hbest'.inside hbest.inside⟩

theorem Pattern.isMatch_mono
    (hle : ∀ m, Matches p.mode p.tokens m → Matches p'.mode p'.tokens m)
    (h : p.isMatch t = true) : p'.isMatch t = true := by
  obtain ⟨s, hinside, hmatch⟩ := Pattern.isMatch_iff.1 h
  exact Pattern.isMatch_iff.2 ⟨s, hinside, hle _ hmatch⟩

/-! ## Patterns with the same language -/

/-- A text matches as a whole exactly if it is the first match in itself. -/
theorem Pattern.matches_iff_head?_spans {m : Text} :
    Matches p.mode p.tokens m ↔ (p.spans m).head? = some ⟨0, m.length⟩ := by
  have htext : Span.text ⟨0, m.length⟩ m = m := by
    show (m.take m.length).drop 0 = m
    rw [List.drop_zero, List.take_length]
  rw [head?_spans, search_eq_some_iff]
  constructor
  · intro hm
    refine ⟨⟨Nat.zero_le _, Nat.le_refl _⟩, Nat.le_refl _, by rwa [htext], ?_, ?_⟩
    · exact fun s' _ _ _ => Nat.zero_le s'.start
    · exact fun s' hinside _ _ => hinside.2
  · intro hbest
    have hholds := hbest.holds
    rwa [htext] at hholds

theorem Pattern.reachAt_congr
    (h : ∀ m, Matches p.mode p.tokens m ↔ Matches p'.mode p'.tokens m) :
    p.reachAt = p'.reachAt := by
  funext u
  unfold reachAt
  -- What is found at the start of a text is the longest of its prefixes that match.
  ext n
  rw [greedy_eq_some_iff, greedy_eq_some_iff]
  simp only [h]

/-- **The lists of all matches tell languages apart**, and nothing more than that. -/
theorem Pattern.spans_eq_iff :
    (∀ t, p.spans t = p'.spans t) ↔
      ∀ m, Matches p.mode p.tokens m ↔ Matches p'.mode p'.tokens m := by
  constructor
  · intro hspans m
    rw [matches_iff_head?_spans, hspans, matches_iff_head?_spans]
  · intro hlanguage t
    rw [spans_eq_spansAlong, spans_eq_spansAlong, reachAt_congr hlanguage]

end

/-! ## Literals -/

section

variable {mode mode' : CaseMode} {ts : List Token} {m : Text}

theorem CaseMode.agree_refl (mode : CaseMode) (x : Char) : mode.Agree x x :=
  (mode.agree_iff x x).2 rfl

/-- Only what a literal stands for depends on the mode. -/
theorem Token.accepts_mono {tok : Token} {c : Char}
    (hle : ∀ x, tok = .lit x → mode.Agree x c → mode'.Agree x c) (h : tok.accepts mode c = true) :
    tok.accepts mode' c = true := by
  cases tok with
  | lit x =>
      have hx : mode.Agree x c := (Token.accepts_lit_iff_agree mode x c).1 h
      exact (Token.accepts_lit_iff_agree mode' x c).2 (hle x rfl hx)
  | one => exact (Token.accepts_one mode' c).2 ((Token.accepts_one mode c).1 h)
  | run => cases h

theorem Matches.mono
    (hle : ∀ x, Token.lit x ∈ ts → ∀ c, mode.Agree x c → mode'.Agree x c)
    (h : Matches mode ts m) : Matches mode' ts m := by
  induction h with
  | nil => exact .nil
  | single hc _ ih =>
      refine .single (Token.accepts_mono (fun x hx => ?_) hc) (ih fun x hx => ?_)
      · exact hle x (hx ▸ List.mem_cons_self) _
      · exact hle x (List.mem_cons_of_mem _ hx)
  | run hr _ ih => exact .run hr (ih fun x hx => hle x (List.mem_cons_of_mem _ hx))

/-! ## Samples -/

/-- A text with one character for each place of a pattern that stands for one: a literal gives the
character that is picked for it. -/
def sample (pick : Char → Char) : List Token → Text
  | [] => []
  | .lit x :: ts => pick x :: sample pick ts
  | .one :: ts => ' ' :: sample pick ts
  | .run :: ts => sample pick ts

theorem matches_single_cons_iff {tok : Token} (htok : tok ≠ .run) {c : Char} :
    Matches mode (tok :: ts) (c :: m) ↔ tok.accepts mode c = true ∧ Matches mode ts m := by
  constructor
  · intro h
    obtain ⟨c', rest, heq, hc, hrest⟩ := h.single_inv htok
    rw [List.cons.injEq] at heq
    rw [heq.1, heq.2]
    exact ⟨hc, hrest⟩
  · rintro ⟨hc, hm⟩
    exact .single hc hm

/-- No match is shorter than a sample. -/
theorem Matches.length_sample_le (pick : Char → Char) (h : Matches mode ts m) :
    (sample pick ts).length ≤ m.length := by
  induction h with
  | nil => exact Nat.le_refl _
  | @single tok _ _ _ hc _ ih =>
      cases tok with
      | lit x => exact Nat.succ_le_succ ih
      | one => exact Nat.succ_le_succ ih
      | run => cases hc
  | run _ _ ih =>
      rw [List.length_append]
      exact Nat.le_add_left_of_le ih

/-- A run takes nothing of a sample, since what follows the run needs all of it. -/
theorem matches_run_sample_iff {pick : Char → Char} :
    Matches mode (.run :: ts) (sample pick ts) ↔ Matches mode ts (sample pick ts) := by
  constructor
  · intro h
    obtain ⟨r, rest, heq, -, hrest⟩ := h.run_inv
    have hlength : (sample pick ts).length ≤ rest.length := hrest.length_sample_le pick
    rw [heq, List.length_append] at hlength
    have hempty : r = [] := List.length_eq_zero_iff.1 (by omega)
    rw [heq, hempty]
    exact hrest
  · exact fun h => .run (List.forall_mem_nil _) h

/-- **A sample matches exactly if its literals do.** -/
theorem matches_sample_iff {pick : Char → Char} :
    Matches mode ts (sample pick ts) ↔ ∀ x, Token.lit x ∈ ts → mode.Agree x (pick x) := by
  induction ts with
  | nil => exact ⟨fun _ x hx => absurd hx List.not_mem_nil, fun _ => .nil⟩
  | cons tok ts ih =>
      cases tok with
      | lit y =>
          rw [sample, matches_single_cons_iff Token.noConfusion, Token.accepts_lit_iff_agree, ih]
          simp only [List.mem_cons, Token.lit.injEq, forall_eq_or_imp]
      | one =>
          have hblank : Token.one.accepts mode ' ' = true :=
            (Token.accepts_one mode ' ').2 (by decide)
          rw [sample, matches_single_cons_iff Token.noConfusion, ih]
          simp only [hblank, true_and, List.mem_cons, reduceCtorEq, false_or]
      | run =>
          rw [sample, matches_run_sample_iff, ih]
          simp only [List.mem_cons, reduceCtorEq, false_or]

/-- **The literals decide** whether one mode makes the language of a pattern as large as another
mode does. -/
theorem matches_imp_iff :
    (∀ m, Matches mode ts m → Matches mode' ts m) ↔
      ∀ x, Token.lit x ∈ ts → ∀ c, mode.Agree x c → mode'.Agree x c := by
  constructor
  · intro himp x hx c hc
    -- A sample with `c` for the literal `x`, and every other literal for itself.
    have hsample : Matches mode ts (sample (fun y => if y = x then c else y) ts) := by
      refine matches_sample_iff.2 fun y _ => ?_
      by_cases hy : y = x
      · rw [if_pos hy, hy]
        exact hc
      · rw [if_neg hy]
        exact mode.agree_refl y
    have hagree := matches_sample_iff.1 (himp _ hsample) x hx
    rwa [if_pos rfl] at hagree
  · exact fun hle _ => Matches.mono hle

end

end Phrasebook.Wildcard
