import Phrasebook.Proofs.Charset.Cover
import Phrasebook.Proofs.Text.Folding
import Phrasebook.Proofs.Wildcard.Reading
import Phrasebook.Wildcard.Match

/-!
# Matching that folds case cannot see case

A pattern that folds case looks at a text, and at its own literals, through representatives only. The
characters that have a meaning in a wildcard are alone in their classes, so that folding a wildcard
folds its literals and moves nothing else (`tokens_map_foldCase`). So wildcards and texts that are
case-equivalent give the same matches, counted in characters (`matching_cannot_see_case`).
-/

set_option autoImplicit false

namespace Phrasebook.Wildcard

open Text (CaseEquivalent SameClass foldCase)

/-! ## Folding a wildcard -/

theorem foldCase_backslash_iff (c : Char) : foldCase c = '\\' ↔ c = '\\' :=
  Text.foldCase_eq_iff_of_variants (by decide +kernel) c

theorem foldCase_star_iff (c : Char) : foldCase c = '*' ↔ c = '*' :=
  Text.foldCase_eq_iff_of_variants (by decide +kernel) c

theorem foldCase_question_iff (c : Char) : foldCase c = '?' ↔ c = '?' :=
  Text.foldCase_eq_iff_of_variants (by decide +kernel) c

theorem IsPlain.foldCase {c : Char} (h : IsPlain c) : IsPlain (foldCase c) := by
  obtain ⟨hbackslash, hstar, hquestion⟩ := h
  exact ⟨(foldCase_backslash_iff c).not.2 hbackslash, (foldCase_star_iff c).not.2 hstar,
    (foldCase_question_iff c).not.2 hquestion⟩

/-- **Folding a wildcard folds its literals.** -/
theorem tokens_map_foldCase (w : Text) :
    tokens (w.map foldCase) = (tokens w).map (Token.keyed .insensitive) := by
  have hbackslash : foldCase '\\' = '\\' := (foldCase_backslash_iff _).2 rfl
  have hstar : foldCase '*' = '*' := (foldCase_star_iff _).2 rfl
  have hquestion : foldCase '?' = '?' := (foldCase_question_iff _).2 rfl
  induction w using wildcard_induction with
  | nil => rfl
  | dangling =>
      rw [List.map_singleton, hbackslash]
      rfl
  | escaped c rest ih =>
      -- What is escaped is a literal, whatever it is folded to.
      rw [List.map_cons, List.map_cons, hbackslash, tokens, tokens, ih]
      rfl
  | star rest ih =>
      rw [List.map_cons, hstar, tokens, tokens, ih]
      rfl
  | question rest ih =>
      rw [List.map_cons, hquestion, tokens, tokens, ih]
      rfl
  | plain c rest hplain ih =>
      rw [List.map_cons, tokens_plain hplain, tokens_plain hplain.foldCase, ih]
      rfl

/-! ## The size of a folded wildcard -/

theorem literalSize_eq_of_sameClass (backward : Bool) {c d : Char} (h : SameClass c d) :
    literalSize backward .insensitive c = literalSize backward .insensitive d := by
  have hvariants : Text.variants c = Text.variants d :=
    Text.variants_congr (Text.sameClass_iff_foldCase.1 h)
  simp only [literalSize, hvariants]
  split
  · -- A class of one character.
    next honly =>
      have hc : c ∈ Text.variants d := hvariants ▸ Text.mem_variants c
      rw [Charset.eq_of_isSome_only? honly hc (Text.mem_variants d)]
  · rfl

theorem Token.size_keyed (backward : Bool) (tok : Token) :
    (tok.keyed .insensitive).size backward .insensitive = tok.size backward .insensitive := by
  cases tok with
  | lit c => exact (literalSize_eq_of_sameClass backward (Text.sameClass_foldCase c)).symm
  | one => rfl
  | run => rfl

theorem programSize_map_keyed (backward : Bool) (ts : List Token) :
    programSize backward .insensitive (ts.map (Token.keyed .insensitive))
      = programSize backward .insensitive ts := by
  simp only [programSize, List.foldl_map, Token.size_keyed]

theorem fits_map_keyed (ts : List Token) :
    fits .insensitive (ts.map (Token.keyed .insensitive)) = fits .insensitive ts := by
  rw [fits, programSize_map_keyed, programSize_map_keyed, fits]

/-! ## Matching -/

variable {w w' : Text}

theorem fits_tokens_congr (h : CaseEquivalent w w') :
    fits .insensitive (tokens w) = fits .insensitive (tokens w') := by
  rw [← fits_map_keyed, ← tokens_map_foldCase, Text.caseEquivalent_iff.1 h, tokens_map_foldCase,
    fits_map_keyed]

theorem reaches_congr {p p' : Pattern} (hw : CaseEquivalent w w')
    (hp : compile w .insensitive = .ok p) (hp' : compile w' .insensitive = .ok p') {t t' : Text}
    (ht : CaseEquivalent t t') : p.reaches t = p'.reaches t' := by
  obtain ⟨-, rfl⟩ := compile_eq_ok_iff.1 hp
  obtain ⟨-, rfl⟩ := compile_eq_ok_iff.1 hp'
  calc reaches ((tokens w).map (Token.keyed .insensitive)) (t.map foldCase)
      = reaches (tokens (w.map foldCase)) (t.map foldCase) := by rw [tokens_map_foldCase]
    _ = reaches (tokens (w'.map foldCase)) (t'.map foldCase) := by
        rw [Text.caseEquivalent_iff.1 hw, Text.caseEquivalent_iff.1 ht]
    _ = reaches ((tokens w').map (Token.keyed .insensitive)) (t'.map foldCase) := by
        rw [tokens_map_foldCase]

/-- **Matching that folds case cannot see case.** Of two wildcards that are case-equivalent, either
both compile to patterns that fold case or none does. If they do, then they have the same matches in
texts that are case-equivalent, counted in characters: the same first match from every position on,
and the same list of all matches. -/
theorem matching_cannot_see_case (hw : CaseEquivalent w w') :
    ((∃ p, compile w .insensitive = .ok p) ↔ ∃ p', compile w' .insensitive = .ok p') ∧
      ∀ p p', compile w .insensitive = .ok p → compile w' .insensitive = .ok p' →
        ∀ t t', CaseEquivalent t t' →
          (∀ start, p.search t start = p'.search t' start) ∧ p.spans t = p'.spans t' := by
  constructor
  · simp only [compile_eq_ok_iff, fits_tokens_congr hw, exists_and_left, exists_eq]
  · intro p p' hp hp' t t' ht
    have hreaches : p.reaches t = p'.reaches t' := reaches_congr hw hp hp' ht
    refine ⟨fun start => ?_, ?_⟩
    · rw [Pattern.search, hreaches, Pattern.search]
    · rw [Pattern.spans, hreaches, Pattern.spans]

/-- Classes of three characters, the members of which take from one byte to three. -/
theorem matching_cannot_see_case_of_kelvins :
    CaseEquivalent "k*\\ς?".toList "\u212A*\\Σ?".toList ∧
      compile "k*\\ς?".toList .insensitive = .ok ⟨[.lit 'k', .run, .lit 'ς', .one], .insensitive⟩ ∧
      compile "\u212A*\\Σ?".toList .insensitive
        = .ok ⟨[.lit '\u212A', .run, .lit 'Σ', .one], .insensitive⟩ ∧
      CaseEquivalent "aKſσß-\nkσs".toList "A\u212ASςẞ-\nKΣs".toList ∧
      Pattern.spans ⟨[.lit '\u212A', .run, .lit 'Σ', .one], .insensitive⟩
        "A\u212ASςẞ-\nKΣs".toList = [⟨1, 5⟩, ⟨7, 10⟩] := by
  have hw : CaseEquivalent "k*\\ς?".toList "\u212A*\\Σ?".toList :=
    Text.caseEquivalent_iff.2 (by decide +kernel)
  have ht : CaseEquivalent "aKſσß-\nkσs".toList "A\u212ASςẞ-\nKΣs".toList :=
    Text.caseEquivalent_iff.2 (by decide +kernel)
  have hp : compile "k*\\ς?".toList .insensitive
      = .ok ⟨[.lit 'k', .run, .lit 'ς', .one], .insensitive⟩ :=
    compile_eq_ok_iff.2 ⟨by decide +kernel, by decide +kernel⟩
  obtain ⟨hcompiles, hmatches⟩ := matching_cannot_see_case hw
  obtain ⟨p', hp'⟩ := hcompiles.1 ⟨_, hp⟩
  obtain ⟨-, rfl⟩ := compile_eq_ok_iff.1 hp'
  refine ⟨hw, hp, hp', ht, ?_⟩
  calc Pattern.spans _ "A\u212ASςẞ-\nKΣs".toList
      = Pattern.spans _ "aKſσß-\nkσs".toList := ((hmatches _ _ hp hp' _ _ ht).2).symm
    _ = [⟨1, 5⟩, ⟨7, 10⟩] := by decide +kernel

end Phrasebook.Wildcard
