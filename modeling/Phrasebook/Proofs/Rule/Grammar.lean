import Phrasebook.Proofs.Rule.Reading

/-!
# The grammar of rule lines

A rule line is a wildcard in double quotes, a separator and a replacement in double quotes, with
blanks around the quotes, where the wildcard holds no separator (`IsRuleLine`). Reading a line takes
exactly these, and the error says which half of the grammar a line breaks first
(`parse_accepts_grammar`). The separator consists of equals signs and a half ends in a quote or a
blank, so that no separator can begin in the first half and end after it.
-/

set_option autoImplicit false

namespace Phrasebook.RuleLine

open Text (allBlank FirstCut)

/-! ## Halves in quotes -/

/-- `half` is `body` in double quotes with blanks around them. -/
def Encloses (half body : Text) : Prop :=
  ∃ lead trail, allBlank lead = true ∧ allBlank trail = true ∧
    half = lead ++ inQuotes body ++ trail

/-- `half` is, but for blanks around it, a text of at least two characters that begins with a
double quote and ends with one. -/
def IsQuoted (half : Text) : Prop :=
  ∃ lead core trail, allBlank lead = true ∧ allBlank trail = true ∧ half = lead ++ core ++ trail ∧
    2 ≤ core.length ∧ core.head? = some '"' ∧ core.getLast? = some '"'

theorem unquote?_trim_eq_some_iff {half body : Text} :
    unquote? (Text.trim half) = some body ↔ Encloses half body := by
  constructor
  · intro h
    obtain ⟨lead, trail, hlead, htrail, heq⟩ := Text.exists_eq_append_trim half
    rw [eq_inQuotes_of_unquote? h] at heq
    exact ⟨lead, trail, hlead, htrail, heq⟩
  · rintro ⟨lead, trail, hlead, htrail, rfl⟩
    rw [Text.trim_append hlead htrail, trim_inQuotes, unquote?_inQuotes]

theorem isQuoted_iff {half : Text} : IsQuoted half ↔ ∃ body, Encloses half body := by
  constructor
  · rintro ⟨lead, core, trail, hlead, htrail, rfl, hlength, hhead, hlast⟩
    obtain ⟨front, rfl⟩ := List.getLast?_eq_some_iff.1 hlast
    cases front with
    | nil => simp at hlength
    | cons c body =>
        have hc : c = '"' := by simpa using hhead
        subst hc
        exact ⟨body, lead, trail, hlead, htrail, rfl⟩
  · rintro ⟨body, lead, trail, hlead, htrail, rfl⟩
    refine ⟨lead, inQuotes body, trail, hlead, htrail, rfl, ?_, rfl, ?_⟩
    · simp [inQuotes]
    · rw [inQuotes, ← List.cons_append, List.getLast?_concat]

theorem unquote?_trim_eq_none_iff {half : Text} :
    unquote? (Text.trim half) = none ↔ ¬ IsQuoted half := by
  rw [isQuoted_iff, Option.eq_none_iff_forall_ne_some, not_exists]
  exact forall_congr' fun body => not_congr unquote?_trim_eq_some_iff

/-! ## Separators in halves -/

theorem quote_not_mem_separator : '"' ∉ separator := by decide

/-- Before the two equals signs that begin a separator, blanks do not make up another one. -/
theorem not_infix_blank {t : Text} (h : allBlank t = true) :
    ¬ separator <:+: t ++ separator.dropLast := by
  intro hocc
  have hnone : t.count '=' = 0 := by
    rw [List.count_eq_zero]
    intro hmem
    exact absurd (Text.allBlank_iff.1 h '=' hmem) (by decide)
  have hcount : separator.count '=' ≤ (t ++ separator.dropLast).count '=' :=
    hocc.sublist.count_le '='
  rw [List.count_append, hnone] at hcount
  exact absurd hcount (by decide)

/-- If no separator stands between the quotes, the separator after the half is the first one. -/
theorem firstCut_of_encloses {left wildcard : Text} (h : Encloses left wildcard)
    (hwildcard : ¬ separator <:+: wildcard) (right : Text) :
    FirstCut separator (left ++ separator ++ right) left right := by
  obtain ⟨lead, trail, hlead, htrail, rfl⟩ := h
  apply FirstCut.of_not_infix
  intro hocc
  have hshape : lead ++ inQuotes wildcard ++ trail ++ separator.dropLast
      = lead ++ '"' :: (wildcard ++ '"' :: (trail ++ separator.dropLast)) := by
    simp [inQuotes]
  rw [hshape] at hocc
  -- An occurrence cannot reach over a quote.
  rcases Text.infix_append_cons quote_not_mem_separator hocc with hocc | hocc
  · exact not_infix_blank hlead (hocc.trans (List.prefix_append _ _).isInfix)
  · rcases Text.infix_append_cons quote_not_mem_separator hocc with hocc | hocc
    · exact hwildcard hocc
    · exact not_infix_blank htrail hocc

theorem not_infix_of_firstCut {line left right wildcard : Text}
    (h : FirstCut separator line left right) (hleft : Encloses left wildcard) :
    ¬ separator <:+: wildcard := by
  intro hocc
  obtain ⟨lead, trail, -, -, rfl⟩ := hleft
  have hwithin : wildcard <:+: lead ++ inQuotes wildcard ++ trail :=
    ⟨lead ++ ['"'], '"' :: trail, by simp [inQuotes]⟩
  exact h.not_infix (by decide) (hocc.trans hwithin)

/-! ## Lines -/

/-- **The grammar of rule lines.** -/
def IsRuleLine (line wildcard replacement : Text) : Prop :=
  ∃ w₁ w₂ w₃ w₄, allBlank w₁ = true ∧ allBlank w₂ = true ∧ allBlank w₃ = true ∧
    allBlank w₄ = true ∧
    line = w₁ ++ inQuotes wildcard ++ w₂ ++ separator ++ (w₃ ++ inQuotes replacement ++ w₄) ∧
    ¬ separator <:+: wildcard

theorem isRuleLine_iff {line wildcard replacement : Text} :
    IsRuleLine line wildcard replacement ↔
      ∃ left right, FirstCut separator line left right ∧ Encloses left wildcard ∧
        Encloses right replacement := by
  constructor
  · rintro ⟨w₁, w₂, w₃, w₄, h₁, h₂, h₃, h₄, rfl, hwildcard⟩
    have hleft : Encloses (w₁ ++ inQuotes wildcard ++ w₂) wildcard := ⟨w₁, w₂, h₁, h₂, rfl⟩
    exact ⟨_, _, firstCut_of_encloses hleft hwildcard _, hleft, w₃, w₄, h₃, h₄, rfl⟩
  · rintro ⟨left, right, hcut, hleft, hright⟩
    have hwildcard := not_infix_of_firstCut hcut hleft
    obtain ⟨w₁, w₂, h₁, h₂, rfl⟩ := hleft
    obtain ⟨w₃, w₄, h₃, h₄, rfl⟩ := hright
    exact ⟨w₁, w₂, w₃, w₄, h₁, h₂, h₃, h₄, hcut.whole, hwildcard⟩

/-- What a line is read as, said without the reader: the first of the things that can be wrong with
it, or its two halves. -/
inductive ReadsAs (line : Text) : Except LineError (Text × Text) → Prop where
  | missingSeparator : ¬ separator <:+: line → ReadsAs line (.error .missingSeparator)
  | unquotedPattern {left right : Text} : FirstCut separator line left right → ¬ IsQuoted left →
      ReadsAs line (.error .unquotedPattern)
  | unquotedReplacement {left right wildcard : Text} : FirstCut separator line left right →
      Encloses left wildcard → ¬ IsQuoted right → ReadsAs line (.error .unquotedReplacement)
  | ok {left right wildcard replacement : Text} : FirstCut separator line left right →
      Encloses left wildcard → Encloses right replacement →
      ReadsAs line (.ok (wildcard, replacement))

theorem readsAs_parse (line : Text) : ReadsAs line (parse line) := by
  unfold parse
  split
  · next hsplit => exact .missingSeparator (Text.splitFirst?_eq_none_iff.1 hsplit)
  · next left right hsplit =>
      have hcut : FirstCut separator line left right := Text.splitFirst?_eq_some_iff.1 hsplit
      split
      · next hleft => exact .unquotedPattern hcut (unquote?_trim_eq_none_iff.1 hleft)
      · next wildcard hleft =>
          rw [unquote?_trim_eq_some_iff] at hleft
          split
          · next hright => exact .unquotedReplacement hcut hleft (unquote?_trim_eq_none_iff.1 hright)
          · next replacement hright => exact .ok hcut hleft (unquote?_trim_eq_some_iff.1 hright)

/-- **Reading a line follows the rules of reading**, and they leave no choice. -/
theorem parse_eq_iff {line : Text} {x : Except LineError (Text × Text)} :
    parse line = x ↔ ReadsAs line x := by
  constructor
  · rintro rfl
    exact readsAs_parse line
  · intro h
    cases h with
    | missingSeparator h => rw [parse, Text.splitFirst?_eq_none_iff.2 h]
    | unquotedPattern hcut hleft =>
        simp only [parse, Text.splitFirst?_eq_some_iff.2 hcut, unquote?_trim_eq_none_iff.2 hleft]
    | unquotedReplacement hcut hleft hright =>
        simp only [parse, Text.splitFirst?_eq_some_iff.2 hcut, unquote?_trim_eq_some_iff.2 hleft,
          unquote?_trim_eq_none_iff.2 hright]
    | ok hcut hleft hright =>
        simp only [parse, Text.splitFirst?_eq_some_iff.2 hcut, unquote?_trim_eq_some_iff.2 hleft,
          unquote?_trim_eq_some_iff.2 hright]

theorem parse_eq_ok_iff {line wildcard replacement : Text} :
    parse line = .ok (wildcard, replacement) ↔ IsRuleLine line wildcard replacement := by
  rw [parse_eq_iff, isRuleLine_iff]
  constructor
  · rintro ⟨⟩
    next left right hcut hleft hright => exact ⟨left, right, hcut, hleft, hright⟩
  · rintro ⟨left, right, hcut, hleft, hright⟩
    exact .ok hcut hleft hright

/-- **Reading accepts exactly the rule lines.** A line is read as a wildcard and a replacement
exactly if it is made of them by the grammar, so that no line is made of two pairs; and of the
errors a line without a separator gives the first, one whose text before the first separator is not
in quotes the second, and one whose text after it is not in quotes, but the text before it is, the
third. No other error comes from reading. -/
theorem parse_accepts_grammar (line : Text) :
    (∀ p r, parse line = .ok (p, r) ↔ IsRuleLine line p r) ∧
      (∀ p r p' r', IsRuleLine line p r → IsRuleLine line p' r' → p = p' ∧ r = r') ∧
      (parse line = .error .missingSeparator ↔ ¬ separator <:+: line) ∧
      (parse line = .error .unquotedPattern ↔
        ∃ left right, FirstCut separator line left right ∧ ¬ IsQuoted left) ∧
      (parse line = .error .unquotedReplacement ↔
        ∃ left right, FirstCut separator line left right ∧ IsQuoted left ∧ ¬ IsQuoted right) ∧
      ∀ reason, parse line ≠ .error (.invalidPattern reason) := by
  refine ⟨fun p r => parse_eq_ok_iff, ?_, ?_, ?_, ?_, ?_⟩
  · intro p r p' r' h h'
    have heq := (parse_eq_ok_iff.2 h).symm.trans (parse_eq_ok_iff.2 h')
    simpa using heq
  · rw [parse_eq_iff]
    constructor
    · rintro ⟨h⟩
      exact h
    · exact .missingSeparator
  · rw [parse_eq_iff]
    constructor
    · rintro ⟨⟩
      next left right hcut hleft => exact ⟨left, right, hcut, hleft⟩
    · rintro ⟨left, right, hcut, hleft⟩
      exact .unquotedPattern hcut hleft
  · rw [parse_eq_iff]
    constructor
    · rintro ⟨⟩
      next left right wildcard hcut hleft hright =>
        exact ⟨left, right, hcut, isQuoted_iff.2 ⟨wildcard, hleft⟩, hright⟩
    · rintro ⟨left, right, hcut, hleft, hright⟩
      obtain ⟨wildcard, hleft⟩ := isQuoted_iff.1 hleft
      exact .unquotedReplacement hcut hleft hright
  · intro reason h
    rw [parse_eq_iff] at h
    cases h

/-- Quotes and equals signs between the quotes, and separators after the first one, are taken as
they are; an ideographic space before the quotes is dropped. -/
theorem parse_takes_quotes_verbatim :
    IsRuleLine "\u3000\"=\"=\"===\"===\"\"".toList "=\"=".toList "===\"".toList ∧
      ∀ p r, IsRuleLine "\u3000\"=\"=\"===\"===\"\"".toList p r →
        "=\"=".toList = p ∧ "===\"".toList = r := by
  obtain ⟨hok, hunique, -⟩ := parse_accepts_grammar "\u3000\"=\"=\"===\"===\"\"".toList
  have hline := (hok "=\"=".toList "===\"".toList).1 rfl
  exact ⟨hline, fun p r h => hunique _ _ p r hline h⟩

end Phrasebook.RuleLine
