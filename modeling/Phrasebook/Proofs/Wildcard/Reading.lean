import Phrasebook.Wildcard.Pattern

/-!
# A wildcard means its tokens

`tokens` says what a wildcard stands for, without any state: it looks at two characters where the
first is a backslash. `readRegex?` undoes `regexText` exactly (`readRegex?_eq_some_iff`), and the
regular expression of a wildcard is the one of its tokens (`regexText_tokens`). So nothing in a
wildcard can fuse with its neighbours into another construct, and the only way for `compile` to
fail is the size limit (`compile_eq`).
-/

set_option autoImplicit false

namespace Phrasebook.Wildcard

/-! ## The tokens of a wildcard -/

/-- The tokens of a wildcard. -/
def tokens : Text → List Token
  | [] => []
  | ['\\'] => []
  | '\\' :: c :: rest => .lit c :: tokens rest
  | '*' :: rest => .run :: tokens rest
  | '?' :: rest => .one :: tokens rest
  | c :: rest => .lit c :: tokens rest

/-- A character that stands for itself without a backslash. -/
def IsPlain (c : Char) : Prop := c ≠ '\\' ∧ c ≠ '*' ∧ c ≠ '?'

theorem tokens_plain {c : Char} (h : IsPlain c) (rest : Text) :
    tokens (c :: rest) = .lit c :: tokens rest := by
  obtain ⟨hbackslash, hstar, hquestion⟩ := h
  rw [tokens]
  all_goals simp [hbackslash, hstar, hquestion]

/-- Induction along the places of a wildcard. -/
@[elab_as_elim]
theorem wildcard_induction {motive : Text → Prop} (w : Text) (nil : motive [])
    (dangling : motive ['\\'])
    (escaped : ∀ c rest, motive rest → motive ('\\' :: c :: rest))
    (star : ∀ rest, motive rest → motive ('*' :: rest))
    (question : ∀ rest, motive rest → motive ('?' :: rest))
    (plain : ∀ c rest, IsPlain c → motive rest → motive (c :: rest)) : motive w := by
  induction w using tokens.induct with
  | case1 => exact nil
  | case2 => exact dangling
  | case3 c rest ih => exact escaped c rest ih
  | case4 rest ih => exact star rest ih
  | case5 rest ih => exact question rest ih
  | case6 c rest hlone hescape hstar hquestion ih =>
      -- A backslash is either the last character or has one after it, and both are excluded.
      have hbackslash : c ≠ '\\' := by
        rintro rfl
        cases rest with
        | nil => exact hlone rfl rfl
        | cons d later => exact hescape d later rfl rfl
      exact plain c rest ⟨hbackslash, hstar, hquestion⟩ ih

/-- **Translating a wildcard prints its tokens.** -/
theorem regexText_tokens (w : Text) : regexText (tokens w) = regexOf w := by
  -- The scanner is outside of an escape at every place where `tokens` goes on.
  have key : ∀ v, regexText (tokens v) = translate false v := by
    intro v
    induction v using wildcard_induction with
    | nil => rfl
    | dangling => rfl
    | escaped c rest ih => simp [tokens, translate, regexText, Token.regex, ← ih]
    | star rest ih => simp [tokens, translate, regexText, Token.regex, ← ih]
    | question rest ih => simp [tokens, translate, regexText, Token.regex, ← ih]
    | plain c rest hplain ih =>
        obtain ⟨hbackslash, hstar, hquestion⟩ := hplain
        rw [tokens_plain ⟨hbackslash, hstar, hquestion⟩, translate, if_neg hbackslash,
          if_neg hstar, if_neg hquestion, ← ih]
        rfl
  exact key w

/-! ## Reading back -/

/-- A regular expression that is read after a `.` must not begin with a star. -/
theorem head?_regexText_ne_star (ts : List Token) : (regexText ts).head? ≠ some '*' := by
  cases ts with
  | nil => simp [regexText]
  | cons tok rest =>
      cases tok with
      | lit c =>
          by_cases h : c ∈ metaCharacters
          · simp [regexText, Token.regex, escapeLiteral, h]
          · have hstar : c ≠ '*' := by
              rintro rfl
              exact h (by decide)
            simp [regexText, Token.regex, escapeLiteral, h, hstar]
      | one => simp [regexText, Token.regex]
      | run => simp [regexText, Token.regex]

/-- **Reading one token.** What follows the token must not begin with a star, which would turn a
single character into a run. -/
theorem readRegex?_token_append (tok : Token) {rest : Text} (hrest : rest.head? ≠ some '*') :
    readRegex? (tok.regex ++ rest) = (readRegex? rest).map (tok :: ·) := by
  cases tok with
  | lit c =>
      by_cases h : c ∈ metaCharacters
      · simp [Token.regex, escapeLiteral, h, readRegex?]
      · have hbackslash : c ≠ '\\' := by
          rintro rfl
          exact h (by decide)
        have hdot : c ≠ '.' := by
          rintro rfl
          exact h (by decide)
        rw [show (Token.lit c).regex ++ rest = c :: rest by simp [Token.regex, escapeLiteral, h]]
        rw [readRegex?] <;> simp [h, hbackslash, hdot]
  | one =>
      -- The reader looks one character ahead here, and only here.
      cases rest with
      | nil => rfl
      | cons d later =>
          have hstar : d ≠ '*' := by simpa using hrest
          show readRegex? ('.' :: d :: later) = _
          rw [readRegex?]
          simpa using hstar
  | run => simp [Token.regex, readRegex?]

theorem readRegex?_regexText (ts : List Token) : readRegex? (regexText ts) = some ts := by
  induction ts with
  | nil => rfl
  | cons tok rest ih =>
      show readRegex? (tok.regex ++ regexText rest) = _
      rw [readRegex?_token_append tok (head?_regexText_ne_star rest), ih]
      rfl

/-- **The reader takes nothing but what is printed.** -/
theorem regexText_of_readRegex? {t : Text} {ts : List Token} (h : readRegex? t = some ts) :
    regexText ts = t := by
  induction t using readRegex?.induct generalizing ts with
  | case1 =>
      simp only [readRegex?, Option.some.injEq] at h
      rw [← h]
      rfl
  | case2 c rest hmeta ih =>
      rw [readRegex?, if_pos hmeta] at h
      obtain ⟨us, hus, rfl⟩ := Option.map_eq_some_iff.1 h
      show escapeLiteral c ++ regexText us = _
      rw [ih hus, escapeLiteral, if_pos hmeta]
      rfl
  | case3 c rest hmeta =>
      rw [readRegex?, if_neg hmeta] at h
      exact absurd h (by simp)
  | case4 rest ih =>
      rw [readRegex?] at h
      obtain ⟨us, hus, rfl⟩ := Option.map_eq_some_iff.1 h
      show '.' :: '*' :: regexText us = _
      rw [ih hus]
  | case5 rest hstar ih =>
      rw [readRegex?] at h
      · obtain ⟨us, hus, rfl⟩ := Option.map_eq_some_iff.1 h
        show '.' :: regexText us = _
        rw [ih hus]
      · exact hstar
  | case6 c rest hescape hrun hdot hmeta =>
      rw [readRegex?, if_pos hmeta] at h
      · exact absurd h (by simp)
      · exact hescape
      · exact hrun
      · exact hdot
  | case7 c rest hescape hrun hdot hmeta ih =>
      rw [readRegex?, if_neg hmeta] at h
      · obtain ⟨us, hus, rfl⟩ := Option.map_eq_some_iff.1 h
        show escapeLiteral c ++ regexText us = _
        rw [ih hus, escapeLiteral, if_neg hmeta]
        rfl
      · exact hescape
      · exact hrun
      · exact hdot

theorem readRegex?_eq_some_iff {t : Text} {ts : List Token} :
    readRegex? t = some ts ↔ regexText ts = t := by
  constructor
  · exact regexText_of_readRegex?
  · rintro rfl
    exact readRegex?_regexText ts

/-! ## Compiling -/

/-- **Compiling in terms of tokens.** The regular expression of a wildcard is always well formed,
so that the size alone decides. -/
theorem compile_eq (w : Text) (mode : CaseMode) :
    compile w mode =
      if fits mode (tokens w) then .ok ⟨tokens w, mode⟩ else .error (.tooLarge (regexOf w)) := by
  have hread : readRegex? (regexOf w) = some (tokens w) :=
    readRegex?_eq_some_iff.2 (regexText_tokens w)
  rw [compile, hread]

theorem compile_eq_ok_iff {w : Text} {mode : CaseMode} {p : Pattern} :
    compile w mode = .ok p ↔ fits mode (tokens w) = true ∧ p = ⟨tokens w, mode⟩ := by
  rw [compile_eq]
  by_cases h : fits mode (tokens w) = true
  · rw [if_pos h]
    simp [h, eq_comm]
  · rw [if_neg h]
    simp [h]

theorem compile_eq_error_iff {w : Text} {mode : CaseMode} {e : PatternError} :
    compile w mode = .error e ↔ fits mode (tokens w) = false ∧ e = .tooLarge (regexOf w) := by
  rw [compile_eq]
  by_cases h : fits mode (tokens w) = true
  · rw [if_pos h]
    simp [h]
  · rw [if_neg h]
    simp [h, eq_comm]

/-- **A wildcard keeps its meaning in its regular expression.** Reading the regular expression of
a wildcard never fails and gives the tokens of the wildcard; two wildcards with one regular
expression have the same tokens; a wildcard compiles to its tokens, and nothing but the size of
its programs can prevent that. -/
theorem regexOf_means_tokens (w : Text) :
    readRegex? (regexOf w) = some (tokens w) ∧
      (∀ v, regexOf v = regexOf w → tokens v = tokens w) ∧
      (∀ mode p, compile w mode = .ok p ↔ fits mode (tokens w) = true ∧ p = ⟨tokens w, mode⟩) ∧
      (∀ mode e, compile w mode = .error e ↔
        fits mode (tokens w) = false ∧ e = .tooLarge (regexOf w)) := by
  refine ⟨readRegex?_eq_some_iff.2 (regexText_tokens w), ?_, fun _ _ => compile_eq_ok_iff,
    fun _ _ => compile_eq_error_iff⟩
  intro v hv
  have hread : some (tokens v) = some (tokens w) := by
    calc some (tokens v)
        = readRegex? (regexOf v) := (readRegex?_eq_some_iff.2 (regexText_tokens v)).symm
      _ = readRegex? (regexOf w) := by rw [hv]
      _ = some (tokens w) := readRegex?_eq_some_iff.2 (regexText_tokens w)
  exact Option.some.inj hread

/-- A needless backslash and a dangling one leave no trace. -/
theorem tokens_needless_backslashes :
    regexOf "*+?\\".toList = regexOf "*\\+?".toList ∧
      tokens "*+?\\".toList = tokens "*\\+?".toList :=
  ⟨by decide, (regexOf_means_tokens "*\\+?".toList).2.1 "*+?\\".toList (by decide)⟩

end Phrasebook.Wildcard
