import Mathlib.Algebra.Ring.Parity
import Mathlib.Data.List.DropRight
import Phrasebook.Wildcard.Token

/-!
# Joining wildcards

While a wildcard is translated, all that is kept of what has been read is whether a backslash is
still waiting for its character. The backslashes right before decide that, since every second one of
them is escaped by the one before it; what stands further left plays no part (`scanState_iff_odd`).
So two wildcards, written one after the other, are translated one after the other, unless a
backslash is left over at the end of the first one, where it waits for the first character of the
second (`trailing_backslashes_decide_joining`).
-/

set_option autoImplicit false

namespace Phrasebook.Wildcard

/-! ## The backslashes at the end -/

/-- The number of backslashes at the end of a text, with no other character between them. -/
def trailingBackslashes (t : Text) : Nat := (t.rtakeWhile (· == '\\')).length

theorem trailingBackslashes_nil : trailingBackslashes [] = 0 := rfl

theorem trailingBackslashes_concat (t : Text) (c : Char) :
    trailingBackslashes (t ++ [c]) = if c = '\\' then trailingBackslashes t + 1 else 0 := by
  unfold trailingBackslashes
  by_cases hc : c = '\\'
  · rw [List.rtakeWhile_concat_pos _ _ _ (by simpa using hc), if_pos hc, List.length_append,
      List.length_singleton]
  · rw [List.rtakeWhile_concat_neg _ _ _ (by simpa using hc), if_neg hc, List.length_nil]

/-- Backslashes after a text that ends otherwise are all that is counted. -/
theorem trailingBackslashes_append_replicate {front : Text} (h : front.getLast? ≠ some '\\')
    (n : Nat) : trailingBackslashes (front ++ List.replicate n '\\') = n := by
  induction n with
  | zero =>
      rw [List.replicate_zero, List.append_nil]
      cases front using List.reverseRecOn with
      | nil => rfl
      | append_singleton before c =>
          have hc : c ≠ '\\' := by simpa using h
          rw [trailingBackslashes_concat, if_neg hc]
  | succ n ih =>
      rw [List.replicate_succ', ← List.append_assoc, trailingBackslashes_concat, if_pos rfl, ih]

/-! ## The state of the scanner -/

theorem scanState_append (escaping : Bool) (a b : Text) :
    scanState escaping (a ++ b) = scanState (scanState escaping a) b := by
  induction a generalizing escaping with
  | nil => cases escaping <;> rfl
  | cons c rest ih =>
      cases escaping with
      | true => exact ih false
      | false => exact ih (c = '\\')

/-- A backslash turns the state around, and any other character ends an escape. -/
theorem scanState_concat (t : Text) (c : Char) :
    scanState false (t ++ [c]) = (!scanState false t && c == '\\') := by
  rw [scanState_append]
  cases scanState false t with
  | true => rfl
  | false => rfl

/-- **The parity of the backslashes at the end is the state.** -/
theorem scanState_iff_odd (t : Text) : scanState false t = true ↔ Odd (trailingBackslashes t) := by
  -- From the right: one more character extends the backslashes at the end, or there are none.
  induction t using List.reverseRecOn with
  | nil => decide
  | append_singleton t c ih =>
      rw [scanState_concat, trailingBackslashes_concat]
      by_cases hc : c = '\\'
      · rw [if_pos hc, Nat.odd_add_one, ← ih]
        simp [hc]
      · rw [if_neg hc]
        simp [hc]

section

variable {a : Text}

theorem scanState_of_even (h : Even (trailingBackslashes a)) : scanState false a = false := by
  rw [← Bool.not_eq_true, scanState_iff_odd, Nat.not_odd_iff_even]
  exact h

theorem scanState_of_odd (h : Odd (trailingBackslashes a)) : scanState false a = true :=
  (scanState_iff_odd a).2 h

/-! ## Joining -/

theorem regexOf_append (a b : Text) :
    regexOf (a ++ b) = regexOf a ++ translate (scanState false a) b :=
  translate_append false a b

/-- Outside of an escape the translation starts afresh. -/
theorem regexOf_append_of_even (h : Even (trailingBackslashes a)) (b : Text) :
    regexOf (a ++ b) = regexOf a ++ regexOf b := by
  rw [regexOf_append, scanState_of_even h]
  rfl

/-- Inside of an escape the next character is a literal, and after it the translation starts
afresh. -/
theorem regexOf_append_cons_of_odd (h : Odd (trailingBackslashes a)) (c : Char) (rest : Text) :
    regexOf (a ++ c :: rest) = regexOf a ++ escapeLiteral c ++ regexOf rest := by
  rw [regexOf_append, scanState_of_odd h, List.append_assoc]
  rfl

/-- A backslash that is left over at the end stands for nothing. -/
theorem exists_dangling_of_odd (h : Odd (trailingBackslashes a)) :
    ∃ front, a = front ++ ['\\'] ∧ regexOf a = regexOf front := by
  cases a using List.reverseRecOn with
  | nil => simp [trailingBackslashes_nil] at h
  | append_singleton front c =>
      rw [trailingBackslashes_concat] at h
      by_cases hc : c = '\\'
      · -- Without it the number is even, and the text before it is not inside of an escape.
        rw [if_pos hc, Nat.odd_add_one, Nat.not_odd_iff_even] at h
        refine ⟨front, by rw [hc], ?_⟩
        rw [regexOf_append_of_even h, hc]
        exact List.append_nil _
      · rw [if_neg hc] at h
        simp at h

end

/-- **The backslashes at the end of a wildcard decide how it is joined to another.** If their number
is even, the regular expression of the two wildcards in a row is the two regular expressions in a
row. If it is odd, then in between stands the first character of the second wildcard as a literal,
and the last backslash of the first wildcard adds nothing of its own. In any case the translation
goes on with the second wildcard in the state in which the first one leaves it, which is inside of
an escape exactly if the number is odd; what stands before those backslashes plays no part. -/
theorem trailing_backslashes_decide_joining (a b : Text) :
    (Even (trailingBackslashes a) → regexOf (a ++ b) = regexOf a ++ regexOf b) ∧
      (Odd (trailingBackslashes a) →
        (∀ c rest, b = c :: rest →
          regexOf (a ++ b) = regexOf a ++ escapeLiteral c ++ regexOf rest) ∧
        ∃ front, a = front ++ ['\\'] ∧ regexOf a = regexOf front) ∧
      regexOf (a ++ b) = regexOf a ++ translate (scanState false a) b ∧
      (scanState false a = true ↔ Odd (trailingBackslashes a)) ∧
      ∀ front n, a = front ++ List.replicate n '\\' → front.getLast? ≠ some '\\' →
        trailingBackslashes a = n := by
  refine ⟨fun heven => regexOf_append_of_even heven b,
    fun hodd => ⟨?_, exists_dangling_of_odd hodd⟩, regexOf_append a b, scanState_iff_odd a, ?_⟩
  · rintro c rest rfl
    exact regexOf_append_cons_of_odd hodd c rest
  · rintro front n rfl hfront
    exact trailingBackslashes_append_replicate hfront n

/-- After an escaped star, two backslashes are one literal and leave the next star alone; of three,
the last one escapes it. -/
theorem trailing_backslashes_decide_joining_to_star :
    trailingBackslashes "é\\*\\\\".toList = 2 ∧
      Even (trailingBackslashes "é\\*\\\\".toList) ∧
      regexOf ("é\\*\\\\".toList ++ "*".toList) = "é\\*\\\\".toList ++ ".*".toList ∧
      Odd (trailingBackslashes "é\\*\\\\\\".toList) ∧
      regexOf ("é\\*\\\\\\".toList ++ "*?".toList)
        = "é\\*\\\\".toList ++ "\\*".toList ++ ".".toList ∧
      ∃ front, "é\\*\\\\\\".toList = front ++ ['\\'] ∧ regexOf front = "é\\*\\\\".toList := by
  have heven : Even (trailingBackslashes "é\\*\\\\".toList) := by decide
  have hodd : Odd (trailingBackslashes "é\\*\\\\\\".toList) := by decide
  obtain ⟨hjoin, -, -, -, hcount⟩ := trailing_backslashes_decide_joining "é\\*\\\\".toList "*".toList
  obtain ⟨-, hescape, -⟩ := trailing_backslashes_decide_joining "é\\*\\\\\\".toList "*?".toList
  obtain ⟨hliteral, front, hfront, hregex⟩ := hescape hodd
  have htwo : trailingBackslashes "é\\*\\\\".toList = 2 :=
    hcount "é\\*".toList 2 (by decide) (by decide)
  refine ⟨htwo, heven, (hjoin heven).trans (by decide), hodd, ?_, front, hfront, ?_⟩
  · exact (hliteral '*' ['?'] rfl).trans (by decide)
  · rw [← hregex]
    decide

end Phrasebook.Wildcard
