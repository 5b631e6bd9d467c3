import Phrasebook.Proofs.Wildcard.Language

/-!
# All matches, along the text

`spansFrom` goes through a table and remembers where the last match ended. `spansAlong` says the
same of the text itself: it jumps over each match, and all that it carries from one place to the
next is whether a match has just ended there (`spans_eq_spansAlong`).
-/

set_option autoImplicit false

namespace Phrasebook.Wildcard

/-- What is found lies within the text. -/
def FindsWithin (find : Text → Reach) : Prop := ∀ t n, find t = some n → n ≤ t.length

theorem Pattern.findsWithin_reachAt (p : Pattern) : FindsWithin p.reachAt :=
  fun _ _ h => (greedy_sound h).1

theorem FindsWithin.nil {find : Text → Reach} (hfind : FindsWithin find) {n : Nat}
    (h : find [] = some n) : n = 0 :=
  Nat.eq_zero_of_le_zero (hfind [] n h)

/-! ## The scan -/

/-- The matches in a text that starts at `position`; `ended` says whether a match has just ended
there, after which an empty match is passed over. -/
def spansAlong (find : Text → Reach) (ended : Bool) (position : Nat) : Text → List Span
  | [] => if ended || (find []).isNone then [] else [⟨position, position⟩]
  | c :: rest =>
      match find (c :: rest) with
      | none => spansAlong find false (position + 1) rest
      | some 0 =>
          (if ended then [] else [⟨position, position⟩]) ++
            spansAlong find false (position + 1) rest
      | some (n + 1) =>
          ⟨position, position + (n + 1)⟩ ::
            spansAlong find true (position + (n + 1)) (rest.drop n)
  termination_by t => t.length
  decreasing_by all_goals simp; try omega

section

variable {find : Text → Reach} {ended : Bool} {position : Nat} {c : Char} {rest : Text}

theorem spansAlong_none (h : find (c :: rest) = none) :
    spansAlong find ended position (c :: rest) = spansAlong find false (position + 1) rest := by
  rw [spansAlong, h]

theorem spansAlong_zero (h : find (c :: rest) = some 0) :
    spansAlong find ended position (c :: rest)
      = (if ended then [] else [⟨position, position⟩]) ++
        spansAlong find false (position + 1) rest := by
  rw [spansAlong, h]

theorem spansAlong_succ {n : Nat} (h : find (c :: rest) = some (n + 1)) :
    spansAlong find ended position (c :: rest)
      = ⟨position, position + (n + 1)⟩ ::
        spansAlong find true (position + (n + 1)) (rest.drop n) := by
  rw [spansAlong, h]

end

/-- Induction along the scan of a text. -/
@[elab_as_elim]
theorem scan_induction (find : Text → Reach) {motive : Text → Prop} (t : Text)
    (nil : motive [])
    (none : ∀ c rest, find (c :: rest) = .none → motive rest → motive (c :: rest))
    (zero : ∀ c rest, find (c :: rest) = .some 0 → motive rest → motive (c :: rest))
    (succ : ∀ c rest n, find (c :: rest) = .some (n + 1) → motive (rest.drop n) →
      motive (c :: rest)) : motive t := by
  induction hlen : t.length using Nat.strongRecOn generalizing t with
  | ind k ih =>
      cases t with
      | nil => exact nil
      | cons c rest =>
          rw [List.length_cons] at hlen
          -- A match of `n + 1` characters takes `c` and jumps over `n` more.
          have hrest : ∀ n, motive (rest.drop n) := by
            intro n
            refine ih (rest.drop n).length ?_ (rest.drop n) rfl
            rw [List.length_drop]
            omega
          cases hfind : find (c :: rest) with
          | none => exact none c rest hfind (hrest 0)
          | some m =>
              cases m with
              | zero => exact zero c rest hfind (hrest 0)
              | succ n => exact succ c rest n hfind (hrest n)

/-- No match of the scan starts before its position. -/
theorem le_start_of_mem_spansAlong {find : Text → Reach} {t : Text} {ended : Bool} {position : Nat}
    {s : Span} (hs : s ∈ spansAlong find ended position t) : position ≤ s.start := by
  induction t using scan_induction find generalizing ended position with
  | nil =>
      rw [spansAlong] at hs
      split at hs
      · cases hs
      · exact Nat.le_of_eq (by rw [List.mem_singleton.1 hs])
  | none c rest hfind ih =>
      rw [spansAlong_none hfind] at hs
      exact Nat.le_of_succ_le (ih hs)
  | zero c rest hfind ih =>
      rw [spansAlong_zero hfind] at hs
      rcases List.mem_append.1 hs with hs | hs
      · split at hs
        · cases hs
        · exact Nat.le_of_eq (by rw [List.mem_singleton.1 hs])
      · exact Nat.le_of_succ_le (ih hs)
  | succ c rest n hfind ih =>
      rw [spansAlong_succ hfind] at hs
      rcases List.mem_cons.1 hs with rfl | hs
      · exact Nat.le_refl _
      · exact Nat.le_trans (Nat.le_add_right _ _) (ih hs)

/-! ## The table and the scan -/

theorem spansFrom_eq (position : Nat) (last : Option Nat) (l : List Reach) :
    spansFrom position last l = match l.headD none with
      | none => spansFrom (position + 1) last l.tail
      | some n =>
          if mayFollow last position n then
            ⟨position, position + n⟩ :: spansFrom (position + 1) (some (position + n)) l.tail
          else spansFrom (position + 1) last l.tail := by
  cases l with
  | nil => rfl
  | cons x xs => cases x <;> rfl

theorem head?_spansFrom (position : Nat) (l : List Reach) :
    (spansFrom position none l).head? = firstSpan? position l := by
  induction l generalizing position with
  | nil => rfl
  | cons x xs ih =>
      cases x with
      | none => exact ih (position + 1)
      | some n => rfl

/-- The list of all matches begins with what a search from the start finds. -/
theorem Pattern.head?_spans (p : Pattern) (t : Text) : (p.spans t).head? = p.search t 0 :=
  head?_spansFrom 0 (p.reaches t)

/-- Something matches in a text exactly if there is a first of all matches. -/
theorem Pattern.isMatch_iff_spans_ne_nil (p : Pattern) (t : Text) :
    p.isMatch t = true ↔ p.spans t ≠ [] := by
  rw [isMatch, ← head?_spans]
  cases p.spans t with
  | nil => simp
  | cons s later => simp

/-- The entries before the end of the last match yield nothing. -/
theorem spansFrom_skip (k position : Nat) (l : List Reach) :
    spansFrom position (some (position + k)) l
      = spansFrom (position + k) (some (position + k)) (l.drop k) := by
  induction k generalizing position l with
  | zero => rfl
  | succ k ih =>
      have hstep : spansFrom position (some (position + (k + 1))) l
          = spansFrom (position + 1) (some (position + 1 + k)) l.tail := by
        rw [spansFrom_eq, show position + (k + 1) = position + 1 + k by omega]
        have hno : ∀ n, mayFollow (some (position + 1 + k)) position n = false := by
          intro n
          simp [mayFollow]
          omega
        cases l.headD none with
        | none => rfl
        | some n => exact if_neg (by rw [hno n]; exact Bool.false_ne_true)
      rw [hstep, ih, List.drop_tail, show position + 1 + k = position + (k + 1) by omega]

theorem mayFollow_zero {last : Option Nat} {position : Nat}
    (hlast : ∀ e, last = some e → e ≤ position) :
    mayFollow last position 0 = !(last == some position) := by
  cases last with
  | none => rfl
  | some e =>
      have hle : e ≤ position := hlast e rfl
      by_cases he : e = position
      · simp [mayFollow, he]
      · have hlt : e < position := Nat.lt_of_le_of_ne hle he
        simp [mayFollow, he, hlt]

theorem mayFollow_succ {last : Option Nat} {position : Nat}
    (hlast : ∀ e, last = some e → e ≤ position) (n : Nat) :
    mayFollow last position (n + 1) = true := by
  cases last with
  | none => rfl
  | some e =>
      have hle : e ≤ position := hlast e rfl
      simp [mayFollow]
      omega

/-- One place further on, no match has just ended. -/
theorem last_beq_succ {last : Option Nat} {position : Nat}
    (hlast : ∀ e, last = some e → e ≤ position) : (last == some (position + 1)) = false := by
  rw [beq_eq_false_iff_ne]
  intro he
  exact absurd (hlast _ he) (Nat.not_succ_le_self position)

/-- **The table yields the matches of the scan.** -/
theorem spansFrom_eq_spansAlong {find : Text → Reach} (hfind : FindsWithin find) {t : Text}
    {l : List Reach} (h : Tabulates find t l) (position : Nat) (last : Option Nat)
    (hlast : ∀ e, last = some e → e ≤ position) :
    spansFrom position last l = spansAlong find (last == some position) position t := by
  induction t using scan_induction find generalizing l position last with
  | nil =>
      rw [spansFrom_eq, h.headD, h.2, spansAlong]
      cases hfound : find [] with
      | none => simp [spansFrom]
      | some n =>
          rw [hfind.nil hfound]
          simp [mayFollow_zero hlast, spansFrom]
  | none c rest hfound ih =>
      rw [spansFrom_eq, h.headD, hfound, spansAlong_none hfound, ← last_beq_succ hlast]
      exact ih h.2 _ _ fun e he => Nat.le_succ_of_le (hlast e he)
  | zero c rest hfound ih =>
      -- Listed or passed over, the empty match has not ended one place further on.
      have hskip : spansFrom (position + 1) last l.tail
          = spansAlong find false (position + 1) rest := by
        rw [← last_beq_succ hlast]
        exact ih h.2 _ _ fun e he => Nat.le_succ_of_le (hlast e he)
      have htake : spansFrom (position + 1) (some position) l.tail
          = spansAlong find false (position + 1) rest := by
        have hle : ∀ e, some position = some e → e ≤ position := by
          rintro e ⟨⟩
          exact Nat.le_refl _
        rw [← last_beq_succ hle]
        exact ih h.2 _ _ fun e he => Nat.le_succ_of_le (hle e he)
      rw [spansFrom_eq, h.headD, hfound, spansAlong_zero hfound]
      show (if mayFollow last position 0 then
          ⟨position, position⟩ :: spansFrom (position + 1) (some position) l.tail
        else spansFrom (position + 1) last l.tail) = _
      rw [mayFollow_zero hlast, hskip, htake]
      cases last == some position <;> rfl
  | succ c rest n hfound ih =>
      have hn : n ≤ rest.length := Nat.le_of_succ_le_succ (hfind _ _ hfound)
      -- The places inside the match are skipped.
      have hskip : spansFrom (position + 1) (some (position + (n + 1))) l.tail
          = spansAlong find true (position + (n + 1)) (rest.drop n) := by
        rw [show position + (n + 1) = position + 1 + n by omega, spansFrom_skip]
        have hbeq : (some (position + 1 + n) == some (position + 1 + n)) = true := beq_self_eq_true _
        rw [← hbeq]
        refine ih (Tabulates.drop h.2 hn) _ _ ?_
        rintro e ⟨⟩
        exact Nat.le_refl _
      rw [spansFrom_eq, h.headD, hfound, spansAlong_succ hfound]
      show (if mayFollow last position (n + 1) then
          ⟨position, position + (n + 1)⟩ ::
            spansFrom (position + 1) (some (position + (n + 1))) l.tail
        else spansFrom (position + 1) last l.tail) = _
      rw [mayFollow_succ hlast n, hskip]
      rfl

theorem Pattern.spans_eq_spansAlong (p : Pattern) (t : Text) :
    p.spans t = spansAlong p.reachAt false 0 t :=
  spansFrom_eq_spansAlong p.findsWithin_reachAt (p.tabulates_reaches t) 0 none
    (fun _ h => by cases h)

end Phrasebook.Wildcard
