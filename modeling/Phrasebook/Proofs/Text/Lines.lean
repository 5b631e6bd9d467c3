import Phrasebook.Proofs.Text.Cutting

/-!
# Piece by piece

Every list is a piece without the separator, or such a piece, a separator and another list
(`separator_induction`). What `pieces` and `endedPieces` make of these two shapes says all about
them. `lines` takes one line off a text with a line feed (`lines_append_lineFeed`), so that lines
which are written one under the other are read back (`lines_joinWith`), but for one carriage return
at the end of each.
-/

set_option autoImplicit false

namespace Phrasebook.Text

/-! ## Pieces -/

section

variable {α : Type} [DecidableEq α] {sep : α} {a : List α}

/-- Induction along the separators of a list. -/
@[elab_as_elim]
theorem separator_induction (sep : α) {motive : List α → Prop} (l : List α)
    (last : ∀ a, sep ∉ a → motive a)
    (next : ∀ a b, sep ∉ a → motive b → motive (a ++ sep :: b)) : motive l := by
  induction hlen : l.length using Nat.strongRecOn generalizing l with
  | ind n ih =>
      by_cases hmem : sep ∈ l
      · obtain ⟨a, b, rfl, ha⟩ := List.eq_append_cons_of_mem hmem
        refine next a b ha (ih b.length ?_ b rfl)
        rw [← hlen, List.length_append, List.length_cons]
        omega
      · exact last l hmem

theorem pieces_of_not_mem (ha : sep ∉ a) : pieces sep a = [a] := by
  induction a with
  | nil => rfl
  | cons c rest ih =>
      rw [List.mem_cons, not_or] at ha
      obtain ⟨piece, more, hrest, hcons⟩ := pieces_cons sep c rest
      rw [ih ha.2, List.cons.injEq] at hrest
      rw [hcons, if_neg (Ne.symm ha.1), ← hrest.1, ← hrest.2]

theorem pieces_append_cons (ha : sep ∉ a) (b : List α) :
    pieces sep (a ++ sep :: b) = a :: pieces sep b := by
  induction a with
  | nil =>
      obtain ⟨piece, more, hrest, hcons⟩ := pieces_cons sep sep b
      rw [List.nil_append, hcons, if_pos rfl, hrest]
  | cons c rest ih =>
      rw [List.mem_cons, not_or] at ha
      obtain ⟨piece, more, hrest, hcons⟩ := pieces_cons sep c (rest ++ sep :: b)
      rw [ih ha.2, List.cons.injEq] at hrest
      rw [List.cons_append, hcons, if_neg (Ne.symm ha.1), ← hrest.1, ← hrest.2]

theorem pieces_append_separator (a b : List α) :
    pieces sep (a ++ sep :: b) = pieces sep a ++ pieces sep b := by
  induction a using separator_induction sep with
  | last a ha => rw [pieces_append_cons ha, pieces_of_not_mem ha, List.singleton_append]
  | next a later ha ih =>
      rw [List.append_assoc, List.cons_append, pieces_append_cons ha, ih, pieces_append_cons ha,
        List.cons_append]

theorem endedPieces_cons (sep c : α) (l : List α) :
    endedPieces sep (c :: l) =
      if c = sep then [c] :: endedPieces sep l
      else (c :: (endedPieces sep l).headD []) :: (endedPieces sep l).tail := by
  by_cases hc : c = sep
  · rw [endedPieces, List.foldr_cons, if_pos hc, if_pos hc]
    rfl
  · rw [if_neg hc]
    cases hl : endedPieces sep l with
    | nil =>
        rw [endedPieces] at hl ⊢
        rw [List.foldr_cons, if_neg hc, hl]
        rfl
    | cons piece more =>
        rw [endedPieces] at hl ⊢
        rw [List.foldr_cons, if_neg hc, hl]
        rfl

theorem endedPieces_of_not_mem (ha : sep ∉ a) (hne : a ≠ []) : endedPieces sep a = [a] := by
  induction a with
  | nil => exact absurd rfl hne
  | cons c rest ih =>
      rw [List.mem_cons, not_or] at ha
      rw [endedPieces_cons, if_neg (Ne.symm ha.1)]
      by_cases hrest : rest = []
      · subst hrest
        rfl
      · rw [ih ha.2 hrest]
        rfl

theorem endedPieces_append_cons (ha : sep ∉ a) (b : List α) :
    endedPieces sep (a ++ sep :: b) = (a ++ [sep]) :: endedPieces sep b := by
  induction a with
  | nil => rw [List.nil_append, endedPieces_cons, if_pos rfl, List.nil_append]
  | cons c rest ih =>
      rw [List.mem_cons, not_or] at ha
      rw [List.cons_append, endedPieces_cons, if_neg (Ne.symm ha.1), ih ha.2]
      rfl

end

/-! ## Ends -/

theorem dropTrailing_of_getLast?_ne {c : Char} {t : Text} (h : t.getLast? ≠ some c) :
    dropTrailing c t = t := by
  have hstart : t.reverse.dropWhile (· == c) = t.reverse := by
    cases hrev : t.reverse with
    | nil => rfl
    | cons d rest =>
        have hd : d ≠ c := by
          rintro rfl
          exact h (by rw [← List.head?_reverse, hrev]; rfl)
        rw [List.dropWhile_cons_of_neg (by simpa using hd)]
  rw [dropTrailing, hstart, List.reverse_reverse]

theorem dropTrailing_of_not_mem {c : Char} {t : Text} (h : c ∉ t) : dropTrailing c t = t :=
  dropTrailing_of_getLast?_ne fun hlast => h (List.mem_of_getLast? hlast)

theorem dropTrailing_concat (c : Char) (t : Text) : dropTrailing c (t ++ [c]) = dropTrailing c t := by
  rw [dropTrailing, List.reverse_append, List.reverse_singleton, List.singleton_append,
    List.dropWhile_cons_of_pos (by exact beq_self_eq_true c), dropTrailing]

/-! ## Lines -/

theorem lines_append_lineFeed {a : Text} (ha : lineFeed ∉ a) (b : Text) :
    lines (a ++ lineFeed :: b) = dropReturn a :: lines b := by
  obtain ⟨piece, more, hb⟩ : ∃ piece more, pieces lineFeed b = piece :: more := by
    obtain ⟨piece, more, hb, -⟩ := pieces_cons lineFeed lineFeed b
    exact ⟨piece, more, hb⟩
  rw [lines, lines, pieces_append_cons ha, hb, List.getLast?_cons_cons, List.dropLast_cons_cons]
  rfl

/-- **Lines that are written are read back**, but for one carriage return at the end of each. No
lines at all leave an empty one. -/
theorem lines_joinWith {ls : List Text} (h : ∀ l ∈ ls, lineFeed ∉ l) :
    lines (joinWith [lineFeed] ls ++ [lineFeed])
      = if ls.isEmpty then [[]] else ls.map dropReturn := by
  cases ls with
  | nil => rfl
  | cons first later =>
      show _ = (first :: later).map dropReturn
      induction later generalizing first with
      | nil => exact lines_append_lineFeed (h first List.mem_cons_self) []
      | cons second later ih =>
          have hlater : ∀ l ∈ second :: later, lineFeed ∉ l :=
            fun l hl => h l (List.mem_cons_of_mem first hl)
          show lines (first ++ [lineFeed] ++ joinWith [lineFeed] (second :: later) ++ [lineFeed]) = _
          rw [List.append_assoc, List.append_assoc, List.singleton_append,
            lines_append_lineFeed (h first List.mem_cons_self), ih second hlater]
          rfl

/-! ### Without the cutting -/

theorem lines_of_not_mem {t : Text} (ht : lineFeed ∉ t) (hne : t ≠ []) : lines t = [t] := by
  have hnonempty : t.isEmpty = false := by simpa using hne
  simp [lines, pieces_of_not_mem ht, hnonempty]

theorem dropReturn_concat (t : Text) : dropReturn (t ++ [carriageReturn]) = t := by
  rw [dropReturn, if_pos List.getLast?_concat, List.dropLast_concat]

/-- The lines that a text is made of. -/
inductive SplitsInto : Text → List Text → Prop where
  /-- There is no line in nothing, so that none comes after the last line feed. -/
  | nil : SplitsInto [] []
  /-- What no line feed ends is a line as it is. -/
  | last {line : Text} (hne : line ≠ []) (h : lineFeed ∉ line) : SplitsInto line [line]
  /-- A line feed ends a line. -/
  | lineFeed {line rest : Text} {ls : List Text} (h : lineFeed ∉ line)
      (hreturn : line.getLast? ≠ some carriageReturn) (hrest : SplitsInto rest ls) :
      SplitsInto (line ++ lineFeed :: rest) (line :: ls)
  /-- A carriage return directly before the line feed is not in the line. -/
  | returnLineFeed {line rest : Text} {ls : List Text} (h : lineFeed ∉ line)
      (hrest : SplitsInto rest ls) :
      SplitsInto (line ++ carriageReturn :: Text.lineFeed :: rest) (line :: ls)

theorem splitsInto_lines (t : Text) : SplitsInto t (lines t) := by
  induction t using separator_induction lineFeed with
  | last a ha =>
      by_cases hne : a = []
      · subst hne
        exact .nil
      · rw [lines_of_not_mem ha hne]
        exact .last hne ha
  | next a b ha ih =>
      rw [lines_append_lineFeed ha]
      by_cases hreturn : a.getLast? = some carriageReturn
      · obtain ⟨front, rfl⟩ := List.getLast?_eq_some_iff.1 hreturn
        rw [dropReturn_concat, List.append_assoc]
        exact .returnLineFeed (fun h => ha (List.mem_append_left _ h)) ih
      · rw [dropReturn, if_neg hreturn]
        exact .lineFeed ha hreturn ih

/-- **The lines of a text** are the ones that it is made of. -/
theorem splitsInto_iff {t : Text} {ls : List Text} : SplitsInto t ls ↔ ls = lines t := by
  constructor
  · intro h
    induction h with
    | nil => rfl
    | last hne h => exact (lines_of_not_mem h hne).symm
    | lineFeed h hreturn _ ih => rw [lines_append_lineFeed h, dropReturn, if_neg hreturn, ih]
    | @returnLineFeed line rest ls h _ ih =>
        have hline : Text.lineFeed ∉ line ++ [carriageReturn] := by
          rw [List.mem_append, not_or]
          exact ⟨h, by decide⟩
        rw [List.append_cons, lines_append_lineFeed hline, dropReturn_concat, ih]
  · rintro rfl
    exact splitsInto_lines t

end Phrasebook.Text
