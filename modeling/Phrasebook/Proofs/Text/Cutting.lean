import Phrasebook.Text.Blank

/-!
# Cutting texts

What the cuts leave of a text: halves around the first occurrence of a separator
(`splitFirst?_eq_some_iff`), pieces without the separator, lines without a line feed, and texts
without the blanks at their ends (`exists_eq_append_trim`).
-/

set_option autoImplicit false

namespace Phrasebook.Text

/-! ## At a separator -/

/-- `before` and `after` are what stands around the first occurrence of `sep` in `t`. -/
structure FirstCut (sep t before after : Text) : Prop where
  whole : t = before ++ sep ++ after
  first : ∀ b a, t = b ++ sep ++ a → before.length ≤ b.length

theorem firstCut_cons_iff {sep rest before after : Text} {c : Char}
    (h : ¬ sep <+: c :: rest) :
    FirstCut sep (c :: rest) before after ↔
      ∃ b, before = c :: b ∧ FirstCut sep rest b after := by
  constructor
  · rintro ⟨hwhole, hfirst⟩
    cases before with
    | nil => exact absurd ⟨after, hwhole.symm⟩ h
    | cons d b =>
        rw [List.cons_append, List.cons_append, List.cons.injEq] at hwhole
        refine ⟨b, by rw [hwhole.1], hwhole.2, fun b' a' h' => ?_⟩
        have hle := hfirst (c :: b') a' (congrArg (c :: ·) h')
        simpa using hle
  · rintro ⟨b, rfl, hwhole, hfirst⟩
    refine ⟨congrArg (c :: ·) hwhole, fun b' a' h' => ?_⟩
    cases b' with
    | nil => exact absurd ⟨a', h'.symm⟩ h
    | cons d b' =>
        rw [List.cons_append, List.cons_append, List.cons.injEq] at h'
        exact Nat.succ_le_succ (hfirst b' a' h'.2)

theorem firstCut_of_prefix_iff {sep t before after : Text} (h : sep <+: t) :
    FirstCut sep t before after ↔ before = [] ∧ after = t.drop sep.length := by
  have heq : t = [] ++ sep ++ t.drop sep.length := List.prefix_iff_eq_append.1 h |>.symm
  constructor
  · rintro ⟨hwhole, hfirst⟩
    have hbefore : before = [] := List.length_eq_zero_iff.1 (Nat.le_zero.1 (hfirst [] _ heq))
    subst hbefore
    rw [hwhole]
    exact ⟨rfl, by simp⟩
  · rintro ⟨rfl, rfl⟩
    exact ⟨heq, fun b a _ => Nat.zero_le _⟩

/-- **The cut is at the first occurrence.** -/
theorem splitFirst?_eq_some_iff {sep t before after : Text} :
    splitFirst? sep t = some (before, after) ↔ FirstCut sep t before after := by
  induction t generalizing before after with
  | nil =>
      rw [splitFirst?]
      by_cases hsep : sep = []
      · subst hsep
        rw [firstCut_of_prefix_iff List.nil_prefix]
        simp [eq_comm]
      · have hnone : ¬ FirstCut sep [] before after := by
          rintro ⟨hwhole, -⟩
          simp [hsep] at hwhole
        simp [hsep, hnone]
  | cons c rest ih =>
      rw [splitFirst?]
      by_cases hsep : sep <+: c :: rest
      · rw [if_pos (List.isPrefixOf_iff_prefix.2 hsep), firstCut_of_prefix_iff hsep]
        simp [eq_comm]
      · rw [if_neg fun h => hsep (List.isPrefixOf_iff_prefix.1 h), firstCut_cons_iff hsep,
          Option.map_eq_some_iff]
        constructor
        · rintro ⟨⟨b, a⟩, hsplit, heq⟩
          rw [Prod.mk.injEq] at heq
          obtain ⟨rfl, rfl⟩ := heq
          exact ⟨b, rfl, ih.1 hsplit⟩
        · rintro ⟨b, rfl, hcut⟩
          exact ⟨(b, after), ih.2 hcut, rfl⟩

theorem splitFirst?_eq_none_iff {sep t : Text} : splitFirst? sep t = none ↔ ¬ sep <:+: t := by
  induction t with
  | nil =>
      rw [splitFirst?, List.infix_nil]
      by_cases hsep : sep = [] <;> simp [hsep]
  | cons c rest ih =>
      rw [splitFirst?, List.infix_cons_iff, not_or]
      by_cases hsep : sep <+: c :: rest
      · simp [hsep]
      · rw [if_neg fun h => hsep (List.isPrefixOf_iff_prefix.1 h), Option.map_eq_none_iff, ih]
        simp [hsep]

/-- Before its first occurrence there is no other one. -/
theorem FirstCut.not_infix {sep t before after : Text} (h : FirstCut sep t before after)
    (hsep : sep ≠ []) : ¬ sep <:+: before := by
  rintro ⟨b, a, hocc⟩
  have hlength : b.length + sep.length + a.length = before.length := by
    rw [← hocc, List.length_append, List.length_append]
  have hle : before.length ≤ b.length :=
    h.first b (a ++ (sep ++ after)) (by rw [h.whole, ← hocc]; simp)
  have hpos : 0 < sep.length := List.length_pos_iff.2 hsep
  omega

/-- An occurrence that begins earlier would end before the last character of this one. -/
theorem FirstCut.of_not_infix {sep before : Text} (h : ¬ sep <:+: before ++ sep.dropLast)
    (after : Text) : FirstCut sep (before ++ sep ++ after) before after := by
  refine ⟨rfl, fun b a heq => Nat.le_of_not_lt fun hlt => h ?_⟩
  have hsep : sep ≠ [] := by
    rintro rfl
    exact h (List.nil_infix)
  have hlength : (b ++ sep).length ≤ (before ++ sep.dropLast).length := by
    rw [List.length_append, List.length_append, List.length_dropLast]
    have hpos : 0 < sep.length := List.length_pos_iff.2 hsep
    omega
  have hprefix : b ++ sep <+: before ++ sep.dropLast := by
    apply List.prefix_of_prefix_length_le ⟨a, heq.symm⟩ _ hlength
    exact ((List.prefix_append_right_inj before).2 (List.dropLast_prefix sep)).trans
      (List.prefix_append _ _)
  exact (List.suffix_append b sep).isInfix.trans hprefix.isInfix

theorem singleton_infix_iff {c : Char} {t : Text} : [c] <:+: t ↔ c ∈ t := by
  constructor
  · exact fun h => h.subset List.mem_cons_self
  · intro h
    obtain ⟨b, a, rfl⟩ := List.append_of_mem h
    exact ⟨b, a, by simp⟩

/-- A separator of one character is first where it has not occurred before. -/
theorem splitFirst?_singleton_eq_some_iff {c : Char} {t before after : Text} :
    splitFirst? [c] t = some (before, after) ↔ t = before ++ c :: after ∧ c ∉ before := by
  have hwhole : before ++ [c] ++ after = before ++ c :: after := List.append_assoc _ _ _
  rw [splitFirst?_eq_some_iff]
  constructor
  · intro h
    refine ⟨h.whole.trans hwhole, fun hmem => ?_⟩
    exact h.not_infix (List.cons_ne_nil c []) (singleton_infix_iff.2 hmem)
  · rintro ⟨rfl, hbefore⟩
    rw [← hwhole]
    refine FirstCut.of_not_infix ?_ after
    rwa [List.dropLast_singleton, List.append_nil, singleton_infix_iff]

theorem splitFirst?_singleton_eq_none_iff {c : Char} {t : Text} :
    splitFirst? [c] t = none ↔ c ∉ t := by
  rw [splitFirst?_eq_none_iff, singleton_infix_iff]

/-- A text can be cut at the first `c` in one way only. -/
theorem append_cons_inj {c : Char} {a b a' b' : Text} (ha : c ∉ a) (ha' : c ∉ a')
    (h : a ++ c :: b = a' ++ c :: b') : a = a' ∧ b = b' := by
  have hcut : splitFirst? [c] (a ++ c :: b) = some (a, b) :=
    splitFirst?_singleton_eq_some_iff.2 ⟨rfl, ha⟩
  have hcut' : splitFirst? [c] (a ++ c :: b) = some (a', b') :=
    splitFirst?_singleton_eq_some_iff.2 ⟨h, ha'⟩
  rw [hcut] at hcut'
  cases hcut'
  exact ⟨rfl, rfl⟩

/-- A text without the character `c` occurs on one side of `c` if it occurs at all. -/
theorem infix_append_cons {sep a b : Text} {c : Char} (hc : c ∉ sep)
    (h : sep <:+: a ++ c :: b) : sep <:+: a ∨ sep <:+: b := by
  obtain ⟨x, y, heq⟩ := h
  rcases List.append_eq_append_iff.1 heq with ⟨m, hm, -⟩ | ⟨m, hm, hy⟩
  · exact Or.inl ⟨x, m, hm.symm⟩
  · cases m with
    | nil => exact Or.inl ⟨x, [], by simpa using hm⟩
    | cons d m =>
        rw [List.cons_append, List.cons.injEq] at hy
        obtain ⟨rfl, rfl⟩ := hy
        rcases List.append_eq_append_iff.1 hm with ⟨k, -, hk⟩ | ⟨k, -, hk⟩
        · exact absurd (hk ▸ List.mem_append_right k List.mem_cons_self) hc
        · cases k with
          | nil =>
              rw [List.nil_append] at hk
              exact absurd (hk ▸ List.mem_cons_self) hc
          | cons e k =>
              rw [List.cons_append, List.cons.injEq] at hk
              exact Or.inr ⟨k, y, by rw [hk.2]⟩

/-- One more character at the end, if no separator can end in it, belongs to the second half. -/
theorem FirstCut.concat {sep t before after : Text} {c : Char} (h : FirstCut sep t before after)
    (hsep : sep ≠ []) (hc : c ∉ sep) : FirstCut sep (t ++ [c]) before (after ++ [c]) where
  whole := by rw [h.whole, List.append_assoc]
  first b a heq := by
    rcases List.eq_nil_or_concat a with rfl | ⟨a, d, rfl⟩
    · -- The separator would be the end of the text.
      obtain ⟨front, last, rfl⟩ := (List.eq_nil_or_concat sep).resolve_left hsep
      rw [List.append_nil, List.concat_eq_append, ← List.append_assoc] at heq
      have hlast : c = last := by simpa using List.append_inj_right' heq rfl
      exact absurd (by simp [hlast]) hc
    · rw [List.concat_eq_append, ← List.append_assoc] at heq
      exact h.first b a (List.append_inj_left' heq rfl)

/-! ## Into pieces and lines -/

theorem pieces_cons {α : Type} [DecidableEq α] (sep c : α) (l : List α) :
    ∃ piece more, pieces sep l = piece :: more ∧
      pieces sep (c :: l) = if c = sep then [] :: piece :: more else (c :: piece) :: more := by
  have hne : pieces sep l ≠ [] := by
    cases l with
    | nil => simp [pieces]
    | cons d later =>
        rw [pieces, List.foldr_cons]
        split
        · simp
        · split <;> simp
  obtain ⟨piece, more, hpieces⟩ := List.exists_cons_of_ne_nil hne
  refine ⟨piece, more, hpieces, ?_⟩
  simp only [pieces, List.foldr_cons] at hpieces ⊢
  rw [hpieces]

theorem not_mem_of_mem_pieces {α : Type} [DecidableEq α] {sep : α} {l piece : List α}
    (h : piece ∈ pieces sep l) : sep ∉ piece := by
  induction l generalizing piece with
  | nil =>
      rw [List.mem_singleton.1 (show piece ∈ [[]] from h)]
      exact List.not_mem_nil
  | cons c rest ih =>
      obtain ⟨first, more, hrest, hcons⟩ := pieces_cons sep c rest
      rw [hcons] at h
      rw [hrest] at ih
      split at h
      · rcases List.mem_cons.1 h with rfl | h
        · exact List.not_mem_nil
        · exact ih h
      · -- The first piece grows by `c`, which is no separator; the others stay.
        next hc =>
          rcases List.mem_cons.1 h with rfl | h
          · intro hmem
            rcases List.mem_cons.1 hmem with rfl | hmem
            · exact hc rfl
            · exact ih List.mem_cons_self hmem
          · exact ih (List.mem_cons_of_mem first h)

theorem mem_of_mem_dropReturn {c : Char} {t : Text} (h : c ∈ dropReturn t) : c ∈ t := by
  rw [dropReturn] at h
  split at h
  · exact (List.dropLast_sublist t).subset h
  · exact h

theorem lineFeed_not_mem_of_mem_lines {t line : Text} (h : line ∈ lines t) : lineFeed ∉ line := by
  rw [lines] at h
  rcases List.mem_append.1 h with h | h
  · obtain ⟨piece, hpiece, rfl⟩ := List.mem_map.1 h
    intro hmem
    exact not_mem_of_mem_pieces ((List.dropLast_sublist _).subset hpiece)
      (mem_of_mem_dropReturn hmem)
  · -- What follows the last line feed is a line as well, unless it is empty.
    split at h
    · cases h
    · rw [List.mem_singleton.1 h]
      cases hlast : (pieces lineFeed t).getLast? with
      | none => exact List.not_mem_nil
      | some piece => exact not_mem_of_mem_pieces (List.mem_of_getLast? hlast)

/-! ## Blanks at the ends -/

theorem mem_of_mem_trim {c : Char} {t : Text} (h : c ∈ trim t) : c ∈ t := by
  rw [trim, trimEnd, List.mem_reverse] at h
  have hstart := (List.dropWhile_sublist _).subset h
  rw [List.mem_reverse] at hstart
  exact (List.dropWhile_sublist _).subset hstart

/-- A text with no blank at either end is left alone. -/
theorem trim_eq_self {first last : Char} {t : Text} (hfirst : isBlank first = false)
    (hlast : isBlank last = false) : trim (first :: (t ++ [last])) = first :: (t ++ [last]) := by
  have hstart : trimStart (first :: (t ++ [last])) = first :: (t ++ [last]) :=
    List.dropWhile_cons_of_neg (by simp [hfirst])
  have hend : (first :: (t ++ [last])).reverse = last :: (first :: t).reverse := by simp
  rw [trim, hstart, trimEnd, hend, List.dropWhile_cons_of_neg (by simp [hlast]), ← hend,
    List.reverse_reverse]

theorem allBlank_iff {t : Text} : allBlank t = true ↔ ∀ c ∈ t, isBlank c = true :=
  List.all_eq_true

/-- **Trimming drops blanks and nothing else.** -/
theorem exists_eq_append_trim (t : Text) :
    ∃ lead trail, allBlank lead = true ∧ allBlank trail = true ∧ t = lead ++ trim t ++ trail := by
  refine ⟨t.takeWhile isBlank, ((trimStart t).reverse.takeWhile isBlank).reverse,
    List.all_takeWhile, ?_, ?_⟩
  · rw [allBlank, List.all_reverse]
    exact List.all_takeWhile
  · have hend : trim t ++ ((trimStart t).reverse.takeWhile isBlank).reverse = trimStart t := by
      rw [trim, trimEnd, ← List.reverse_append, List.takeWhile_append_dropWhile,
        List.reverse_reverse]
    rw [List.append_assoc, hend, trimStart, List.takeWhile_append_dropWhile]

/-- Blanks at the ends do not matter. -/
theorem trim_append {lead trail : Text} (hlead : allBlank lead = true)
    (htrail : allBlank trail = true) (t : Text) : trim (lead ++ t ++ trail) = trim t := by
  have hstart : trimStart (lead ++ t ++ trail) = (t ++ trail).dropWhile isBlank := by
    rw [trimStart, List.append_assoc, List.dropWhile_append_of_pos (allBlank_iff.1 hlead)]
  have hblank : ∀ c ∈ trail.reverse, isBlank c = true :=
    fun c hc => allBlank_iff.1 htrail c (List.mem_reverse.1 hc)
  rw [trim, hstart, List.dropWhile_append]
  split
  · -- Nothing but blanks.
    next hempty =>
      have hnone : (trail ++ []).dropWhile isBlank = [] :=
        List.dropWhile_append_of_pos (allBlank_iff.1 htrail)
      rw [List.append_nil] at hnone
      rw [hnone, trim, trimStart, List.isEmpty_iff.1 hempty]
  · rw [trimEnd, List.reverse_append, List.dropWhile_append_of_pos hblank]
    rfl

end Phrasebook.Text
