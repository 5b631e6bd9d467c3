import Phrasebook.Proofs.Text.Offset
import Phrasebook.Proofs.Wildcard.Language

/-!
# Searching finds the leftmost longest segment

`search` goes through the positions from left to right and takes what `greedy` finds at the first
position where it finds anything. So it finds, among all segments that belong to the wildcard and
do not start before the given position, the one that starts first, and of those that start there
the longest (`search_eq_some_iff`).
-/

set_option autoImplicit false

namespace Phrasebook.Wildcard

/-! ## The first entry of a table -/

theorem firstSpan?_eq (position : Nat) (l : List Reach) :
    firstSpan? position l = match l.headD none with
      | none => firstSpan? (position + 1) l.tail
      | some n => some ⟨position, position + n⟩ := by
  cases l with
  | nil => rfl
  | cons x xs => cases x <;> rfl

/-- The first span of a table: there is none, or it is the first suffix at which something is
found. -/
theorem firstSpan?_spec {f : Text → Reach} {t : Text} {l : List Reach} (h : Tabulates f t l)
    (position : Nat) :
    (firstSpan? position l = none ∧ ∀ i ≤ t.length, f (t.drop i) = none) ∨
      ∃ i n, i ≤ t.length ∧ f (t.drop i) = some n ∧ (∀ j < i, f (t.drop j) = none) ∧
        firstSpan? position l = some ⟨position + i, position + i + n⟩ := by
  induction t generalizing l position with
  | nil =>
      obtain ⟨hhead, htail⟩ := h
      rw [firstSpan?_eq, hhead, htail]
      cases hf : f [] with
      | none =>
          refine Or.inl ⟨rfl, fun i _ => ?_⟩
          rw [List.drop_nil]
          exact hf
      | some n =>
          exact Or.inr ⟨0, n, Nat.le_refl _, hf, fun j hj => absurd hj (Nat.not_lt_zero j), rfl⟩
  | cons c rest ih =>
      obtain ⟨hhead, htail⟩ := h
      rw [firstSpan?_eq, hhead]
      cases hf : f (c :: rest) with
      | none =>
          rcases ih htail (position + 1) with ⟨hnone, hall⟩ | ⟨i, n, hi, hn, hfirst, hspan⟩
          · refine Or.inl ⟨hnone, fun i hi => ?_⟩
            cases i with
            | zero => exact hf
            | succ i => exact hall i (Nat.le_of_succ_le_succ hi)
          · refine Or.inr ⟨i + 1, n, Nat.succ_le_succ hi, hn, fun j hj => ?_, ?_⟩
            · cases j with
              | zero => exact hf
              | succ j => exact hfirst j (Nat.lt_of_succ_lt_succ hj)
            · rw [show position + (i + 1) = position + 1 + i by omega]
              exact hspan
      | some n =>
          exact Or.inr
            ⟨0, n, Nat.zero_le _, hf, fun j hj => absurd hj (Nat.not_lt_zero j), rfl⟩

/-- What `search` finds: nothing at any position from `start` on, or what is found at the first
position where anything is. -/
theorem Pattern.search_spec (p : Pattern) (t : Text) (start : Nat) :
    (p.search t start = none ∧ ∀ i, start ≤ i → i ≤ t.length → p.reachAt (t.drop i) = none) ∨
      ∃ i n, start ≤ i ∧ i ≤ t.length ∧ p.reachAt (t.drop i) = some n ∧
        (∀ j, start ≤ j → j < i → p.reachAt (t.drop j) = none) ∧
        p.search t start = some ⟨i, i + n⟩ := by
  rcases Nat.lt_or_ge t.length start with hlt | hle
  · -- Beyond the end of the text there is neither an entry nor a position.
    refine Or.inl ⟨?_, fun i hi hi' => absurd (Nat.le_trans hi hi') (Nat.not_le.2 hlt)⟩
    rw [search, (p.tabulates_reaches t).drop_eq_nil hlt]
    rfl
  · have hdrop : ∀ i, (t.drop start).drop i = t.drop (start + i) := fun i => List.drop_drop
    have hlength : (t.drop start).length = t.length - start := List.length_drop
    rcases firstSpan?_spec ((p.tabulates_reaches t).drop hle) start with
      ⟨hnone, hall⟩ | ⟨i, n, hi, hn, hfirst, hspan⟩
    · refine Or.inl ⟨hnone, fun i hi hi' => ?_⟩
      have h := hall (i - start) (by omega)
      rwa [hdrop, Nat.add_sub_cancel' hi] at h
    · refine Or.inr ⟨start + i, n, Nat.le_add_right _ _, by omega, by rwa [← hdrop], ?_, hspan⟩
      intro j hj hj'
      have h := hfirst (j - start) (by omega)
      rwa [hdrop, Nat.add_sub_cancel' hj] at h

/-! ## Segments -/

/-- A span that lies within a text. -/
def Span.Inside (s : Span) (t : Text) : Prop := s.start ≤ s.stop ∧ s.stop ≤ t.length

/-- The segment of a text at a span. -/
def Span.text (s : Span) (t : Text) : Text := (t.take s.stop).drop s.start

theorem Span.text_eq (s : Span) (t : Text) :
    s.text t = (t.drop s.start).take (s.stop - s.start) :=
  List.drop_take

theorem Span.text_prefix (s : Span) (t : Text) : s.text t <+: t.drop s.start := by
  rw [s.text_eq]
  exact List.take_prefix _ _

theorem Span.length_text {s : Span} {t : Text} (h : s.Inside t) :
    (s.text t).length = s.stop - s.start := by
  rw [text, List.length_drop, List.length_take_of_le h.2]

/-- Among the spans of a text that do not start before `start` and whose segments have the
property `P`, the span `s` is the one that starts first, and the longest of those. -/
structure LeftmostLongest (P : Text → Prop) (t : Text) (start : Nat) (s : Span) : Prop where
  inside : s.Inside t
  start_le : start ≤ s.start
  holds : P (s.text t)
  leftmost : ∀ s' : Span, s'.Inside t → start ≤ s'.start → P (s'.text t) → s.start ≤ s'.start
  longest : ∀ s' : Span, s'.Inside t → s'.start = s.start → P (s'.text t) → s'.stop ≤ s.stop

theorem LeftmostLongest.unique {P : Text → Prop} {t : Text} {start : Nat} {s s' : Span}
    (h : LeftmostLongest P t start s) (h' : LeftmostLongest P t start s') : s = s' := by
  have hstart : s.start = s'.start :=
    Nat.le_antisymm (h.leftmost s' h'.inside h'.start_le h'.holds)
      (h'.leftmost s h.inside h.start_le h.holds)
  have hstop : s.stop = s'.stop :=
    Nat.le_antisymm (h'.longest s h.inside hstart h.holds)
      (h.longest s' h'.inside hstart.symm h'.holds)
  cases s
  cases s'
  simp_all

/-! ## Searching -/

theorem Pattern.not_matches_of_reachAt {p : Pattern} {t : Text} {s : Span}
    (h : p.reachAt (t.drop s.start) = none) : ¬ Matches p.mode p.tokens (s.text t) :=
  greedy_eq_none_iff.1 h _ (s.text_prefix t)

/-- **The search is leftmost and longest**, or there is nothing to find. -/
theorem Pattern.search_leftmostLongest (p : Pattern) (t : Text) (start : Nat) :
    (p.search t start = none ∧
        ∀ s : Span, s.Inside t → start ≤ s.start → ¬ Matches p.mode p.tokens (s.text t)) ∨
      ∃ s, p.search t start = some s ∧ LeftmostLongest (Matches p.mode p.tokens) t start s := by
  rcases p.search_spec t start with ⟨hnone, hall⟩ | ⟨i, n, hi, hi', hn, hfirst, hspan⟩
  · refine Or.inl ⟨hnone, fun s hs hle => ?_⟩
    exact Pattern.not_matches_of_reachAt (hall s.start hle (Nat.le_trans hs.1 hs.2))
  · obtain ⟨hlen, hmatch, hlongest⟩ := greedy_eq_some_iff.1 hn
    rw [List.length_drop] at hlen
    have htext : Span.text ⟨i, i + n⟩ t = (t.drop i).take n := by
      rw [Span.text_eq]
      exact congrArg (fun k => (t.drop i).take k) (Nat.add_sub_cancel_left i n)
    refine Or.inr ⟨⟨i, i + n⟩, hspan, ⟨Nat.le_add_right _ _, ?_⟩, hi, ?_, ?_, ?_⟩
    · show i + n ≤ t.length
      omega
    · rw [htext]
      exact hmatch
    · -- A segment that starts earlier would have been found before this one.
      intro s' hs' hle h
      rcases Nat.lt_or_ge s'.start i with hlt | hge
      · exact absurd h (Pattern.not_matches_of_reachAt (hfirst s'.start hle hlt))
      · exact hge
    · rintro ⟨a, b⟩ hs' rfl h
      have hle : (Span.text ⟨a, b⟩ t).length ≤ n := hlongest _ (Span.text_prefix ⟨a, b⟩ t) h
      rw [Span.length_text hs'] at hle
      calc b
          = a + (b - a) := (Nat.add_sub_cancel' hs'.1).symm
        _ ≤ a + n := Nat.add_le_add_left hle a

theorem Pattern.search_eq_none_iff {p : Pattern} {t : Text} {start : Nat} :
    p.search t start = none ↔
      ∀ s : Span, s.Inside t → start ≤ s.start → ¬ Matches p.mode p.tokens (s.text t) := by
  rcases p.search_leftmostLongest t start with ⟨hnone, hall⟩ | ⟨s, hs, hbest⟩
  · exact ⟨fun _ => hall, fun _ => hnone⟩
  · constructor
    · intro hnone
      rw [hnone] at hs
      cases hs
    · exact fun h => absurd hbest.holds (h s hbest.inside hbest.start_le)

theorem Pattern.search_eq_some_iff {p : Pattern} {t : Text} {start : Nat} {s : Span} :
    p.search t start = some s ↔ LeftmostLongest (Matches p.mode p.tokens) t start s := by
  rcases p.search_leftmostLongest t start with ⟨hnone, hall⟩ | ⟨s', hs', hbest⟩
  · constructor
    · intro hs
      rw [hnone] at hs
      cases hs
    · exact fun h => absurd h.holds (hall s h.inside h.start_le)
  · rw [hs', Option.some.injEq]
    constructor
    · rintro rfl
      exact hbest
    · exact fun h => hbest.unique h

theorem Pattern.isMatch_iff {p : Pattern} {t : Text} :
    p.isMatch t = true ↔ ∃ s : Span, s.Inside t ∧ Matches p.mode p.tokens (s.text t) := by
  rw [isMatch]
  rcases p.search_leftmostLongest t 0 with ⟨hnone, hall⟩ | ⟨s, hs, hbest⟩
  · rw [hnone]
    constructor
    · intro h
      cases h
    · rintro ⟨s, hs, h⟩
      exact absurd h (hall s hs (Nat.zero_le _))
  · rw [hs]
    exact ⟨fun _ => ⟨s, hbest.inside, hbest.holds⟩, fun _ => rfl⟩

/-- **Matching is leftmost-longest.** For every wildcard that compiles, a search from any position
fails exactly if no segment from there on belongs to the wildcard; it finds a span exactly if
that span is the leftmost one and of those the longest one whose segment belongs to it; and
something matches in a text exactly if some segment of it belongs to the wildcard. Counted in
bytes, positions are in the same order. -/
theorem search_finds_leftmost_longest {w : Text} {mode : CaseMode} {p : Pattern}
    (h : compile w mode = .ok p) (t : Text) :
    (∀ start, p.search t start = none ↔
        ∀ s : Span, s.Inside t → start ≤ s.start → ¬ Belongs mode w (s.text t)) ∧
      (∀ start s, p.search t start = some s ↔ LeftmostLongest (Belongs mode w) t start s) ∧
      (p.isMatch t = true ↔ ∃ s : Span, s.Inside t ∧ Belongs mode w (s.text t)) ∧
      (∀ i j, i ≤ t.length → j ≤ t.length →
        (Text.byteOffset t i ≤ Text.byteOffset t j ↔ i ≤ j)) := by
  obtain ⟨-, rfl⟩ := compile_eq_ok_iff.1 h
  have hlanguage : Belongs mode w = Matches mode (tokens w) :=
    funext fun m => propext belongs_iff_matches
  rw [hlanguage]
  exact ⟨fun _ => Pattern.search_eq_none_iff, fun _ _ => Pattern.search_eq_some_iff,
    Pattern.isMatch_iff, fun _ _ hi hj => Text.byteOffset_le_iff hi hj⟩

/-- A star goes on to the last `k` of its line, here the Kelvin sign, and no further. -/
theorem search_to_last_on_line :
    compile "*k".toList .insensitive = .ok ⟨[.run, .lit 'k'], .insensitive⟩ ∧
      LeftmostLongest (Belongs .insensitive "*k".toList) "x\n-K-\u212A!\nk".toList 1 ⟨2, 6⟩ := by
  have h : compile "*k".toList .insensitive = .ok ⟨[.run, .lit 'k'], .insensitive⟩ :=
    compile_eq_ok_iff.2 ⟨by decide +kernel, rfl⟩
  exact ⟨h, ((search_finds_leftmost_longest h _).2.1 1 ⟨2, 6⟩).1 (by decide)⟩

end Phrasebook.Wildcard
