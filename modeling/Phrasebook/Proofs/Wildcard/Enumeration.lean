import Phrasebook.Proofs.Wildcard.Iteration
import Phrasebook.Proofs.Wildcard.Search

/-!
# The list of all matches

`Pattern.spans` is what searching again and again finds (`Pattern.enumerates_spans`): every search
goes on where the last match ended, and one place further on if that gives an empty match. The list
is in order (`pairwise_spansAlong`), everything in it was found at its start
(`find_of_mem_spansAlong`), and what is found anywhere else is inside a match of the list, or it is
empty and stands at the end of one (`accounted_of_find`).
-/

set_option autoImplicit false

namespace Phrasebook.Wildcard

/-! ## Places in a text -/

section

variable {find : Text → Reach} {t rest : Text} {c : Char} {k n : Nat}

theorem drop_eq_cons (h : t.drop k = c :: rest) : k + 1 ≤ t.length ∧ t.drop (k + 1) = rest := by
  constructor
  · refine Nat.lt_of_not_le fun hle => ?_
    rw [List.drop_eq_nil_of_le hle] at h
    cases h
  · rw [← List.tail_drop, h, List.tail_cons]

/-- The place after a match is a place of the text. -/
theorem FindsWithin.drop_eq (hfind : FindsWithin find) (h : t.drop k = c :: rest)
    (hfound : find (c :: rest) = some (n + 1)) :
    k + (n + 1) ≤ t.length ∧ t.drop (k + (n + 1)) = rest.drop n := by
  constructor
  · have hlength : n + 1 ≤ (c :: rest).length := hfind _ _ hfound
    rw [← h, List.length_drop] at hlength
    omega
  · rw [← List.drop_drop, h, List.drop_succ_cons]

end

/-! ## Searching again and again -/

/-- The match after one that ended at `stop`: what a search from there finds, unless that is empty
and ends there again; then what a search from one place further on finds. -/
def Pattern.next? (p : Pattern) (t : Text) (stop : Nat) : Option Span :=
  match p.search t stop with
  | none => none
  | some s => if s.stop = stop then p.search t (stop + 1) else some s

/-- The matches that are found one after the other, given the first of them, until nothing more is
found. -/
inductive Pattern.Enumerates (p : Pattern) (t : Text) : (found : Option Span) → List Span → Prop where
  /-- Nothing was found. -/
  | done : Enumerates p t none []
  /-- A match was found, and the search goes on after it. -/
  | next {s : Span} {later : List Span} (h : Enumerates p t (p.next? t s.stop) later) :
      Enumerates p t (some s) (s :: later)

section

variable {p : Pattern} {t : Text} {k n : Nat}

theorem Pattern.search_eq (hk : k ≤ t.length) :
    p.search t k = match p.reachAt (t.drop k) with
      | none => p.search t (k + 1)
      | some n => some ⟨k, k + n⟩ := by
  rw [search, firstSpan?_eq, ((p.tabulates_reaches t).drop hk).headD, List.tail_drop]
  rfl

/-- Nothing is found beyond the end of the text. -/
theorem Pattern.search_of_end (hu : t.drop k = []) : p.search t (k + 1) = none := by
  have hlt : t.length < k + 1 := Nat.lt_succ_of_le (List.drop_eq_nil_iff.1 hu)
  rw [search, (p.tabulates_reaches t).drop_eq_nil hlt]
  rfl

/-- A search that was started further on ends further on. -/
theorem Pattern.lt_stop_of_search {s : Span} (h : p.search t (k + 1) = some s) : k < s.stop := by
  have hbest := Pattern.search_eq_some_iff.1 h
  exact Nat.lt_of_lt_of_le hbest.start_le hbest.inside.1

/-- What the search finds at a place at which a match has just ended, or has not. -/
def Pattern.resume (p : Pattern) (t : Text) (ended : Bool) (position : Nat) : Option Span :=
  if ended then p.next? t position else p.search t position

theorem Pattern.next?_zero (hk : k ≤ t.length) (h : p.reachAt (t.drop k) = some 0) :
    p.next? t k = p.search t (k + 1) := by
  rw [next?, search_eq hk, h]
  exact if_pos rfl

/-- Nothing comes after a match that ended with the text. -/
theorem Pattern.next?_of_end (hk : k ≤ t.length) (hu : t.drop k = []) : p.next? t k = none := by
  cases hfound : p.reachAt [] with
  | none =>
      have hsearch : p.search t k = none := by rw [search_eq hk, hu, hfound, search_of_end hu]
      rw [next?, hsearch]
  | some n =>
      obtain rfl : n = 0 := p.findsWithin_reachAt.nil hfound
      rw [next?_zero hk (hu ▸ hfound), search_of_end hu]

theorem Pattern.resume_none (hk : k ≤ t.length) (h : p.reachAt (t.drop k) = none)
    (ended : Bool) : p.resume t ended k = p.search t (k + 1) := by
  have hsearch : p.search t k = p.search t (k + 1) := by rw [search_eq hk, h]
  cases ended with
  | false => exact hsearch
  | true =>
      show p.next? t k = _
      rw [next?, hsearch]
      cases hfound : p.search t (k + 1) with
      | none => rfl
      | some s => exact if_neg (Nat.ne_of_gt (lt_stop_of_search hfound))

theorem Pattern.resume_succ (hk : k ≤ t.length) (h : p.reachAt (t.drop k) = some (n + 1))
    (ended : Bool) : p.resume t ended k = some ⟨k, k + (n + 1)⟩ := by
  have hsearch : p.search t k = some ⟨k, k + (n + 1)⟩ := by rw [search_eq hk, h]
  cases ended with
  | false => exact hsearch
  | true =>
      show p.next? t k = _
      rw [next?, hsearch]
      refine if_neg ?_
      show k + (n + 1) ≠ k
      omega

/-- The scan lists what searching again and again finds. -/
theorem Pattern.enumerates_spansAlong {u : Text} (ended : Bool) (hk : k ≤ t.length)
    (hu : t.drop k = u) :
    p.Enumerates t (p.resume t ended k) (spansAlong p.reachAt ended k u) := by
  induction u using scan_induction p.reachAt generalizing ended k with
  | nil =>
      have hnext : p.next? t k = none := next?_of_end hk hu
      rw [spansAlong]
      cases ended with
      | true =>
          show p.Enumerates t (p.next? t k) []
          rw [hnext]
          exact .done
      | false =>
          show p.Enumerates t (p.search t k) _
          rw [search_eq hk, hu]
          cases hfound : p.reachAt [] with
          | none =>
              show p.Enumerates t (p.search t (k + 1)) []
              rw [search_of_end hu]
              exact .done
          | some n =>
              obtain rfl : n = 0 := p.findsWithin_reachAt.nil hfound
              refine .next ?_
              show p.Enumerates t (p.next? t k) []
              rw [hnext]
              exact .done
  | none c rest hfound ih =>
      obtain ⟨hlt, hrest⟩ := drop_eq_cons hu
      rw [resume_none hk (hu ▸ hfound), spansAlong_none hfound]
      exact ih false hlt hrest
  | zero c rest hfound ih =>
      obtain ⟨hlt, hrest⟩ := drop_eq_cons hu
      -- Reported or passed over, the empty match leaves the search one place further on.
      have hlater : p.Enumerates t (p.next? t k) (spansAlong p.reachAt false (k + 1) rest) := by
        rw [next?_zero hk (hu ▸ hfound)]
        exact ih false hlt hrest
      rw [spansAlong_zero hfound]
      cases ended with
      | true => exact hlater
      | false =>
          show p.Enumerates t (p.search t k) (⟨k, k⟩ :: spansAlong p.reachAt false (k + 1) rest)
          rw [search_eq hk, hu, hfound]
          exact .next hlater
  | succ c rest n hfound ih =>
      obtain ⟨hafter, hrest⟩ := p.findsWithin_reachAt.drop_eq hu hfound
      rw [resume_succ hk (hu ▸ hfound), spansAlong_succ hfound]
      exact .next (ih true hafter hrest)

/-- **The list of all matches is what searching again and again finds.** -/
theorem Pattern.enumerates_spans (p : Pattern) (t : Text) :
    p.Enumerates t (p.search t 0) (p.spans t) := by
  rw [spans_eq_spansAlong]
  exact enumerates_spansAlong false (Nat.zero_le _) List.drop_zero

end

/-! ## In order -/

/-- One match stands before another: it starts earlier and ends no later than the other one starts,
and an empty match does not start where the one before it ended. -/
structure Span.Precedes (a b : Span) : Prop where
  /-- Starts increase. -/
  start_lt : a.start < b.start
  /-- There is no overlap. -/
  stop_le : a.stop ≤ b.start
  /-- An empty match keeps away from the end of the one before. -/
  apart : b.start = b.stop → a.stop ≠ b.start

section

variable {find : Text → Reach} {t : Text} {ended : Bool} {position : Nat} {s : Span}

theorem length_spansAlong_le (find : Text → Reach) (ended : Bool) (position : Nat) (t : Text) :
    (spansAlong find ended position t).length ≤ t.length + 1 := by
  induction t using scan_induction find generalizing ended position with
  | nil =>
      rw [spansAlong]
      split
      · exact Nat.zero_le _
      · exact Nat.le_refl _
  | none c rest hfound ih =>
      rw [spansAlong_none hfound]
      exact Nat.le_succ_of_le (ih false (position + 1))
  | zero c rest hfound ih =>
      have hone : (if ended then [] else [(⟨position, position⟩ : Span)]).length ≤ 1 := by
        split
        · exact Nat.zero_le _
        · exact Nat.le_refl _
      rw [spansAlong_zero hfound, List.length_append, List.length_cons]
      have hrest := ih false (position + 1)
      omega
  | succ c rest n hfound ih =>
      have hrest := ih true (position + (n + 1))
      rw [List.length_drop] at hrest
      rw [spansAlong_succ hfound, List.length_cons, List.length_cons]
      omega

/-- Where a match has just ended, no empty one is listed. -/
theorem lt_stop_of_mem_spansAlong (hs : s ∈ spansAlong find true position t)
    (hstart : s.start = position) : s.start < s.stop := by
  have hlater : ∀ u, s ∉ spansAlong find false (position + 1) u := by
    intro u hu
    have hle := le_start_of_mem_spansAlong hu
    omega
  induction t using scan_induction find with
  | nil => simp [spansAlong] at hs
  | none c rest hfound _ =>
      rw [spansAlong_none hfound] at hs
      exact absurd hs (hlater rest)
  | zero c rest hfound _ =>
      rw [spansAlong_zero hfound] at hs
      exact absurd hs (hlater rest)
  | succ c rest n hfound _ =>
      rw [spansAlong_succ hfound] at hs
      rcases List.mem_cons.1 hs with rfl | hs
      · show position < position + (n + 1)
        omega
      · have hle := le_start_of_mem_spansAlong hs
        omega

/-- **The matches are listed in order.** -/
theorem pairwise_spansAlong (find : Text → Reach) (ended : Bool) (position : Nat) (t : Text) :
    (spansAlong find ended position t).Pairwise Span.Precedes := by
  induction t using scan_induction find generalizing ended position with
  | nil =>
      rw [spansAlong]
      split
      · exact .nil
      · exact List.pairwise_singleton _ _
  | none c rest hfound ih =>
      rw [spansAlong_none hfound]
      exact ih false (position + 1)
  | zero c rest hfound ih =>
      rw [spansAlong_zero hfound]
      cases ended with
      | true => exact ih false (position + 1)
      | false =>
          refine List.pairwise_cons.2 ⟨fun s hs => ?_, ih false (position + 1)⟩
          have hle := le_start_of_mem_spansAlong hs
          exact ⟨hle, Nat.le_of_succ_le hle, fun _ => Nat.ne_of_lt hle⟩
  | succ c rest n hfound ih =>
      rw [spansAlong_succ hfound]
      refine List.pairwise_cons.2 ⟨fun s hs => ?_, ih true (position + (n + 1))⟩
      have hle := le_start_of_mem_spansAlong hs
      -- A later match may start where this one ends, but then it is not empty.
      refine ⟨?_, hle, fun hempty hstop => ?_⟩
      · show position < s.start
        omega
      · exact Nat.ne_of_lt (lt_stop_of_mem_spansAlong hs hstop.symm) hempty

/-! ## Nothing is made up and nothing is missed -/

/-- **Nothing is made up.** A match of the list is what is found at its start. -/
theorem find_of_mem_spansAlong (hfind : FindsWithin find) {u : Text} (hk : position ≤ t.length)
    (hu : t.drop position = u) (hs : s ∈ spansAlong find ended position u) :
    s.start ≤ t.length ∧ ∃ n, find (t.drop s.start) = some n ∧ s.stop = s.start + n := by
  induction u using scan_induction find generalizing ended position with
  | nil =>
      cases hfound : find [] with
      | none => simp [spansAlong, hfound] at hs
      | some n =>
          obtain rfl : n = 0 := hfind.nil hfound
          rw [spansAlong, hfound] at hs
          split at hs
          · cases hs
          · rw [List.mem_singleton.1 hs]
            exact ⟨hk, 0, by rw [hu, hfound], rfl⟩
  | none c rest hfound ih =>
      obtain ⟨hlt, hrest⟩ := drop_eq_cons hu
      rw [spansAlong_none hfound] at hs
      exact ih hlt hrest hs
  | zero c rest hfound ih =>
      obtain ⟨hlt, hrest⟩ := drop_eq_cons hu
      rw [spansAlong_zero hfound] at hs
      rcases List.mem_append.1 hs with hs | hs
      · split at hs
        · cases hs
        · rw [List.mem_singleton.1 hs]
          exact ⟨hk, 0, by rw [hu, hfound], rfl⟩
      · exact ih hlt hrest hs
  | succ c rest n hfound ih =>
      obtain ⟨hafter, hrest⟩ := hfind.drop_eq hu hfound
      rw [spansAlong_succ hfound] at hs
      rcases List.mem_cons.1 hs with rfl | hs
      · exact ⟨hk, n + 1, by rw [hu, hfound], rfl⟩
      · exact ih hafter hrest hs

/-- A place is the start of a match or inside it. -/
def Span.Covers (s : Span) (place : Nat) : Prop :=
  s.start = place ∨ s.start ≤ place ∧ place < s.stop

/-- What can be said of a place at which a match of length `n` is found: it is covered by a match of
the list, or the match is empty and one of the list, or one from before, has just ended there. -/
def Accounted (spans : List Span) (ended : Bool) (position place n : Nat) : Prop :=
  (∃ s ∈ spans, s.Covers place) ∨
    n = 0 ∧ ((ended = true ∧ place = position) ∨ ∃ s ∈ spans, s.stop = place)

/-- What is accounted for by matches further on, where none has just ended before them, is accounted
for by more matches. -/
theorem Accounted.mono {spans spans' : List Span} {later place n : Nat} (h : spans ⊆ spans')
    (hspans : Accounted spans false later place n) : Accounted spans' ended position place n := by
  rcases hspans with ⟨s, hs, hcovers⟩ | ⟨hempty, ⟨hended, -⟩ | ⟨s, hs, hstop⟩⟩
  · exact .inl ⟨s, h hs, hcovers⟩
  · cases hended
  · exact .inr ⟨hempty, .inr ⟨s, h hs, hstop⟩⟩

/-- **Nothing is missed.** -/
theorem accounted_of_find (hfind : FindsWithin find) {u : Text} {place n : Nat}
    (hu : t.drop position = u) (hle : position ≤ place) (hplace : place ≤ t.length)
    (hfound : find (t.drop place) = some n) :
    Accounted (spansAlong find ended position u) ended position place n := by
  induction u using scan_induction find generalizing ended position with
  | nil =>
      -- The end of the text is the only place left.
      obtain rfl : place = position :=
        Nat.le_antisymm (Nat.le_trans hplace (List.drop_eq_nil_iff.1 hu)) hle
      rw [hu] at hfound
      cases ended with
      | true => exact .inr ⟨hfind.nil hfound, .inl ⟨rfl, rfl⟩⟩
      | false =>
          refine .inl ⟨⟨place, place⟩, ?_, .inl rfl⟩
          simp [spansAlong, hfound]
  | none c rest hnone ih =>
      obtain ⟨-, hrest⟩ := drop_eq_cons hu
      rw [spansAlong_none hnone]
      rcases Nat.eq_or_lt_of_le hle with rfl | hlt
      · rw [hu, hnone] at hfound
        cases hfound
      · exact (ih hrest hlt).mono (List.Subset.refl _)
  | zero c rest hzero ih =>
      obtain ⟨-, hrest⟩ := drop_eq_cons hu
      rw [spansAlong_zero hzero]
      rcases Nat.eq_or_lt_of_le hle with rfl | hlt
      · rw [hu, hzero] at hfound
        cases ended with
        | true => exact .inr ⟨(Option.some.inj hfound).symm, .inl ⟨rfl, rfl⟩⟩
        | false => exact .inl ⟨⟨position, position⟩, List.mem_cons_self, .inl rfl⟩
      · exact (ih hrest hlt).mono (List.subset_append_right _ _)
  | succ c rest m hsucc ih =>
      obtain ⟨-, hrest⟩ := hfind.drop_eq hu hsucc
      rw [spansAlong_succ hsucc]
      -- A place in this match is covered by it, and the later matches account for all others. Where
      -- it ends, they only do so if they are told that a match has ended.
      rcases Nat.lt_or_ge place (position + (m + 1)) with hlt | hge
      · exact .inl ⟨_, List.mem_cons_self, .inr ⟨hle, hlt⟩⟩
      · rcases ih hrest hge with ⟨s, hs, hcovers⟩ | ⟨hempty, ⟨-, rfl⟩ | ⟨s, hs, hstop⟩⟩
        · exact .inl ⟨s, List.mem_cons_of_mem _ hs, hcovers⟩
        · exact .inr ⟨hempty, .inr ⟨_, List.mem_cons_self, rfl⟩⟩
        · exact .inr ⟨hempty, .inr ⟨s, List.mem_cons_of_mem _ hs, hstop⟩⟩

end

/-! ## All matches of a pattern -/

section

variable {p : Pattern} {t : Text} {s : Span}

/-- A search from the start of a match of the list finds this match. -/
theorem Pattern.search_start_of_mem_spans (hs : s ∈ p.spans t) : p.search t s.start = some s := by
  rw [spans_eq_spansAlong] at hs
  obtain ⟨hle, n, hfound, hstop⟩ :=
    find_of_mem_spansAlong p.findsWithin_reachAt (Nat.zero_le _) List.drop_zero hs
  rw [search_eq hle, hfound]
  show some (⟨s.start, s.start + n⟩ : Span) = some s
  rw [← hstop]

/-- A match of the list is the longest one at its start. -/
theorem Pattern.leftmostLongest_of_mem_spans (hs : s ∈ p.spans t) :
    LeftmostLongest (Matches p.mode p.tokens) t s.start s :=
  Pattern.search_eq_some_iff.1 (Pattern.search_start_of_mem_spans hs)

theorem Pattern.pairwise_spans (p : Pattern) (t : Text) : (p.spans t).Pairwise Span.Precedes := by
  rw [spans_eq_spansAlong]
  exact pairwise_spansAlong p.reachAt false 0 t

theorem Pattern.accounted_of_matches (hs : s.Inside t) (h : Matches p.mode p.tokens (s.text t)) :
    (∃ s' ∈ p.spans t, s'.Covers s.start) ∨
      s.stop = s.start ∧ ∃ s' ∈ p.spans t, s'.stop = s.start := by
  obtain ⟨n, hfound, hle⟩ := greedy_complete (s.text_prefix t) h
  have haccounted : Accounted (spansAlong p.reachAt false 0 t) false 0 s.start n :=
    accounted_of_find p.findsWithin_reachAt List.drop_zero (Nat.zero_le s.start)
      (Nat.le_trans hs.1 hs.2) hfound
  rw [← spans_eq_spansAlong] at haccounted
  rcases haccounted with hcovers | ⟨rfl, ⟨hended, -⟩ | hstop⟩
  · exact .inl hcovers
  · cases hended
  · -- What is found there is empty, and nothing that matches there is longer.
    rw [Span.length_text hs] at hle
    exact .inr ⟨Nat.le_antisymm (Nat.le_of_sub_eq_zero (Nat.le_zero.1 hle)) hs.1, hstop⟩

theorem Span.Precedes.inBytes {a b : Span} (h : a.Precedes b) (ha : a.Inside t) (hb : b.Inside t) :
    (a.inBytes t).Precedes (b.inBytes t) := by
  have hastart := Nat.le_trans ha.1 ha.2
  have hbstart := Nat.le_trans hb.1 hb.2
  refine ⟨(Text.byteOffset_lt_iff hastart hbstart).2 h.start_lt,
    (Text.byteOffset_le_iff ha.2 hbstart).2 h.stop_le, fun hempty hstop => ?_⟩
  exact h.apart ((Text.byteOffset_inj hbstart hb.2).1 hempty)
    ((Text.byteOffset_inj ha.2 hbstart).1 hstop)

end

/-- **The list of all matches is orderly and complete.** For every wildcard that compiles, searching
again and again ends, with at most one match more than the text has characters, and gives the list
of all matches. The matches are in order, counted in characters and in bytes. Each of them is a
segment of the text that belongs to the wildcard, cuts no character, and is the longest one at its
start. And every segment that belongs to the wildcard starts where one of them starts or inside one,
unless it is empty and one of them ends there. -/
theorem spans_orderly_and_complete {w : Text} {mode : CaseMode} {p : Pattern}
    (h : compile w mode = .ok p) (t : Text) :
    p.Enumerates t (p.search t 0) (p.spans t) ∧
      (p.spans t).length ≤ t.length + 1 ∧
      (p.spans t).Pairwise Span.Precedes ∧
      ((p.spans t).map (Span.inBytes t)).Pairwise Span.Precedes ∧
      (∀ s ∈ p.spans t, s.Inside t ∧ Belongs mode w (s.text t) ∧
        Text.IsBoundary t (s.inBytes t).start ∧ Text.IsBoundary t (s.inBytes t).stop ∧
        ∀ s' : Span, s'.Inside t → s'.start = s.start → Belongs mode w (s'.text t) →
          s'.stop ≤ s.stop) ∧
      ∀ s : Span, s.Inside t → Belongs mode w (s.text t) →
        (∃ s' ∈ p.spans t, s'.Covers s.start) ∨
          s.stop = s.start ∧ ∃ s' ∈ p.spans t, s'.stop = s.start := by
  obtain ⟨-, rfl⟩ := compile_eq_ok_iff.1 h
  have hlanguage : Belongs mode w = Matches mode (tokens w) :=
    funext fun m => propext belongs_iff_matches
  have hlongest : ∀ s ∈ Pattern.spans ⟨tokens w, mode⟩ t,
      LeftmostLongest (Matches mode (tokens w)) t s.start s :=
    fun s hs => Pattern.leftmostLongest_of_mem_spans hs
  have hordered := Pattern.pairwise_spans ⟨tokens w, mode⟩ t
  rw [hlanguage]
  refine ⟨Pattern.enumerates_spans _ t, ?_, hordered, ?_, fun s hs => ?_, fun s hs hm => ?_⟩
  · rw [Pattern.spans_eq_spansAlong]
    exact length_spansAlong_le _ false 0 t
  · rw [List.pairwise_map]
    exact hordered.imp_of_mem fun ha hb hab =>
      hab.inBytes (hlongest _ ha).inside (hlongest _ hb).inside
  · exact ⟨(hlongest s hs).inside, (hlongest s hs).holds, Text.isBoundary_byteOffset t s.start,
      Text.isBoundary_byteOffset t s.stop, (hlongest s hs).longest⟩
  · exact Pattern.accounted_of_matches hs hm

/-- The one match at the first line feed is the empty one, and it is passed over, since a match ends
there; the empty line after it has an empty match of its own. -/
theorem spans_orderly_and_complete_on_empty_line :
    compile "*".toList .sensitive = .ok ⟨[.run], .sensitive⟩ ∧
      Pattern.Enumerates ⟨[.run], .sensitive⟩ "é\n\nk".toList (some ⟨0, 1⟩)
        [⟨0, 1⟩, ⟨2, 2⟩, ⟨3, 4⟩] ∧
      [(⟨0, 2⟩ : Span), ⟨3, 3⟩, ⟨4, 5⟩].Pairwise Span.Precedes ∧
      ∀ stop, Span.Inside ⟨1, stop⟩ "é\n\nk".toList →
        Belongs .sensitive "*".toList (Span.text ⟨1, stop⟩ "é\n\nk".toList) → stop = 1 := by
  have h : compile "*".toList .sensitive = .ok ⟨[.run], .sensitive⟩ :=
    compile_eq_ok_iff.2 ⟨by decide, rfl⟩
  have hspans : Pattern.spans ⟨[.run], .sensitive⟩ "é\n\nk".toList
      = [⟨0, 1⟩, ⟨2, 2⟩, ⟨3, 4⟩] := by decide
  obtain ⟨henumerates, -, -, hbytes, -, hcomplete⟩ := spans_orderly_and_complete h "é\n\nk".toList
  rw [hspans] at henumerates hbytes hcomplete
  refine ⟨h, henumerates, hbytes, fun stop hinside hbelongs => ?_⟩
  rcases hcomplete ⟨1, stop⟩ hinside hbelongs with ⟨s, hs, hcovers⟩ | ⟨hempty, -⟩
  · -- None of the three matches reaches over the first line feed.
    simp only [List.mem_cons, List.not_mem_nil, or_false] at hs
    rcases hs with rfl | rfl | rfl <;> simp [Span.Covers] at hcovers
  · exact hempty

end Phrasebook.Wildcard
