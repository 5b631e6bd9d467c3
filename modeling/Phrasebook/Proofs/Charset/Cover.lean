import Phrasebook.Charset.Basic

/-!
# The set of some characters holds each of them

Putting intervals in order loses none of them, and fusing intervals in order leaves every one of
them inside of another (`exists_mem_fuse`). So every character of a list lies in an interval of the
set that is made of the list (`Charset.exists_mem_ofChars`).
-/

set_option autoImplicit false

namespace Phrasebook

namespace Interval

/-! ## Putting in order -/

theorem startsBy_iff (i j : Interval) : i.startsBy j = true ↔ i.first ≤ j.first := by
  rw [startsBy, decide_eq_true_eq]

theorem mem_place {i j : Interval} {l : List Interval} : j ∈ place i l ↔ j = i ∨ j ∈ l := by
  induction l with
  | nil => rw [place, List.mem_singleton, List.mem_nil_iff, or_false]
  | cons k rest ih =>
      rw [place]
      split
      · rw [List.mem_cons]
      · rw [List.mem_cons, ih, List.mem_cons]
        exact or_left_comm

/-- Intervals in the order of their first characters. -/
def InOrder (l : List Interval) : Prop := l.Pairwise fun i j => i.first ≤ j.first

theorem InOrder.place {l : List Interval} (h : InOrder l) (i : Interval) :
    InOrder (place i l) := by
  induction l with
  | nil => exact List.pairwise_singleton _ _
  | cons j rest ih =>
      obtain ⟨hj, hrest⟩ := List.pairwise_cons.1 h
      rw [Interval.place]
      split
      · next hij =>
          rw [startsBy_iff] at hij
          refine List.pairwise_cons.2 ⟨fun k hk => ?_, h⟩
          rcases List.mem_cons.1 hk with rfl | hk
          · exact hij
          · exact Char.le_trans hij (hj k hk)
      · next hij =>
          rw [startsBy_iff] at hij
          refine List.pairwise_cons.2 ⟨fun k hk => ?_, ih hrest⟩
          rcases mem_place.1 hk with rfl | hk
          · exact (Char.le_total _ _).resolve_left hij
          · exact hj k hk

theorem inOrder_foldr_place (l : List Interval) : InOrder (l.foldr place []) := by
  induction l with
  | nil => exact List.Pairwise.nil
  | cons i rest ih => exact ih.place i

theorem mem_foldr_place {i : Interval} {l : List Interval} : i ∈ l.foldr place [] ↔ i ∈ l := by
  induction l with
  | nil => exact Iff.rfl
  | cons j rest ih => rw [List.foldr_cons, mem_place, ih, List.mem_cons]

/-! ## Fusing -/

theorem le_later_left (c d : Char) : c ≤ later c d := by
  rw [later]
  split
  · assumption
  · exact Char.le_refl c

theorem le_later_right (c d : Char) : d ≤ later c d := by
  rw [later]
  split
  · exact Char.le_refl d
  · next h => exact (Char.le_total c d).resolve_left h

/-- Fusing intervals in order leaves every one of them inside of another. -/
theorem exists_mem_fuse {i : Interval} {l : List Interval} (h : InOrder (i :: l)) {k : Interval}
    (hk : k ∈ i :: l) : ∃ m ∈ fuse i l, m.first ≤ k.first ∧ k.last ≤ m.last := by
  induction l generalizing i k with
  | nil =>
      rw [List.mem_singleton.1 hk]
      exact ⟨i, List.mem_singleton_self i, Char.le_refl _, Char.le_refl _⟩
  | cons j rest ih =>
      obtain ⟨hi, hrest⟩ := List.pairwise_cons.1 h
      have hij : i.first ≤ j.first := hi j List.mem_cons_self
      rw [fuse]
      split
      · have horder : InOrder (⟨i.first, later i.last j.last⟩ :: rest) :=
          List.pairwise_cons.2
            ⟨fun k hk => hi k (List.mem_cons_of_mem j hk), (List.pairwise_cons.1 hrest).2⟩
        rcases List.mem_cons.1 hk with rfl | hk
        · obtain ⟨m, hm, hfirst, hlast⟩ := ih horder List.mem_cons_self
          exact ⟨m, hm, hfirst, Char.le_trans (le_later_left _ _) hlast⟩
        · rcases List.mem_cons.1 hk with rfl | hk
          · obtain ⟨m, hm, hfirst, hlast⟩ := ih horder List.mem_cons_self
            exact ⟨m, hm, Char.le_trans hfirst hij, Char.le_trans (le_later_right _ _) hlast⟩
          · exact ih horder (List.mem_cons_of_mem _ hk)
      · rcases List.mem_cons.1 hk with rfl | hk
        · exact ⟨k, List.mem_cons_self, Char.le_refl _, Char.le_refl _⟩
        · obtain ⟨m, hm, hbounds⟩ := ih hrest hk
          exact ⟨m, List.mem_cons_of_mem i hm, hbounds⟩

end Interval

/-- Every one of some characters lies in an interval of their set. -/
theorem Charset.exists_mem_ofChars {cs : List Char} {c : Char} (h : c ∈ cs) :
    ∃ i ∈ (ofChars cs).intervals, i.first ≤ c ∧ c ≤ i.last := by
  have hmem : (⟨c, c⟩ : Interval) ∈ (cs.map fun c => (⟨c, c⟩ : Interval)).foldr Interval.place [] :=
    Interval.mem_foldr_place.2 (List.mem_map_of_mem h)
  have horder := Interval.inOrder_foldr_place (cs.map fun c => (⟨c, c⟩ : Interval))
  rw [ofChars, ofIntervals]
  cases hplaced : (cs.map fun c => (⟨c, c⟩ : Interval)).foldr Interval.place [] with
  | nil =>
      rw [hplaced] at hmem
      cases hmem
  | cons i rest =>
      rw [hplaced] at hmem horder
      exact Interval.exists_mem_fuse horder hmem

/-- The characters of a set of one character are all the same. -/
theorem Charset.eq_of_isSome_only? {cs : List Char} (h : (ofChars cs).only?.isSome = true)
    {c d : Char} (hc : c ∈ cs) (hd : d ∈ cs) : c = d := by
  have honly : ∀ x ∈ cs, (ofChars cs).only? = some x := by
    intro x hx
    obtain ⟨i, hi, hfirst, hlast⟩ := exists_mem_ofChars hx
    unfold only? at h ⊢
    split at h
    · next j hintervals =>
        rw [hintervals, List.mem_singleton] at hi
        subst hi
        by_cases hends : i.first = i.last
        · rw [if_pos hends, Char.le_antisymm hfirst (hends ▸ hlast)]
        · simp [hends] at h
    · cases h
  exact Option.some.inj ((honly c hc).symm.trans (honly d hd))

end Phrasebook
