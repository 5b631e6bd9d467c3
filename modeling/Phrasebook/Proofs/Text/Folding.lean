import Mathlib.Data.List.Forall2
import Mathlib.Logic.Relation
import Phrasebook.Text.CaseFold

/-!
# Folding case

The rows of the table are in order and what they fold to is in none of them, so that folding goes one
step and no further (`foldCodePoint_foldCodePoint`). The classes of characters that are folded to each
other in some way are therefore those of the characters with one representative
(`sameClass_iff_foldCase`), and the list of the variants of a character is its class
(`mem_variants_iff`). A character that is in no row, such as the line feed, is alone in its class.
-/

set_option autoImplicit false

namespace Phrasebook.Text

/-! ## The table -/

theorem FoldRun.contains_iff {run : FoldRun} {n : Nat} :
    run.contains n = true ↔
      run.first ≤ n ∧ n ≤ run.last ∧ (n - run.first) % run.stride = 0 := by
  simp only [contains, Bool.and_eq_true, decide_eq_true_eq, beq_iff_eq, and_assoc]

/-- One run comes before another. -/
def FoldRun.Before (run later : FoldRun) : Prop :=
  run.last < later.first ∧ later.first ≤ later.last

instance (run later : FoldRun) : Decidable (run.Before later) := inferInstanceAs (Decidable (_ ∧ _))

instance : Trans FoldRun.Before FoldRun.Before FoldRun.Before where
  trans h h' := ⟨Nat.lt_trans (Nat.lt_of_lt_of_le h.1 h.2) h'.1, h'.2⟩

theorem foldRuns_ordered : foldRuns.Pairwise FoldRun.Before :=
  List.isChain_iff_pairwise.1 (by decide +kernel)

/-- What a run folds to lies in an interval that does not meet another run, or else always between two
members of it. -/
def FoldRun.misses (run other : FoldRun) : Bool :=
  Nat.blt (run.apply run.last) other.first || Nat.blt other.last run.target ||
    (other.stride == 2 && (run.target + other.first) % 2 == 1 &&
      (run.stride == 2 || run.first == run.last))

theorem foldRuns_miss : (foldRuns.all fun run => foldRuns.all run.misses) = true := by
  decide +kernel

theorem FoldRun.contains_apply_of_misses {run other : FoldRun} (h : run.misses other = true) {n : Nat}
    (hn : run.contains n = true) : other.contains (run.apply n) = false := by
  obtain ⟨hfirst, hlast, hstride⟩ := contains_iff.1 hn
  rw [← Bool.not_eq_true, contains_iff]
  rintro ⟨hfirst', hlast', hstride'⟩
  simp only [misses, apply, Nat.blt_eq, Bool.or_eq_true, Bool.and_eq_true, beq_iff_eq] at h
  rw [apply] at hfirst' hlast' hstride'
  rcases h with (h | h) | ⟨⟨hother, hparity⟩, h | h⟩
  · omega
  · omega
  · -- Members of the other run have the parity of its first, and these have not.
    rw [hother] at hstride'
    rw [h] at hstride
    omega
  · rw [hother] at hstride'
    omega

/-- The ends of an interval of code points that are no surrogates. -/
def Scalars (first last : Nat) : Prop := last < 0xD800 ∨ 0xDFFF < first ∧ last < 0x110000

instance (first last : Nat) : Decidable (Scalars first last) :=
  inferInstanceAs (Decidable (_ ∨ _ ∧ _))

theorem Scalars.isValidChar {first last n : Nat} (h : Scalars first last) (hfirst : first ≤ n)
    (hlast : n ≤ last) : n.isValidChar := by
  rcases h with h | ⟨h, h'⟩
  · exact Or.inl (by omega)
  · exact Or.inr ⟨by omega, by omega⟩

theorem foldRuns_scalars : ∀ run ∈ foldRuns,
    Scalars run.first run.last ∧ Scalars run.target (run.apply run.last) := by
  decide +kernel

/-! ## Code points -/

/-- In runs in order the first one that does not end before a code point is the one that holds it. -/
theorem find?_of_contains {runs : List FoldRun} (h : runs.Pairwise FoldRun.Before) {run : FoldRun}
    (hrun : run ∈ runs) {n : Nat} (hn : run.contains n = true) :
    runs.find? (fun run => n ≤ run.last) = some run := by
  obtain ⟨hfirst, hlast, -⟩ := FoldRun.contains_iff.1 hn
  induction runs with
  | nil => cases hrun
  | cons r later ih =>
      obtain ⟨hbefore, hlater⟩ := List.pairwise_cons.1 h
      rcases List.mem_cons.1 hrun with rfl | hmem
      · exact List.find?_cons_of_pos (by simpa using hlast)
      · have hr : r.last < n := Nat.lt_of_lt_of_le (hbefore run hmem).1 hfirst
        rw [List.find?_cons_of_neg (by simpa using hr)]
        exact ih hlater hmem

theorem foldCodePoint_of_contains {run : FoldRun} (hrun : run ∈ foldRuns) {n : Nat}
    (hn : run.contains n = true) : foldCodePoint n = run.apply n := by
  simp only [foldCodePoint, find?_of_contains foldRuns_ordered hrun hn]
  exact if_pos hn

theorem foldCodePoint_of_not_contains {n : Nat} (h : ∀ run ∈ foldRuns, run.contains n = false) :
    foldCodePoint n = n := by
  unfold foldCodePoint
  split
  · next run hfind => exact if_neg (by simp [h run (List.mem_of_find?_eq_some hfind)])
  · rfl

/-- A code point is moved by the run that holds it, or else it stays. -/
theorem foldCodePoint_cases (n : Nat) :
    (∃ run ∈ foldRuns, run.contains n = true ∧ foldCodePoint n = run.apply n) ∨
      (∀ run ∈ foldRuns, run.contains n = false) ∧ foldCodePoint n = n := by
  by_cases h : ∃ run ∈ foldRuns, run.contains n = true
  · obtain ⟨run, hrun, hn⟩ := h
    exact Or.inl ⟨run, hrun, hn, foldCodePoint_of_contains hrun hn⟩
  · have hnone : ∀ run ∈ foldRuns, run.contains n = false :=
      fun run hrun => Bool.not_eq_true _ ▸ fun hn => h ⟨run, hrun, hn⟩
    exact Or.inr ⟨hnone, foldCodePoint_of_not_contains hnone⟩

/-- **Folding goes one step.** -/
theorem foldCodePoint_foldCodePoint (n : Nat) :
    foldCodePoint (foldCodePoint n) = foldCodePoint n := by
  rcases foldCodePoint_cases n with ⟨run, hrun, hn, hfold⟩ | ⟨-, hfold⟩
  · -- What a run folds to is in no run.
    rw [hfold]
    apply foldCodePoint_of_not_contains
    intro other hother
    have hmiss : run.misses other = true :=
      List.all_eq_true.1 (List.all_eq_true.1 foldRuns_miss run hrun) other hother
    exact FoldRun.contains_apply_of_misses hmiss hn
  · rw [hfold, hfold]

theorem FoldRun.isValidChar_of_contains {run : FoldRun} (hrun : run ∈ foldRuns) {n : Nat}
    (hn : run.contains n = true) : n.isValidChar ∧ (run.apply n).isValidChar := by
  obtain ⟨hfirst, hlast, -⟩ := FoldRun.contains_iff.1 hn
  obtain ⟨hsources, htargets⟩ := foldRuns_scalars run hrun
  have happly : run.apply n ≤ run.apply run.last :=
    Nat.add_le_add_left (Nat.sub_le_sub_right hlast _) _
  exact ⟨hsources.isValidChar hfirst hlast,
    htargets.isValidChar (Nat.le_add_right _ _) happly⟩

/-! ## Characters -/

theorem toNat_ofNat {n : Nat} (h : n.isValidChar) : (Char.ofNat n).toNat = n := by
  rw [Char.ofNat, dif_pos h]
  rfl

theorem toNat_foldCase (c : Char) : (foldCase c).toNat = foldCodePoint c.toNat := by
  apply toNat_ofNat
  rcases foldCodePoint_cases c.toNat with ⟨run, hrun, hn, hfold⟩ | ⟨-, hfold⟩
  · rw [hfold]
    exact (FoldRun.isValidChar_of_contains hrun hn).2
  · rw [hfold]
    exact c.valid

theorem foldCase_foldCase (c : Char) : foldCase (foldCase c) = foldCase c := by
  rw [foldCase, toNat_foldCase, foldCodePoint_foldCodePoint]
  rfl

/-! ## Classes -/

/-- A row of the table folds one character to the other. -/
def FoldsTo (c d : Char) : Prop :=
  ∃ run ∈ foldRuns, run.contains c.toNat = true ∧ run.apply c.toNat = d.toNat

/-- Two characters are in one class: the rows of the table lead from one to the other, forwards and
backwards. -/
def SameClass : Char → Char → Prop := Relation.EqvGen FoldsTo

theorem FoldsTo.foldCase_eq {c d : Char} (h : FoldsTo c d) : foldCase c = d := by
  obtain ⟨run, hrun, hn, happly⟩ := h
  rw [← Char.toNat_inj, toNat_foldCase, foldCodePoint_of_contains hrun hn, happly]

theorem sameClass_foldCase (c : Char) : SameClass c (foldCase c) := by
  rcases foldCodePoint_cases c.toNat with ⟨run, hrun, hn, hfold⟩ | ⟨-, hfold⟩
  · exact .rel _ _ ⟨run, hrun, hn, by rw [toNat_foldCase, hfold]⟩
  · have hself : foldCase c = c := by rw [← Char.toNat_inj, toNat_foldCase, hfold]
    rw [hself]
    exact .refl c

/-- **The representative decides the class.** -/
theorem sameClass_iff_foldCase {c d : Char} : SameClass c d ↔ foldCase c = foldCase d := by
  constructor
  · intro h
    induction h with
    | rel c d h => rw [← h.foldCase_eq, foldCase_foldCase]
    | refl c => rfl
    | symm c d _ ih => exact ih.symm
    | trans c d e _ _ ih ih' => exact ih.trans ih'
  · intro h
    exact .trans _ _ _ (sameClass_foldCase c) (h ▸ .symm _ _ (sameClass_foldCase d))

instance (c d : Char) : Decidable (SameClass c d) := decidable_of_iff _ sameClass_iff_foldCase.symm

/-! ## Variants -/

theorem FoldRun.preimage?_eq_some_iff {run : FoldRun} {n m : Nat} :
    run.preimage? n = some m ↔ run.contains m = true ∧ run.apply m = n := by
  simp only [preimage?, Bool.and_eq_true, decide_eq_true_eq, Option.ite_none_right_eq_some,
    Option.some.injEq]
  constructor
  · rintro ⟨⟨hle, hm⟩, rfl⟩
    exact ⟨hm, by rw [apply, Nat.add_sub_cancel_left, Nat.add_sub_cancel' hle]⟩
  · rintro ⟨hm, rfl⟩
    have hsource : run.first + (run.apply m - run.target) = m := by
      rw [apply, Nat.add_sub_cancel_left, Nat.add_sub_cancel' (contains_iff.1 hm).1]
    exact ⟨⟨Nat.le_add_right _ _, hsource.symm ▸ hm⟩, hsource⟩

theorem mem_variants (c : Char) : c ∈ variants c := by
  have hmem : c.toNat ∈ foldCodePoint c.toNat ::
      foldRuns.filterMap fun run => run.preimage? (foldCodePoint c.toNat) := by
    rw [List.mem_cons, List.mem_filterMap]
    rcases foldCodePoint_cases c.toNat with ⟨run, hrun, hn, hfold⟩ | ⟨-, hfold⟩
    · -- The character is folded by the run, whose inverse gives it back.
      exact Or.inr ⟨run, hrun, FoldRun.preimage?_eq_some_iff.2 ⟨hn, hfold.symm⟩⟩
    · exact Or.inl hfold.symm
  exact List.mem_map.2 ⟨c.toNat, hmem, Char.ofNat_toNat c⟩

theorem variants_congr {c d : Char} (h : foldCase c = foldCase d) : variants c = variants d := by
  rw [variants, ← toNat_foldCase, h, toNat_foldCase]
  rfl

/-- **The variants of a character are its class.** -/
theorem mem_variants_iff {c d : Char} : d ∈ variants c ↔ SameClass c d := by
  constructor
  · intro h
    obtain ⟨m, hm, rfl⟩ := List.mem_map.1 h
    rcases List.mem_cons.1 hm with rfl | hm
    · exact sameClass_foldCase c
    · obtain ⟨run, hrun, hpreimage⟩ := List.mem_filterMap.1 hm
      obtain ⟨hcontains, happly⟩ := FoldRun.preimage?_eq_some_iff.1 hpreimage
      have hvalid := (FoldRun.isValidChar_of_contains hrun hcontains).1
      rw [sameClass_iff_foldCase, ← Char.toNat_inj, toNat_foldCase, toNat_foldCase,
        toNat_ofNat hvalid, foldCodePoint_of_contains hrun hcontains, happly]
  · intro h
    rw [variants_congr (sameClass_iff_foldCase.1 h)]
    exact mem_variants d

/-- A character that is the only one in its class. -/
def AloneInClass (c : Char) : Prop := ∀ d, SameClass c d → d = c

theorem aloneInClass_of_variants {c : Char} (h : variants c = [c]) : AloneInClass c := by
  intro d hd
  have hmem : d ∈ variants c := mem_variants_iff.2 hd
  rw [h] at hmem
  exact List.mem_singleton.1 hmem

/-- Only the character itself is folded to a character that is alone in its class. -/
theorem foldCase_eq_iff_of_variants {d : Char} (h : variants d = [d]) (c : Char) :
    foldCase c = d ↔ c = d := by
  have halone : AloneInClass d := aloneInClass_of_variants h
  constructor
  · rintro rfl
    exact halone c (.symm _ _ (sameClass_foldCase c))
  · rintro rfl
    exact halone (foldCase c) (sameClass_foldCase c)

theorem foldCase_eq_lineFeed_iff (c : Char) : foldCase c = lineFeed ↔ c = lineFeed :=
  foldCase_eq_iff_of_variants (by decide +kernel) c

/-! ## Texts -/

/-- Two texts of the same length, each character of one in the class of that of the other. -/
def CaseEquivalent (t t' : Text) : Prop := List.Forall₂ SameClass t t'

theorem caseEquivalent_iff {t t' : Text} :
    CaseEquivalent t t' ↔ t.map foldCase = t'.map foldCase := by
  have hclass : SameClass = fun c d => foldCase c = foldCase d :=
    funext fun _ => funext fun _ => propext sameClass_iff_foldCase
  rw [CaseEquivalent, hclass, ← List.forall₂_eq_eq_eq, List.forall₂_map_left_iff,
    List.forall₂_map_right_iff]

end Phrasebook.Text
