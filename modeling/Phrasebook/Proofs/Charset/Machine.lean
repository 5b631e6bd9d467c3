import Mathlib.Data.List.SplitBy
import Phrasebook.Charset.Encoding
import Phrasebook.Proofs.Text.Folding

/-!
# The least size of a machine

A machine that reads the encodings of a set has a state for every byte of the longest of them,
however many states its encodings share. Read backwards, an encoding shares no more places than the
one before it has (`length_le_placesAfter`). Read forwards, a state leads only to states with lower
numbers (`Grounded`), so that a path of some length begins at a number no lower than that
(`stateOf_spec`). So a set takes at least as much room as any of its characters
(`utf8Size_le_machineSize`).
-/

set_option autoImplicit false

namespace Phrasebook

/-! ## The encodings of a set -/

theorem utf8Size_eq (c : Char) :
    c.utf8Size = if c.toNat ≤ 0x7F then 1 else if c.toNat ≤ 0x7FF then 2
      else if c.toNat ≤ 0xFFFF then 3 else 4 := by
  simp only [Char.utf8Size, UInt32.le_iff_toNat_le]
  rfl

/-- All characters of a row of the table take the number of bytes that the row says. -/
theorem utf8Size_of_row {row : Nat × Nat × Nat} (hrow : row ∈ encodingLengths) {n : Nat}
    (hlow : row.1 ≤ n) (hhigh : n ≤ row.2.1) : (Char.ofNat n).utf8Size = row.2.2 + 1 := by
  simp only [encodingLengths, List.mem_cons, List.not_mem_nil, or_false] at hrow
  have hvalid : n.isValidChar := by
    rcases hrow with rfl | rfl | rfl | rfl | rfl <;> (simp only at hlow hhigh; omega)
  rw [utf8Size_eq, Text.toNat_ofNat hvalid]
  rcases hrow with rfl | rfl | rfl | rfl | rfl <;> (simp only at hlow hhigh ⊢; split_ifs <;> omega)

theorem exists_row (c : Char) :
    ∃ row ∈ encodingLengths, row.1 ≤ c.toNat ∧ c.toNat ≤ row.2.1 := by
  have hvalid : c.toNat.isValidChar := c.valid
  simp only [encodingLengths, List.mem_cons, List.not_mem_nil, or_false, exists_eq_or_imp,
    exists_eq_left]
  rcases hvalid with h | h <;> omega

theorem blockSize_pos (k : Nat) : 0 < blockSize k := by
  induction k with
  | zero => exact Nat.one_pos
  | succ k ih => exact Nat.mul_pos (by decide) ih

/-- The first whole block of an interval that ends in a later block than it begins in, and the end
of its last whole block. -/
theorem block_bounds {block first last : Nat} (hblock : 0 < block)
    (h : first / block < last / block) :
    first ≤ (first + block - 1) / block * block ∧ (first + block - 1) / block * block ≤ last ∧
      ((first + block - 1) / block * block ≤ first →
        (first + block - 1) / block * block < (last + 1) / block * block) ∧
      (last + 1) / block * block ≤ last + 1 := by
  have hlast : last / block * block ≤ last := Nat.div_mul_le_self _ _
  have hlater : (first / block + 1) * block ≤ last / block * block := Nat.mul_le_mul_right block h
  have hfirst : first < (first / block + 1) * block :=
    (Nat.div_lt_iff_lt_mul hblock).1 (Nat.lt_succ_self _)
  have hstart : (first + block - 1) / block * block ≤ (first / block + 1) * block := by
    apply Nat.mul_le_mul_right
    rw [← Nat.lt_succ_iff, Nat.div_lt_iff_lt_mul hblock, Nat.succ_mul]
    omega
  have hstop : last / block * block ≤ (last + 1) / block * block :=
    Nat.mul_le_mul_right block (Nat.div_le_div_right (Nat.le_succ last))
  have hround : first + block - 1 < (first + block - 1) / block * block + block :=
    Nat.lt_div_mul_add hblock
  refine ⟨?_, ?_, fun hle => ?_, Nat.div_mul_le_self _ _⟩
  · omega
  · exact Nat.le_trans hstart (Nat.le_trans hlater hlast)
  · omega

/-- Cutting an interval leaves a piece of it. -/
theorem exists_mem_cutBlocks (k : Nat) {first last : Nat} (h : first ≤ last) :
    ∃ piece ∈ cutBlocks k first last,
      (first ≤ piece.1 ∧ piece.1 ≤ last) ∧ first ≤ piece.2 ∧ piece.2 ≤ last := by
  induction k generalizing first last with
  | zero => exact ⟨(first, last), List.mem_singleton_self _, ⟨Nat.le_refl _, h⟩, h, Nat.le_refl _⟩
  | succ k ih =>
      rw [cutBlocks]
      by_cases hsame : first / blockSize (k + 1) = last / blockSize (k + 1)
      · simp only [if_pos hsame]
        exact ih h
      · have hlater : first / blockSize (k + 1) < last / blockSize (k + 1) :=
          Nat.lt_of_le_of_ne (Nat.div_le_div_right h) hsame
        obtain ⟨hbegin, hstart, hwhole, hstop⟩ := block_bounds (blockSize_pos (k + 1)) hlater
        simp only [if_neg hsame]
        generalize (first + blockSize (k + 1) - 1) / blockSize (k + 1) * blockSize (k + 1) = start
          at hbegin hstart hwhole ⊢
        generalize (last + 1) / blockSize (k + 1) * blockSize (k + 1) = stop at hwhole hstop ⊢
        by_cases hcut : first < start
        · obtain ⟨piece, hpiece, ⟨h₁, h₂⟩, h₃, h₄⟩ := ih (Nat.le_sub_one_of_lt hcut)
          refine ⟨piece, ?_, ⟨h₁, by omega⟩, h₃, by omega⟩
          rw [if_pos hcut]
          exact List.mem_append_left _ (List.mem_append_left _ hpiece)
        · -- The interval begins with a whole block.
          have hlt : start < stop := hwhole (Nat.not_lt.1 hcut)
          refine ⟨(start, stop - 1), ?_, ⟨hbegin, hstart⟩, by omega, by omega⟩
          rw [if_pos hlt]
          exact List.mem_append_left _ (List.mem_append_right _ (List.mem_singleton_self _))

theorem length_productBetween {row : Nat × Nat × Nat} (hrow : row ∈ encodingLengths)
    {first last : Nat} (hfirst : row.1 ≤ first ∧ first ≤ row.2.1)
    (hlast : row.1 ≤ last ∧ last ≤ row.2.1) :
    (productBetween first last).length = row.2.2 + 1 := by
  rw [productBetween, List.length_zipWith, String.length_utf8EncodeChar,
    String.length_utf8EncodeChar, utf8Size_of_row hrow hfirst.1 hfirst.2,
    utf8Size_of_row hrow hlast.1 hlast.2, Nat.min_self]

/-- A set has a product of the length of the encoding of each of its characters. -/
theorem Charset.exists_mem_byteStrings {s : Charset} {i : Interval} (hi : i ∈ s.intervals) {c : Char}
    (hc : i.first.toNat ≤ c.toNat ∧ c.toNat ≤ i.last.toNat) :
    ∃ p ∈ s.byteStrings, p.length = c.utf8Size := by
  obtain ⟨row, hrow, hlow, hhigh⟩ := exists_row c
  have hle : Nat.max row.1 i.first.toNat ≤ Nat.min row.2.1 i.last.toNat :=
    Nat.le_trans (Nat.max_le.2 ⟨hlow, hc.1⟩) (Nat.le_min.2 ⟨hhigh, hc.2⟩)
  obtain ⟨piece, hpiece, ⟨h₁, h₂⟩, h₃, h₄⟩ := exists_mem_cutBlocks row.2.2 hle
  refine ⟨productBetween piece.1 piece.2, ?_, ?_⟩
  · refine List.mem_flatMap.2 ⟨i, hi, List.mem_flatMap.2 ⟨row, hrow, ?_⟩⟩
    simp only [if_pos hle]
    exact List.mem_map_of_mem hpiece
  · have hleft : row.1 ≤ Nat.max row.1 i.first.toNat := Nat.le_max_left _ _
    have hright : Nat.min row.2.1 i.last.toNat ≤ row.2.1 := Nat.min_le_left _ _
    calc (productBetween piece.1 piece.2).length
        = row.2.2 + 1 := length_productBetween hrow
          ⟨Nat.le_trans hleft h₁, Nat.le_trans h₂ hright⟩
          ⟨Nat.le_trans hleft h₃, Nat.le_trans h₄ hright⟩
      _ = (Char.ofNat c.toNat).utf8Size := (utf8Size_of_row hrow hlow hhigh).symm
      _ = c.utf8Size := by rw [Char.ofNat_toNat]

namespace Charset

/-! ## Reading backwards -/

theorem sharedStart_le (before p : ByteProduct) : sharedStart before p ≤ before.length :=
  calc sharedStart before p
      ≤ (before.zip p).length := (List.takeWhile_prefix _).length_le
    _ ≤ before.length := by
      rw [List.length_zip]
      exact Nat.min_le_left _ _

/-- The places of a list of products reach as far as each of them. -/
theorem length_le_placesAfter {p : ByteProduct} {products : List ByteProduct} (h : p ∈ products)
    (before : ByteProduct) : p.length ≤ before.length + placesAfter before products := by
  induction products generalizing before with
  | nil => cases h
  | cons q more ih =>
      have hshared : sharedStart before q ≤ before.length := sharedStart_le before q
      rw [placesAfter]
      rcases List.mem_cons.1 h with rfl | h
      · omega
      · have hmore : p.length ≤ q.length + placesAfter q more := ih h q
        omega

theorem length_le_backwardSize {s : Charset} {p : ByteProduct} (h : p ∈ s.byteStrings) :
    32 * p.length ≤ s.backwardSize := by
  have hplaces : p.length ≤ placesAfter [] s.byteStrings := by
    simpa using length_le_placesAfter h []
  simp only [backwardSize]
  omega

/-! ## Reading forwards -/

/-- The states lead only to states with lower numbers. The number of a state is the number of the
states from it on to the end of the list. -/
def Grounded : States → Prop
  | [] => True
  | transitions :: older => (∀ x ∈ transitions, x.2 ≤ older.length) ∧ Grounded older

theorem Grounded.lt_of_getElem? {states : States} (h : Grounded states) {k : Nat}
    {transitions : List (ByteInterval × Nat)} (hk : states[k]? = some transitions) :
    ∀ x ∈ transitions, x.2 < states.length - k := by
  induction states generalizing k with
  | nil => cases hk
  | cons t older ih =>
      obtain ⟨ht, holder⟩ := h
      cases k with
      | zero =>
          rw [List.getElem?_cons_zero, Option.some.injEq] at hk
          subst hk
          exact fun x hx => Nat.lt_succ_of_le (ht x hx)
      | succ k =>
          rw [List.getElem?_cons_succ] at hk
          rw [List.length_cons, Nat.add_sub_add_right]
          exact ih holder hk

/-- A state with given transitions has a higher number than all states to which they lead. -/
theorem States.number_spec {states : States} (h : Grounded states)
    {transitions : List (ByteInterval × Nat)} (htargets : ∀ x ∈ transitions, x.2 ≤ states.length) :
    Grounded (states.number transitions).2 ∧
      states.length ≤ (states.number transitions).2.length ∧
      (states.number transitions).1 ≤ (states.number transitions).2.length ∧
      ∀ x ∈ transitions, x.2 < (states.number transitions).1 := by
  rw [States.number]
  split
  · next k hk =>
      -- There is such a state already.
      obtain ⟨hlt, hfound, -⟩ := List.findIdx?_eq_some_iff_getElem.1 hk
      have hget : states[k]? = some transitions := by
        rw [List.getElem?_eq_getElem hlt]
        simpa using hfound
      exact ⟨h, Nat.le_refl _, Nat.sub_le _ _, h.lt_of_getElem? hget⟩
  · exact ⟨⟨htargets, h⟩, Nat.le_succ _, Nat.le_refl _,
      fun x hx => Nat.lt_succ_of_le (htargets x hx)⟩

/-- What one group of products that begin with the same interval adds to the transitions found so
far and to the states. -/
def addGroup (length : Nat) (sofar : List (ByteInterval × Nat) × States)
    (group : List ByteProduct) : List (ByteInterval × Nat) × States :=
  match group with
  | (i :: _) :: _ =>
      let rests := (group.map List.tail).filter fun p => !p.isEmpty
      let target := if rests.isEmpty then (0, sofar.2) else stateOf length rests sofar.2
      (sofar.1 ++ [(i, target.1)], target.2)
  | _ => sofar

theorem stateOf_succ (length : Nat) (products : List ByteProduct) (states : States) :
    stateOf (length + 1) products states =
      States.number
        ((products.splitBy fun p q => p.head? = q.head?).foldl (addGroup length) ([], states)).2
        ((products.splitBy fun p q => p.head? = q.head?).foldl (addGroup length) ([], states)).1 := by
  rfl

/-- The states of a machine after some products have been read into it: it has kept its older
states, and the number of the state that reads the products is as high as they are long. -/
structure ReadsProducts (before : States) (length : Nat) (products : List ByteProduct)
    (result : Nat × States) : Prop where
  grounded : Grounded result.2
  keeps : before.length ≤ result.2.length
  number_le : result.1 ≤ result.2.length
  length_le : ∀ p ∈ products, p.length ≤ length → p.length ≤ result.1

/-- The transitions and states after some of the products have been gone through. -/
structure Collects (before : States) (length : Nat) (done : List ByteProduct)
    (sofar : List (ByteInterval × Nat) × States) : Prop where
  grounded : Grounded sofar.2
  keeps : before.length ≤ sofar.2.length
  targets : ∀ x ∈ sofar.1, x.2 ≤ sofar.2.length
  length_le : ∀ p ∈ done, p ≠ [] → p.length ≤ length + 1 → ∃ x ∈ sofar.1, p.length ≤ x.2 + 1

theorem head?_eq_of_mem_splitBy {products group : List ByteProduct}
    (h : group ∈ products.splitBy fun p q => p.head? = q.head?) :
    group.Pairwise fun p q => p.head? = q.head? := by
  have hchain := List.isChain_of_mem_splitBy h
  simp only [decide_eq_true_eq] at hchain
  exact hchain.pairwise

section

variable {before : States} {length : Nat} {done : List ByteProduct}
  {sofar : List (ByteInterval × Nat) × States}

theorem Collects.addGroup {group : List ByteProduct} (h : Collects before length done sofar)
    (hgroup : group.Pairwise fun p q => p.head? = q.head?)
    (hstates : ∀ products {states}, Grounded states →
      ReadsProducts states length products (stateOf length products states)) :
    Collects before length (done ++ group) (Charset.addGroup length sofar group) := by
  match group, hgroup with
  | [], _ =>
      rw [List.append_nil]
      exact h
  | [] :: more, hgroup =>
      -- All products of such a group are empty.
      refine ⟨h.grounded, h.keeps, h.targets, fun p hp hne hle => ?_⟩
      rcases List.mem_append.1 hp with hp | hp
      · exact h.length_le p hp hne hle
      · rcases List.mem_cons.1 hp with rfl | hp
        · exact absurd rfl hne
        · exact absurd (List.head?_eq_none_iff.1 (List.rel_of_pairwise_cons hgroup hp).symm) hne
  | (i :: first) :: more, hgroup =>
      set rests := (((i :: first) :: more).map List.tail).filter fun p => !p.isEmpty with hrests
      set target := if rests.isEmpty then (0, sofar.2) else stateOf length rests sofar.2
        with htarget
      have hreads : ReadsProducts sofar.2 length rests target := by
        by_cases hempty : rests.isEmpty = true
        · rw [htarget, if_pos hempty, List.isEmpty_iff.1 hempty]
          exact ⟨h.grounded, Nat.le_refl _, Nat.zero_le _, fun p hp => absurd hp List.not_mem_nil⟩
        · rw [htarget, if_neg hempty]
          exact hstates rests h.grounded
      have hadd : Charset.addGroup length sofar ((i :: first) :: more)
          = (sofar.1 ++ [(i, target.1)], target.2) := rfl
      rw [hadd]
      refine ⟨hreads.grounded, Nat.le_trans h.keeps hreads.keeps, ?_, fun p hp hne hle => ?_⟩
      · intro x hx
        rcases List.mem_append.1 hx with hx | hx
        · exact Nat.le_trans (h.targets x hx) hreads.keeps
        · rw [List.mem_singleton.1 hx]
          exact hreads.number_le
      · rcases List.mem_append.1 hp with hp | hp
        · obtain ⟨x, hx, hlength⟩ := h.length_le p hp hne hle
          exact ⟨x, List.mem_append_left _ hx, hlength⟩
        · -- What follows the first interval of the product is read by the target.
          refine ⟨(i, target.1), List.mem_append_right _ (List.mem_singleton_self _), ?_⟩
          have htail : p.tail.length ≤ target.1 := by
            by_cases htail : p.tail = []
            · rw [htail]
              exact Nat.zero_le _
            · apply hreads.length_le
              · rw [hrests, List.mem_filter]
                exact ⟨List.mem_map_of_mem hp, by simpa using htail⟩
              · rw [List.length_tail]
                omega
          rw [List.length_tail] at htail
          omega

theorem Collects.foldl {groups : List (List ByteProduct)} (h : Collects before length done sofar)
    (hgroups : ∀ group ∈ groups, group.Pairwise fun p q => p.head? = q.head?)
    (hstates : ∀ products {states}, Grounded states →
      ReadsProducts states length products (stateOf length products states)) :
    Collects before length (done ++ groups.flatten)
      (groups.foldl (Charset.addGroup length) sofar) := by
  induction groups generalizing done sofar with
  | nil =>
      rw [List.flatten_nil, List.append_nil]
      exact h
  | cons group more ih =>
      rw [List.flatten_cons, ← List.append_assoc, List.foldl_cons]
      exact ih (h.addGroup (hgroups group List.mem_cons_self) hstates)
        fun g hg => hgroups g (List.mem_cons_of_mem group hg)

end

/-- **A state that reads products has a number as high as they are long.** -/
theorem stateOf_spec (length : Nat) (products : List ByteProduct) {states : States}
    (h : Grounded states) :
    ReadsProducts states length products (stateOf length products states) := by
  induction length generalizing products states with
  | zero => exact ⟨h, Nat.le_refl _, Nat.zero_le _, fun p _ hp => hp⟩
  | succ length ih =>
      have hnone : Collects states length [] ([], states) :=
        ⟨h, Nat.le_refl _, fun x hx => absurd hx List.not_mem_nil,
          fun p hp => absurd hp List.not_mem_nil⟩
      have hgroups : ∀ group ∈ products.splitBy fun p q => p.head? = q.head?,
          group.Pairwise fun p q => p.head? = q.head? := fun _ => head?_eq_of_mem_splitBy
      have hall := hnone.foldl hgroups ih
      rw [List.nil_append, List.flatten_splitBy] at hall
      rw [stateOf_succ]
      obtain ⟨hgrounded, hkeeps, hnumber, htargets⟩ := States.number_spec hall.grounded hall.targets
      refine ⟨hgrounded, Nat.le_trans hall.keeps hkeeps, hnumber, fun p hp hle => ?_⟩
      by_cases hne : p = []
      · rw [hne]
        exact Nat.zero_le _
      · obtain ⟨x, hx, hlength⟩ := hall.length_le p hp hne hle
        exact Nat.le_trans hlength (htargets x hx)

theorem foldl_stateSize (states : States) (n : Nat) :
    n + 32 * states.length ≤ states.foldl (fun n t => n + 32 + 8 * t.length) n := by
  induction states generalizing n with
  | nil => exact Nat.le_refl _
  | cons t older ih =>
      have holder := ih (n + 32 + 8 * t.length)
      rw [List.foldl_cons, List.length_cons]
      omega

theorem length_le_forwardSize {s : Charset} {p : ByteProduct} (h : p ∈ s.byteStrings)
    (hlength : p.length ≤ 4) : 32 * p.length ≤ s.forwardSize := by
  have hreads : ReadsProducts [] 4 s.byteStrings (stateOf 4 s.byteStrings []) :=
    stateOf_spec 4 s.byteStrings trivial
  have hstates : p.length ≤ (stateOf 4 s.byteStrings []).2.length :=
    Nat.le_trans (hreads.length_le p h hlength) hreads.number_le
  have hsize := foldl_stateSize (stateOf 4 s.byteStrings []).2 32
  rw [forwardSize]
  omega

/-! ## Both directions -/

/-- **A set takes at least as much room as any of its characters.** -/
theorem utf8Size_le_machineSize {s : Charset} {i : Interval} (hi : i ∈ s.intervals) {c : Char}
    (hfirst : i.first ≤ c) (hlast : c ≤ i.last) (backward : Bool) :
    32 * c.utf8Size ≤ s.machineSize backward := by
  have hc : i.first.toNat ≤ c.toNat ∧ c.toNat ≤ i.last.toNat :=
    ⟨UInt32.le_iff_toNat_le.1 hfirst, UInt32.le_iff_toNat_le.1 hlast⟩
  obtain ⟨p, hp, hlength⟩ := exists_mem_byteStrings hi hc
  rw [machineSize]
  by_cases hascii : s.isAscii = true
  · have hlast : i.last.toNat < 0x80 := of_decide_eq_true (List.all_eq_true.1 hascii i hi)
    rw [if_pos hascii, utf8Size_eq, if_pos (by omega)]
    omega
  · rw [if_neg hascii, ← hlength]
    cases backward with
    | true => exact length_le_backwardSize hp
    | false => exact length_le_forwardSize hp (hlength ▸ c.utf8Size_le_four)

end Charset

end Phrasebook
