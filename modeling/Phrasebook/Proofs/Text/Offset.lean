import Phrasebook.Text.Utf8

/-!
# Positions and byte offsets

A position counts characters, a byte offset the bytes before it. Every character takes at least
one byte, so that both are in the same order (`byteOffset_le_iff`), and no byte offset of a position
cuts the encoding of a character (`isBoundary_byteOffset`).
-/

set_option autoImplicit false

namespace Phrasebook.Text

theorem foldl_utf8Size (t : Text) (n : Nat) :
    t.foldl (fun n c => n + c.utf8Size) n = n + byteLength t := by
  have key : ∀ (t : Text) (n k : Nat),
      t.foldl (fun n c => n + c.utf8Size) (n + k) = n + t.foldl (fun n c => n + c.utf8Size) k := by
    intro t
    induction t with
    | nil => exact fun _ _ => rfl
    | cons c rest ih =>
        intro n k
        rw [List.foldl_cons, List.foldl_cons, Nat.add_assoc]
        exact ih n (k + c.utf8Size)
  exact key t n 0

theorem byteLength_append (a b : Text) : byteLength (a ++ b) = byteLength a + byteLength b := by
  rw [byteLength, List.foldl_append, foldl_utf8Size]
  rfl

theorem length_le_byteLength (t : Text) : t.length ≤ byteLength t := by
  induction t with
  | nil => exact Nat.zero_le _
  | cons c rest ih =>
      have hone : byteLength [c] = c.utf8Size := Nat.zero_add _
      calc rest.length + 1
          ≤ byteLength rest + byteLength [c] := Nat.add_le_add ih (hone ▸ c.utf8Size_pos)
        _ = byteLength [c] + byteLength rest := Nat.add_comm _ _
        _ = byteLength (c :: rest) := (byteLength_append [c] rest).symm

/-- What stands between two positions, counted in bytes. -/
theorem byteOffset_add (t : Text) (i n : Nat) :
    byteOffset t (i + n) = byteOffset t i + byteLength ((t.drop i).take n) := by
  rw [byteOffset, List.take_add, byteLength_append]
  rfl

theorem byteOffset_lt {t : Text} {i j : Nat} (hij : i < j) (hj : j ≤ t.length) :
    byteOffset t i < byteOffset t j := by
  obtain ⟨n, rfl⟩ := Nat.exists_eq_add_of_lt hij
  have hbetween : 0 < byteLength ((t.drop i).take (n + 1)) := by
    calc 0 < ((t.drop i).take (n + 1)).length := by
          rw [List.length_take, List.length_drop]
          omega
      _ ≤ byteLength ((t.drop i).take (n + 1)) := length_le_byteLength _
  calc byteOffset t i
      < byteOffset t i + byteLength ((t.drop i).take (n + 1)) := Nat.lt_add_of_pos_right hbetween
    _ = byteOffset t (i + n + 1) := by rw [← byteOffset_add, Nat.add_assoc]

theorem byteOffset_le_iff {t : Text} {i j : Nat} (hi : i ≤ t.length) (hj : j ≤ t.length) :
    byteOffset t i ≤ byteOffset t j ↔ i ≤ j := by
  constructor
  · intro h
    rcases Nat.lt_or_ge j i with hji | hij
    · exact absurd (byteOffset_lt hji hi) (Nat.not_lt.2 h)
    · exact hij
  · intro h
    rcases Nat.lt_or_eq_of_le h with hij | rfl
    · exact Nat.le_of_lt (byteOffset_lt hij hj)
    · exact Nat.le_refl _

theorem byteOffset_lt_iff {t : Text} {i j : Nat} (hi : i ≤ t.length) (hj : j ≤ t.length) :
    byteOffset t i < byteOffset t j ↔ i < j := by
  rw [← Nat.not_le, ← Nat.not_le, byteOffset_le_iff hj hi]

theorem byteOffset_inj {t : Text} {i j : Nat} (hi : i ≤ t.length) (hj : j ≤ t.length) :
    byteOffset t i = byteOffset t j ↔ i = j := by
  rw [Nat.eq_iff_le_and_ge, Nat.eq_iff_le_and_ge, byteOffset_le_iff hi hj, byteOffset_le_iff hj hi]

/-! ## Boundaries -/

theorem length_encode (t : Text) : (encode t).length = byteLength t := by
  induction t with
  | nil => rfl
  | cons c rest ih =>
      have hone : byteLength [c] = c.utf8Size := Nat.zero_add _
      calc (encode (c :: rest)).length
          = (String.utf8EncodeChar c ++ encode rest).length := rfl
        _ = byteLength [c] + byteLength rest := by
            rw [List.length_append, String.length_utf8EncodeChar, ih, hone]
        _ = byteLength (c :: rest) := (byteLength_append [c] rest).symm

/-- A number of bytes at the start of an encoded text that encode the start of the text, so that no
encoding of a character is cut. -/
def IsBoundary (t : Text) (offset : Nat) : Prop :=
  ∃ before after, t = before ++ after ∧ (encode before).length = offset

theorem isBoundary_byteOffset (t : Text) (i : Nat) : IsBoundary t (byteOffset t i) :=
  ⟨t.take i, t.drop i, (List.take_append_drop i t).symm, length_encode (t.take i)⟩

end Phrasebook.Text
