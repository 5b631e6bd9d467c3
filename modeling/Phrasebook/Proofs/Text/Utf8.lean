import Phrasebook.Proofs.Text.Folding
import Phrasebook.Text.Utf8

/-!
# Reading bytes

Reading undoes writing (`decode?_encode`). And bytes can be read line by line, whether or not they
are UTF-8: the byte of a line feed ends every encoding that has begun and is a line feed by itself,
and no line feed comes from any other byte (`readByte_cases`). So what comes after a line feed is
read as if nothing were before it (`decodeLossy_append_lineFeed`).
-/

set_option autoImplicit false

namespace Phrasebook.Text

/-- Only its code point is read as the line feed: what is no scalar is read as the null character. -/
theorem ofNat_eq_lineFeed_iff (n : Nat) : Char.ofNat n = lineFeed ↔ n = lineFeed.toNat := by
  constructor
  · intro h
    by_cases hvalid : n.isValidChar
    · rw [← h, toNat_ofNat hvalid]
    · rw [Char.ofNat, dif_neg hvalid] at h
      exact absurd h (by decide)
  · rintro rfl
    rfl

/-! ## One byte -/

/-- The next byte is beyond ASCII, and so is every character that can come out. -/
structure Begun.BeyondAscii (s : Begun) : Prop where
  /-- The next byte is none of ASCII. -/
  low : 0x80 ≤ s.low
  /-- The bits after the next byte suffice, if there is one more byte to come. -/
  bits : 2 ≤ s.bits * 64 + (s.low - 0x80)
  /-- The bits after the next byte suffice, if it is the last one. -/
  last : s.owed = 0 → 0x80 ≤ s.bits * 64 + (s.low - 0x80)

/-- If an encoding has begun, it is one of a character beyond ASCII. -/
def Reading.Sound (r : Reading) : Prop := ∀ s ∈ r, s.BeyondAscii

theorem Reading.sound_none : Reading.Sound none := fun _ h => by cases h

/-- What a byte does that is none of ASCII: it yields no line feed, and it leaves a trace. -/
structure StaysInLine (step : List Decoded × Reading) : Prop where
  /-- Nothing that is complete by then is a line feed. -/
  noLineFeed : some lineFeed ∉ step.1
  /-- What has begun is an encoding of a character beyond ASCII. -/
  sound : Reading.Sound step.2
  /-- Something is complete or has begun. -/
  trace : step.1 = [] → step.2 ≠ none

theorem StaysInLine.begun {s : Begun} (hs : s.BeyondAscii) : StaysInLine ([], some s) where
  noLineFeed := List.not_mem_nil
  sound := by
    rintro s' ⟨⟩
    exact hs
  trace _ := Option.some_ne_none s

theorem StaysInLine.scalar {n : Nat} (hn : 0x80 ≤ n) :
    StaysInLine ([some (Char.ofNat n)], none) where
  noLineFeed h := by
    have hlineFeed : Char.ofNat n = lineFeed := (Option.some.inj (List.mem_singleton.1 h)).symm
    have heq : n = 10 := (ofNat_eq_lineFeed_iff n).1 hlineFeed
    omega
  sound := Reading.sound_none
  trace h := by cases h

theorem StaysInLine.malformed {step : List Decoded × Reading} (h : StaysInLine step) :
    StaysInLine (none :: step.1, step.2) where
  noLineFeed hmem := h.noLineFeed ((List.mem_cons.1 hmem).resolve_left (by simp))
  sound := h.sound
  trace hnil := by cases hnil

theorem readFirst_cases (b : Nat) :
    (b < 0x80 ∧ readFirst b = ([some (Char.ofNat b)], none)) ∨
      (0x80 ≤ b ∧ StaysInLine (readFirst b)) := by
  fun_cases readFirst b with
  | case1 hb => exact .inl ⟨by omega, rfl⟩
  | case2 | case3 | case4 | case5 | case6 | case7 | case8 =>
      -- Each kind of first byte with its own limits of the second.
      refine .inr ⟨by omega, .begun ⟨?_, ?_, ?_⟩⟩ <;> dsimp only <;> omega
  | case9 =>
      exact .inr ⟨by omega, by simp, Reading.sound_none, by simp⟩

/-- **One byte.** A byte of ASCII ends what has begun and stands for a character by itself; every
other byte stays in its line. -/
theorem readByte_cases {r : Reading} (hr : Reading.Sound r) (b : Nat) :
    (b < 0x80 ∧ readByte r b = (readEnd r ++ [some (Char.ofNat b)], none)) ∨
      (0x80 ≤ b ∧ StaysInLine (readByte r b)) := by
  fun_cases readByte r b with
  | case1 => exact readFirst_cases b
  | case2 s _ hin bits =>
      have howed : s.owed = 0 := by assumption
      obtain ⟨hlow, -, hlast⟩ := hr s rfl
      have hbits := hlast howed
      exact .inr ⟨by omega, .scalar (by omega)⟩
  | case3 s _ _ hin bits =>
      obtain ⟨hlow, hbits, -⟩ := hr s rfl
      refine .inr ⟨by omega, .begun ⟨?_, ?_, ?_⟩⟩ <;> dsimp only <;> omega
  | case4 s hout next =>
      obtain ⟨hb, hfirst⟩ | ⟨hb, hfirst⟩ := readFirst_cases b
      · refine .inl ⟨hb, ?_⟩
        show (none :: (readFirst b).1, (readFirst b).2) = _
        rw [hfirst]
        rfl
      · exact .inr ⟨hb, hfirst.malformed⟩

section

variable {r : Reading}

theorem sound_readByte (hr : Reading.Sound r) (b : Nat) : Reading.Sound (readByte r b).2 := by
  obtain ⟨-, hstep⟩ | ⟨-, hstep⟩ := readByte_cases hr b
  · rw [hstep]
    exact Reading.sound_none
  · exact hstep.sound

theorem readByte_lineFeed (hr : Reading.Sound r) :
    readByte r lineFeedByte.toNat = (readEnd r ++ [some lineFeed], none) := by
  obtain ⟨-, hstep⟩ | ⟨hb, -⟩ := readByte_cases hr lineFeedByte.toNat
  · exact hstep
  · exact absurd hb (by decide)

/-! ## Many bytes -/

theorem unitsFrom_append_lineFeed (hr : Reading.Sound r) (a b : Bytes) :
    unitsFrom r (a ++ lineFeedByte :: b) = unitsFrom r a ++ some lineFeed :: units b := by
  induction a generalizing r with
  | nil =>
      show (readByte r lineFeedByte.toNat).1 ++ unitsFrom (readByte r lineFeedByte.toNat).2 b = _
      rw [readByte_lineFeed hr, List.append_assoc]
      rfl
  | cons c rest ih =>
      show (readByte r c.toNat).1 ++ unitsFrom (readByte r c.toNat).2 (rest ++ _) = _
      rw [ih (sound_readByte hr c.toNat), ← List.append_assoc]
      rfl

theorem lineFeed_not_mem_unitsFrom (hr : Reading.Sound r) {a : Bytes} (ha : lineFeedByte ∉ a) :
    some lineFeed ∉ unitsFrom r a := by
  induction a generalizing r with
  | nil => cases r <;> simp [unitsFrom, readEnd]
  | cons c rest ih =>
      rw [List.mem_cons, not_or] at ha
      have hlater := ih (sound_readByte hr c.toNat) ha.2
      have hstep : some lineFeed ∉ (readByte r c.toNat).1 := by
        obtain ⟨-, hstep⟩ | ⟨-, hstep⟩ := readByte_cases hr c.toNat
        · -- A byte of ASCII is read as the character of its number.
          have hc : Char.ofNat c.toNat ≠ lineFeed := by
            rw [Ne, ofNat_eq_lineFeed_iff]
            exact fun h => ha.1 (UInt8.toNat_inj.1 h.symm)
          rw [hstep]
          cases r <;> simp [readEnd, hc.symm]
        · exact hstep.noLineFeed
      exact fun h => (List.mem_append.1 h).elim hstep hlater

/-- Bytes that are there leave a trace. -/
theorem unitsFrom_eq_nil (hr : Reading.Sound r) {a : Bytes} (h : unitsFrom r a = []) :
    r = none ∧ a = [] := by
  induction a generalizing r with
  | nil =>
      cases r with
      | none => exact ⟨rfl, rfl⟩
      | some s => cases h
  | cons c rest ih =>
      obtain ⟨hnow, hlater⟩ := List.append_eq_nil_iff.1 h
      have hnone : (readByte r c.toNat).2 = none := (ih (sound_readByte hr c.toNat) hlater).1
      obtain ⟨-, hstep⟩ | ⟨-, hstep⟩ := readByte_cases hr c.toNat
      · simp [hstep] at hnow
      · exact absurd hnone (hstep.trace hnow)

end

/-! ## Lossy reading -/

/-- **What comes after a line feed is read by itself**, and what comes before it too, whatever is
malformed on either side. -/
theorem decodeLossy_append_lineFeed (a b : Bytes) :
    decodeLossy (a ++ lineFeedByte :: b) = decodeLossy a ++ lineFeed :: decodeLossy b := by
  rw [decodeLossy, units, unitsFrom_append_lineFeed Reading.sound_none, List.map_append,
    List.map_cons]
  rfl

/-- **A line feed comes from no other byte.** -/
theorem lineFeed_not_mem_decodeLossy {a : Bytes} (ha : lineFeedByte ∉ a) :
    lineFeed ∉ decodeLossy a := by
  intro h
  obtain ⟨u, hu, heq⟩ := List.mem_map.1 h
  cases u with
  | none => exact absurd heq (by decide)
  | some c =>
      have hc : c = lineFeed := heq
      exact lineFeed_not_mem_unitsFrom Reading.sound_none ha (hc ▸ hu)

theorem decodeLossy_eq_nil_iff {a : Bytes} : decodeLossy a = [] ↔ a = [] := by
  constructor
  · intro h
    exact (unitsFrom_eq_nil Reading.sound_none (List.map_eq_nil_iff.1 h)).2
  · rintro rfl
    rfl

/-! ## Reading what was written -/

/-- A byte that follows the first one has six bits of its own. -/
theorem toNat_following {d : Nat} (hd : d < 64) : (UInt8.ofNat (d + 0x80)).toNat = d + 0x80 := by
  rw [UInt8.toNat_ofNat_of_lt' (show d + 0x80 < 256 by omega)]

theorem readFirst_two {b : Nat} (hb : 0xC2 ≤ b ∧ b ≤ 0xDF) :
    readFirst b = ([], some ⟨b - 0xC0, 0, 0x80, 0xBF⟩) := by
  rw [readFirst, if_neg (by omega), if_pos hb]

/-- The limits of the second byte keep out what two bytes can hold, and the surrogates. -/
theorem readFirst_three {b : Nat} (hb : 0xE0 ≤ b ∧ b ≤ 0xEF) :
    readFirst b = ([], some ⟨b - 0xE0, 1, if b = 0xE0 then 0xA0 else 0x80,
      if b = 0xED then 0x9F else 0xBF⟩) := by
  fun_cases readFirst b with
  | case3 _ _ hE0 => simp [hE0]
  | case4 _ _ _ hED => simp [hED]
  | case5 _ _ hE0 hED => rw [if_neg hE0, if_neg hED]
  | case1 | case2 | case6 | case7 | case8 | case9 => omega

/-- The limits of the second byte keep out what three bytes can hold, and what is no scalar. -/
theorem readFirst_four {b : Nat} (hb : 0xF0 ≤ b ∧ b ≤ 0xF4) :
    readFirst b = ([], some ⟨b - 0xF0, 2, if b = 0xF0 then 0x90 else 0x80,
      if b = 0xF4 then 0x8F else 0xBF⟩) := by
  fun_cases readFirst b with
  | case6 _ _ _ _ _ hF0 => simp [hF0]
  | case7 _ _ _ _ _ hF0 hin => rw [if_neg hF0, if_neg (by omega)]
  | case8 _ _ _ _ _ _ _ hF4 => simp [hF4]
  | case1 | case2 | case3 | case4 | case5 | case9 => omega

section

variable {bits owed low high d : Nat} {rest : Bytes}

theorem units_first {b : Nat} {s : Begun} (hb : b < 256) (h : readFirst b = ([], some s)) :
    units (UInt8.ofNat b :: rest) = unitsFrom (some s) rest := by
  rw [units, unitsFrom, UInt8.toNat_ofNat_of_lt' hb, readByte, h]
  rfl

theorem unitsFrom_following (hd : d < 64) (hlow : low ≤ d + 0x80) (hhigh : d + 0x80 ≤ high) :
    unitsFrom (some ⟨bits, owed + 1, low, high⟩) (UInt8.ofNat (d + 0x80) :: rest)
      = unitsFrom (some ⟨bits * 64 + d, owed, 0x80, 0xBF⟩) rest := by
  rw [unitsFrom, toNat_following hd, readByte, if_pos ⟨hlow, hhigh⟩, Nat.add_sub_cancel]
  rfl

theorem unitsFrom_last (hd : d < 64) (hlow : low ≤ d + 0x80) (hhigh : d + 0x80 ≤ high) :
    unitsFrom (some ⟨bits, 0, low, high⟩) (UInt8.ofNat (d + 0x80) :: rest)
      = some (Char.ofNat (bits * 64 + d)) :: units rest := by
  rw [unitsFrom, toNat_following hd, readByte, if_pos ⟨hlow, hhigh⟩, Nat.add_sub_cancel]
  rfl

end

/-- The bytes of a character are read as that character, whatever comes after them. -/
theorem units_encodeChar_append (c : Char) (rest : Bytes) :
    units (String.utf8EncodeChar c ++ rest) = some c :: units rest := by
  have hvalid : c.toNat < 0xD800 ∨ 0xDFFF < c.toNat ∧ c.toNat < 0x110000 := c.valid
  have hback : ∀ n, n = c.toNat → Char.ofNat n = c := by
    rintro n rfl
    exact Char.ofNat_toNat c
  unfold String.utf8EncodeChar
  rw [show c.val.toNat = c.toNat from rfl]
  dsimp only
  split
  case isTrue hone =>
    have hb : (UInt8.ofNat c.toNat).toNat = c.toNat :=
      UInt8.toNat_ofNat_of_lt' (show c.toNat < 256 by omega)
    show (readFirst (UInt8.ofNat c.toNat).toNat).1 ++
      unitsFrom (readFirst (UInt8.ofNat c.toNat).toNat).2 rest = _
    rw [hb, readFirst, if_pos hone, Char.ofNat_toNat]
    rfl
  case isFalse hone =>
    -- The bits of the code point are spread over the bytes and put together again.
    split
    case isTrue htwo =>
      rw [List.cons_append, List.cons_append, List.nil_append,
        units_first (by omega) (readFirst_two (by omega)),
        unitsFrom_last (by omega) (by omega) (by omega), hback _ (by omega)]
    case isFalse htwo =>
      split
      case isTrue hthree =>
        rw [List.cons_append, List.cons_append, List.cons_append, List.nil_append,
          units_first (by omega) (readFirst_three (by omega)),
          unitsFrom_following (by omega) (by split <;> omega) (by split <;> omega),
          unitsFrom_last (by omega) (by omega) (by omega), hback _ (by omega)]
      case isFalse hthree =>
        rw [List.cons_append, List.cons_append, List.cons_append, List.cons_append,
          List.nil_append, units_first (by omega) (readFirst_four (by omega)),
          unitsFrom_following (by omega) (by split <;> omega) (by split <;> omega),
          unitsFrom_following (by omega) (by omega) (by omega),
          unitsFrom_last (by omega) (by omega) (by omega), hback _ (by omega)]

theorem units_encode (t : Text) : units (encode t) = t.map some := by
  induction t with
  | nil => rfl
  | cons c rest ih =>
      show units (String.utf8EncodeChar c ++ encode rest) = _
      rw [units_encodeChar_append, ih]
      rfl

/-- **Reading undoes writing.** -/
theorem decode?_encode (t : Text) : decode? (encode t) = some t := by
  calc decode? (encode t)
      = (t.map some).mapM id := by rw [decode?, units_encode]
    _ = t.mapM some := List.mapM_map
    _ = some (t.map id) := List.mapM_pure
    _ = some t := by rw [List.map_id]

theorem decodeLossy_encode (t : Text) : decodeLossy (encode t) = t := by
  rw [decodeLossy, units_encode, List.map_map]
  exact List.map_id t

end Phrasebook.Text
