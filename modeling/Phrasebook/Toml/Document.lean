import Phrasebook.Toml.Quoted

/-!
# Flat TOML documents

A flat document is a TOML 1.1 document in which every line is blank, a comment, or an assignment
of a string or a boolean to a key of one part. Documents with other values, with tables or with
dotted keys are refused, and so is a document that assigns to a key twice. `parse?` reads one.
-/

set_option autoImplicit false

namespace Phrasebook.Toml

/-- What a key is set to. -/
inductive Value where
  /-- A string. -/
  | text (t : Text)
  /-- A boolean. -/
  | flag (b : Bool)
  deriving DecidableEq, Repr

/-- The assignments of a document in order. -/
abbrev Document := List (Text × Value)

/-! ## The parts of a line -/

/-- The characters of a key that stands without quotes. -/
def isBareKeyCharacter (c : Char) : Bool := c.isAlphanum || c == '_' || c == '-'

/-- White space at the start of a text is dropped. -/
def skipSpace (t : Text) : Text := t.dropWhile isSpace

/-- The key at the start of a text, and the text after it. -/
def key? (t : Text) : Option (Text × Text) :=
  let bare := t.takeWhile isBareKeyCharacter
  if bare.isEmpty then quotedLine? t else some (bare, t.dropWhile isBareKeyCharacter)

/-- The text after `start`, if the text begins with it. -/
def after? (start t : Text) : Option Text :=
  if start.isPrefixOf t then some (t.drop start.length) else none

/-- The value at the start of a text, and the text after it. -/
def value? (t : Text) : Option (Value × Text) :=
  match after? "true".toList t with
  | some rest => some (.flag true, rest)
  | none =>
      match after? "false".toList t with
      | some rest => some (.flag false, rest)
      | none => (quoted? t).map fun found => (.text found.1, found.2)

/-- A comment at the start of a text is dropped. -/
def skipComment : Text → Text
  | '#' :: rest => rest.dropWhile isPlain
  | t => t

/-- The text after the end of a line, before which only white space and a comment may stand. -/
def endOfLine? (t : Text) : Option Text :=
  match skipComment (skipSpace t) with
  | [] => some []
  | '\n' :: rest => some rest
  | '\r' :: '\n' :: rest => some rest
  | _ => none

/-- The assignment at the start of a text, and the text after its value. -/
def assignment? (t : Text) : Option ((Text × Value) × Text) :=
  match key? t with
  | none => none
  | some (key, afterKey) =>
      match skipSpace afterKey with
      | '=' :: afterEquals =>
          (value? (skipSpace afterEquals)).map fun found => ((key, found.1), found.2)
      | _ => none

/-- The first line of a text, with its assignment if it has one, and the text after it. -/
def line? (t : Text) : Option (Option (Text × Value) × Text) :=
  match endOfLine? t with
  | some rest => some (none, rest)
  | none =>
      match assignment? (skipSpace t) with
      | none => none
      | some (found, afterValue) =>
          (endOfLine? afterValue).map fun rest => (some found, rest)

/-! ## Lines take characters -/

theorem length_skipSpace_le (t : Text) : (skipSpace t).length ≤ t.length :=
  (List.dropWhile_sublist _).length_le

theorem length_skipComment_le (t : Text) : (skipComment t).length ≤ t.length := by
  unfold skipComment
  split
  · next rest => exact Nat.le_succ_of_le (List.dropWhile_sublist _).length_le
  · exact Nat.le_refl _

theorem length_endOfLine?_lt {t rest : Text} (ht : t ≠ []) (h : endOfLine? t = some rest) :
    rest.length < t.length := by
  have hle := Nat.le_trans (length_skipComment_le (skipSpace t)) (length_skipSpace_le t)
  simp only [endOfLine?] at h
  split at h
  · cases h
    exact List.length_pos_iff.2 ht
  · next hfeed =>
      cases h
      rw [hfeed, List.length_cons] at hle
      exact hle
  · next hreturn =>
      cases h
      rw [hreturn, List.length_cons, List.length_cons] at hle
      omega
  · cases h

theorem length_endOfLine?_le {t rest : Text} (h : endOfLine? t = some rest) :
    rest.length ≤ t.length := by
  by_cases ht : t = []
  · subst ht
    cases h
    exact Nat.le_refl _
  · exact Nat.le_of_lt (length_endOfLine?_lt ht h)

theorem length_key?_lt {t key after : Text} (h : key? t = some (key, after)) :
    after.length < t.length := by
  simp only [key?] at h
  split at h
  · exact length_quotedLine?_lt h
  · next hbare =>
      have hsum : (t.takeWhile isBareKeyCharacter).length +
          (t.dropWhile isBareKeyCharacter).length = t.length := by
        rw [← List.length_append, List.takeWhile_append_dropWhile]
      have hpos : 0 < (t.takeWhile isBareKeyCharacter).length := by
        rw [List.length_pos_iff]
        simpa using hbare
      simp only [Option.some.injEq, Prod.mk.injEq] at h
      rw [← h.2]
      omega

theorem length_after?_le {start t rest : Text} (h : after? start t = some rest) :
    rest.length ≤ t.length := by
  simp only [after?] at h
  split at h
  · simp only [Option.some.injEq] at h
    rw [← h, List.length_drop]
    omega
  · simp at h

theorem length_value?_le {t rest : Text} {value : Value} (h : value? t = some (value, rest)) :
    rest.length ≤ t.length := by
  simp only [value?] at h
  split at h
  · next hafter =>
      simp only [Option.some.injEq, Prod.mk.injEq] at h
      exact h.2 ▸ length_after?_le hafter
  · split at h
    · next hafter =>
        simp only [Option.some.injEq, Prod.mk.injEq] at h
        exact h.2 ▸ length_after?_le hafter
    · simp only [Option.map_eq_some_iff] at h
      obtain ⟨found, hfound, heq⟩ := h
      have hlt : found.2.length < t.length := length_quoted?_lt hfound
      simp only [Prod.mk.injEq] at heq
      rw [← heq.2]
      exact Nat.le_of_lt hlt

theorem length_assignment?_lt {t rest : Text} {found : Text × Value}
    (h : assignment? t = some (found, rest)) : rest.length < t.length := by
  simp only [assignment?] at h
  split at h
  · simp at h
  · next key afterKey hkey =>
      split at h
      · next afterEquals hequals =>
          simp only [Option.map_eq_some_iff] at h
          obtain ⟨value, hvalue, heq⟩ := h
          have hle : value.2.length ≤ (skipSpace afterEquals).length := length_value?_le hvalue
          have hspace := length_skipSpace_le afterEquals
          have hspaceKey := length_skipSpace_le afterKey
          rw [hequals, List.length_cons] at hspaceKey
          have hlt := length_key?_lt hkey
          simp only [Prod.mk.injEq] at heq
          rw [← heq.2]
          omega
      · simp at h

/-- The text after a line is shorter than the text that begins with the line. -/
theorem length_line?_lt {t rest : Text} {found : Option (Text × Value)} (ht : t ≠ [])
    (h : line? t = some (found, rest)) : rest.length < t.length := by
  simp only [line?] at h
  split at h
  · next hend =>
      simp only [Option.some.injEq, Prod.mk.injEq] at h
      exact length_endOfLine?_lt ht (h.2 ▸ hend)
  · split at h
    · simp at h
    · next assigned afterValue hassign =>
        simp only [Option.map_eq_some_iff] at h
        obtain ⟨rest', hend, heq⟩ := h
        have hlt := length_assignment?_lt hassign
        have hle := length_endOfLine?_le hend
        have hspace := length_skipSpace_le t
        simp only [Prod.mk.injEq] at heq
        rw [← heq.2]
        omega

/-! ## Documents -/

/-- The assignments on the lines of a text. -/
def assignments? (t : Text) : Option Document :=
  if _ht : t = [] then some []
  else
    match _h : line? t with
    | none => none
    | some (found, rest) => (assignments? rest).map fun later => found.toList ++ later
  termination_by t.length
  decreasing_by exact length_line?_lt (by assumption) (by assumption)

/-- A byte order mark at the very start is dropped. -/
def dropByteOrderMark : Text → Text
  | c :: rest => if c = Char.ofNat 0xFEFF then rest else c :: rest
  | [] => []

/-- The assignments of a flat document, if no key is assigned twice. -/
def parse? (t : Text) : Option Document :=
  match assignments? (dropByteOrderMark t) with
  | none => none
  | some document => if (document.map Prod.fst).Nodup then some document else none

end Phrasebook.Toml
