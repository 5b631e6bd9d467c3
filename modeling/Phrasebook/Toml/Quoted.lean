import Phrasebook.Text.Basic

/-!
# Quoted strings of TOML

The four ways to write a string in TOML 1.1: basic strings in double quotes, in which a backslash
begins an escape, literal strings in single quotes, in which nothing does, and the multi-line form
of each, which three quotes enclose. `quoted?` reads a string at the start of a text and returns
its value with the text after it; `length_quoted?_lt` says that the text after it is shorter.
-/

set_option autoImplicit false

namespace Phrasebook.Toml

/-! ## Character classes -/

/-- The white space within a line: the space and the tab. -/
def isSpace (c : Char) : Bool := c == ' ' || c == '\t'

/-- The characters that may stand in a string or a comment as themselves: the tab and everything
that is no control character. -/
def isPlain (c : Char) : Bool := c == '\t' || (0x20 ≤ c.toNat && c.toNat != 0x7F)

/-- Whether a line break starts at `c` with `rest` after it: a line feed, or a carriage return
before a line feed. -/
def isBreak (c : Char) (rest : Text) : Bool :=
  c == '\n' || (c == '\r' && rest.head? == some '\n')

/-- Whether a string may hold `c` as itself when `rest` follows. Only a string of several lines
may hold a line break. -/
def mayStand (multi : Bool) (c : Char) (rest : Text) : Bool :=
  isPlain c || (multi && isBreak c rest)

/-! ## The end of a string -/

/-- The end of a string at the start of a text. A multi-line string ends with three quotes; up to
two more quotes right there still belong to its value and are returned with the text after them. -/
def closing? (quote : Char) (multi : Bool) (t : Text) : Option (Text × Text) :=
  let quotes := (t.takeWhile (· == quote)).length
  if multi then
    if quotes < 3 then none
    else
      let extra := min (quotes - 3) 2
      some (List.replicate extra quote, t.drop (3 + extra))
  else if quotes = 0 then none
  else some ([], t.drop 1)

/-! ## Literal strings -/

/-- The rest of a literal string and the text after it. -/
def literal? (multi : Bool) : Text → Option (Text × Text)
  | [] => none
  | c :: rest =>
      match closing? '\'' multi (c :: rest) with
      | some found => some found
      | none =>
          if mayStand multi c rest then
            (literal? multi rest).map fun found => (c :: found.1, found.2)
          else none

/-! ## Basic strings -/

/-- The character that an escape of one letter stands for. -/
def shortEscape? (c : Char) : Option Char :=
  [('b', '\x08'), ('t', '\t'), ('n', '\n'), ('f', '\x0c'), ('r', '\r'), ('e', '\x1b'),
   ('"', '"'), ('\\', '\\')].lookup c

/-- The number of hexadecimal digits that an escape takes after its letter. -/
def escapeDigits? (c : Char) : Option Nat := [('x', 2), ('u', 4), ('U', 8)].lookup c

/-- The value of a hexadecimal digit. -/
def hexDigit? (c : Char) : Option Nat :=
  if '0' ≤ c ∧ c ≤ '9' then some (c.toNat - '0'.toNat)
  else if 'a' ≤ c ∧ c ≤ 'f' then some (c.toNat - 'a'.toNat + 10)
  else if 'A' ≤ c ∧ c ≤ 'F' then some (c.toNat - 'A'.toNat + 10)
  else none

/-- Where the reader of a basic string stands. -/
inductive Place where
  /-- Between characters. -/
  | plain
  /-- After a backslash. -/
  | escape
  /-- Inside a numeric escape that still needs `left + 1` digits. -/
  | digits (left value : Nat)
  /-- After a backslash that ends its line, before the line break. -/
  | lineEnd
  /-- After such a line break: white space and line breaks are dropped. -/
  | dropping
  deriving DecidableEq, Repr

/-- What a character after a backslash begins: a complete character, or a new place. -/
def afterBackslash? (multi : Bool) (c : Char) (rest : Text) : Option (Option Char × Place) :=
  match shortEscape? c, escapeDigits? c with
  | some d, _ => some (some d, .plain)
  | none, some n => some (none, .digits (n - 1) 0)
  | none, none =>
      if multi && isSpace c then some (none, .lineEnd)
      else if multi && isBreak c rest then some (none, if c = '\n' then .dropping else .lineEnd)
      else none

/-- What a digit completes: a character after the last one, if it has that code point. -/
def afterDigit? (left value : Nat) (c : Char) : Option (Option Char × Place) :=
  match hexDigit? c with
  | none => none
  | some d =>
      let n := value * 16 + d
      match left with
      | 0 => if n.isValidChar then some (some (Char.ofNat n), .plain) else none
      | left + 1 => some (none, .digits left n)

/-- One character of a basic string that does not end there: what it adds to the value, and the
place after it. -/
def basicStep? (multi : Bool) (place : Place) (c : Char) (rest : Text) :
    Option (Option Char × Place) :=
  match place with
  | .escape => afterBackslash? multi c rest
  | .digits left value => afterDigit? left value c
  | .lineEnd =>
      if isSpace c then some (none, .lineEnd)
      else if isBreak c rest then some (none, if c = '\n' then .dropping else .lineEnd)
      else none
  | .plain | .dropping =>
      if place = .dropping ∧ (isSpace c ∨ isBreak c rest) then some (none, .dropping)
      else if c = '\\' then some (none, .escape)
      else if mayStand multi c rest then some (some c, .plain)
      else none

/-- Whether a quote ends the string, which it does not inside an escape. -/
def Place.mayClose : Place → Bool
  | .plain | .dropping => true
  | _ => false

/-- The rest of a basic string and the text after it. -/
def basic? (multi : Bool) : Place → Text → Option (Text × Text)
  | _, [] => none
  | place, c :: rest =>
      match if place.mayClose then closing? '"' multi (c :: rest) else none with
      | some found => some found
      | none =>
          match basicStep? multi place c rest with
          | none => none
          | some (some d, next) =>
              (basic? multi next rest).map fun found => (d :: found.1, found.2)
          | some (none, next) => basic? multi next rest

/-! ## Strings -/

/-- A line break directly after the opening quotes of a multi-line string is dropped. -/
def dropBreak : Text → Text
  | '\n' :: rest => rest
  | '\r' :: '\n' :: rest => rest
  | t => t

/-- The string of one line at the start of a text, and the text after it. -/
def quotedLine? : Text → Option (Text × Text)
  | '"' :: rest => basic? false .plain rest
  | '\'' :: rest => literal? false rest
  | _ => none

/-- The string of any form at the start of a text, and the text after it. -/
def quoted? (t : Text) : Option (Text × Text) :=
  if "\"\"\"".toList.isPrefixOf t then basic? true .plain (dropBreak (t.drop 3))
  else if "'''".toList.isPrefixOf t then literal? true (dropBreak (t.drop 3))
  else quotedLine? t

/-! ## Strings take characters -/

theorem length_closing?_lt {quote : Char} {multi : Bool} {t value after : Text}
    (h : closing? quote multi t = some (value, after)) : after.length < t.length := by
  have hle : (t.takeWhile (· == quote)).length ≤ t.length :=
    (List.takeWhile_sublist _).length_le
  simp only [closing?] at h
  split at h
  · split at h
    · simp at h
    · simp only [Option.some.injEq, Prod.mk.injEq] at h
      rw [← h.2, List.length_drop]
      omega
  · split at h
    · simp at h
    · simp only [Option.some.injEq, Prod.mk.injEq] at h
      rw [← h.2, List.length_drop]
      omega

theorem length_literal?_lt {multi : Bool} {t value after : Text}
    (h : literal? multi t = some (value, after)) : after.length < t.length := by
  induction t generalizing value after with
  | nil => simp [literal?] at h
  | cons c rest ih =>
      simp only [literal?] at h
      split at h
      · next found hclose =>
          simp only [Option.some.injEq] at h
          exact length_closing?_lt (h ▸ hclose)
      · split at h
        · simp only [Option.map_eq_some_iff] at h
          obtain ⟨found, hfound, heq⟩ := h
          have hlt : found.2.length < rest.length := ih hfound
          simp only [Prod.mk.injEq] at heq
          rw [← heq.2]
          exact Nat.lt_succ_of_lt hlt
        · simp at h

theorem length_basic?_lt {multi : Bool} {place : Place} {t value after : Text}
    (h : basic? multi place t = some (value, after)) : after.length < t.length := by
  induction t generalizing place value after with
  | nil => simp [basic?] at h
  | cons c rest ih =>
      simp only [basic?] at h
      split at h
      · next found hclose =>
          split at hclose
          · simp only [Option.some.injEq] at h
            exact length_closing?_lt (h ▸ hclose)
          · simp at hclose
      · split at h
        · simp at h
        · simp only [Option.map_eq_some_iff] at h
          obtain ⟨found, hfound, heq⟩ := h
          have hlt : found.2.length < rest.length := ih hfound
          simp only [Prod.mk.injEq] at heq
          rw [← heq.2]
          exact Nat.lt_succ_of_lt hlt
        · exact Nat.lt_succ_of_lt (ih h)

theorem length_quotedLine?_lt {t value after : Text}
    (h : quotedLine? t = some (value, after)) : after.length < t.length := by
  unfold quotedLine? at h
  split at h
  · exact Nat.lt_succ_of_lt (length_basic?_lt h)
  · exact Nat.lt_succ_of_lt (length_literal?_lt h)
  · simp at h

theorem length_dropBreak_le (t : Text) : (dropBreak t).length ≤ t.length := by
  unfold dropBreak
  split
  · exact Nat.le_succ _
  · next rest => exact Nat.le_add_right rest.length 2
  · exact Nat.le_refl _

/-- The text after a string is shorter than the text that begins with the string. -/
theorem length_quoted?_lt {t value after : Text} (h : quoted? t = some (value, after)) :
    after.length < t.length := by
  have hbreak := length_dropBreak_le (t.drop 3)
  rw [List.length_drop] at hbreak
  simp only [quoted?] at h
  split at h
  · have := length_basic?_lt h
    omega
  · split at h
    · have := length_literal?_lt h
      omega
    · exact length_quotedLine?_lt h

end Phrasebook.Toml
