import Phrasebook.Toml.Document

/-!
# Written documents

`Writes document t` says that the text `t` writes a flat document in the plainest form, one assignment
to a line: a key without quotes, an equals sign between two spaces, and a boolean or a basic string.
In such a string the quote and the backslash stand after a backslash, and a character may be written
by its number. Every document whose keys can stand without quotes can be written (`writes_spell`),
and whatever way it is written in, its assignments are read back in order (`assignments?_of_writes`).
-/

set_option autoImplicit false

namespace Phrasebook.Toml

/-! ## How a document is written -/

/-- The number that hexadecimal digits write after the number `n`. -/
def numeralAfter? (n : Nat) (digits : Text) : Option Nat :=
  digits.foldlM (fun n c => (hexDigit? c).map (n * 16 + ·)) n

/-- A way to write a character of a basic string. -/
inductive WritesChar : Char → Text → Prop where
  /-- As itself, which no control character but the tab can be. -/
  | plain {c : Char} (h : isPlain c = true) (hquote : c ≠ '"') (hbackslash : c ≠ '\\') :
      WritesChar c [c]
  /-- The quote after a backslash. -/
  | quote : WritesChar '"' ['\\', '"']
  /-- The backslash after a backslash. -/
  | backslash : WritesChar '\\' ['\\', '\\']
  /-- By four hexadecimal digits. -/
  | number {c : Char} {digits : Text} (hlength : digits.length = 4)
      (h : numeralAfter? 0 digits = some c.toNat) : WritesChar c ('\\' :: 'u' :: digits)

/-- A way to write the characters between the quotes of a basic string. -/
inductive WritesString : Text → Text → Prop where
  /-- The empty string. -/
  | nil : WritesString [] []
  /-- One character after the other. -/
  | cons {c : Char} {t w rest : Text} (hc : WritesChar c w) (ht : WritesString t rest) :
      WritesString (c :: t) (w ++ rest)

/-- A way to write a value. -/
inductive WritesValue : Value → Text → Prop where
  /-- A boolean that holds. -/
  | yes : WritesValue (.flag true) "true".toList
  /-- A boolean that does not hold. -/
  | no : WritesValue (.flag false) "false".toList
  /-- A basic string. -/
  | text {t w : Text} (h : WritesString t w) : WritesValue (.text t) ('"' :: (w ++ ['"']))

/-- The key can stand without quotes. -/
def IsBareKey (key : Text) : Prop := key ≠ [] ∧ ∀ c ∈ key, isBareKeyCharacter c = true

instance (key : Text) : Decidable (IsBareKey key) :=
  decidable_of_iff (key ≠ [] ∧ key.all isBareKeyCharacter = true)
    (and_congr Iff.rfl List.all_eq_true)

/-- A way to write an assignment. -/
inductive WritesEntry : Text × Value → Text → Prop where
  /-- The key and the value, with an equals sign between two spaces. -/
  | assignment {key w : Text} {value : Value} (hkey : IsBareKey key) (hvalue : WritesValue value w) :
      WritesEntry (key, value) (key ++ (" = ".toList ++ w))

/-- A way to write a document with one assignment to a line. The last line may be left without a
line break. -/
inductive Writes : Document → Text → Prop where
  /-- There is no assignment. -/
  | nil : Writes [] []
  /-- The last line has no line break. -/
  | last {entry : Text × Value} {line : Text} (h : WritesEntry entry line) : Writes [entry] line
  /-- A line with a line break, and all later lines. -/
  | cons {entry : Text × Value} {line lineBreak t : Text} {later : Document}
      (h : WritesEntry entry line) (hbreak : lineBreak ∈ ["\n".toList, "\r\n".toList])
      (hlater : Writes later t) : Writes (entry :: later) (line ++ (lineBreak ++ t))

/-! ## Every document can be written -/

/-- Four digits for a number below 256. -/
def fourDigits (n : Nat) : Text := ['0', '0', Nat.digitChar (n / 16), Nat.digitChar (n % 16)]

/-- A character of a basic string, by its number only if it cannot be written otherwise. -/
def spellChar (c : Char) : Text :=
  if c = '"' ∨ c = '\\' then ['\\', c]
  else if isPlain c then [c]
  else '\\' :: 'u' :: fourDigits c.toNat

/-- A value. -/
def spellValue : Value → Text
  | .flag true => "true".toList
  | .flag false => "false".toList
  | .text t => '"' :: (t.flatMap spellChar ++ ['"'])

/-- An assignment. -/
def spellEntry (entry : Text × Value) : Text := entry.1 ++ (" = ".toList ++ spellValue entry.2)

/-- A document, with a line feed after every line. -/
def spell (document : Document) : Text :=
  document.flatMap fun entry => spellEntry entry ++ "\n".toList

theorem numeralAfter?_fourDigits : ∀ n < 128, numeralAfter? 0 (fourDigits n) = some n := by decide

theorem writesChar_spellChar (c : Char) : WritesChar c (spellChar c) := by
  rw [spellChar]
  by_cases hescape : c = '"' ∨ c = '\\'
  · rw [if_pos hescape]
    obtain rfl | rfl := hescape
    · exact .quote
    · exact .backslash
  rw [if_neg hescape]
  rw [not_or] at hescape
  by_cases hplain : isPlain c = true
  · rw [if_pos hplain]
    exact .plain hplain hescape.1 hescape.2
  · -- The characters that are not plain are the control characters of ASCII.
    have hlt : c.toNat < 128 := by
      simp only [isPlain, Bool.or_eq_true, Bool.and_eq_true, decide_eq_true_eq, bne_iff_ne, not_or,
        not_and, Classical.not_not] at hplain
      omega
    rw [if_neg hplain]
    exact .number rfl (numeralAfter?_fourDigits _ hlt)

theorem writesString_spell (t : Text) : WritesString t (t.flatMap spellChar) := by
  induction t with
  | nil => exact .nil
  | cons c t ih => exact .cons (writesChar_spellChar c) ih

theorem writesValue_spellValue (value : Value) : WritesValue value (spellValue value) := by
  cases value with
  | text t => exact .text (writesString_spell t)
  | flag b =>
      cases b with
      | true => exact .yes
      | false => exact .no

theorem writesEntry_spellEntry {entry : Text × Value} (hkey : IsBareKey entry.1) :
    WritesEntry entry (spellEntry entry) :=
  .assignment hkey (writesValue_spellValue entry.2)

/-- **Every document can be written** whose keys can stand without quotes. -/
theorem writes_spell {document : Document} (hkeys : ∀ entry ∈ document, IsBareKey entry.1) :
    Writes document (spell document) := by
  induction document with
  | nil => exact .nil
  | cons entry later ih =>
      obtain ⟨hkey, hlater⟩ := List.forall_mem_cons.1 hkeys
      rw [spell, List.flatMap_cons, List.append_assoc]
      exact .cons (writesEntry_spellEntry hkey) List.mem_cons_self (ih hlater)

/-! ## Strings are read back -/

/-- What is read later, with the character before it that was read first, if it was complete. -/
def adding : Option Char → Text × Text → Text × Text
  | some c, later => (c :: later.1, later.2)
  | none, later => later

theorem closing?_of_ne {quote c : Char} (h : c ≠ quote) (rest : Text) :
    closing? quote false (c :: rest) = none := by
  simp [closing?, h]

/-- A character that does not end the string, and what it adds to the value. -/
theorem basic?_cons {place next : Place} {c : Char} {rest : Text} {added : Option Char}
    (hopen : place.mayClose = true → c ≠ '"')
    (hstep : basicStep? false place c rest = some (added, next)) :
    basic? false place (c :: rest) = (basic? false next rest).map (adding added) := by
  have hclose : (if place.mayClose then closing? '"' false (c :: rest) else none) = none := by
    by_cases hmay : place.mayClose = true
    · rw [if_pos hmay, closing?_of_ne (hopen hmay)]
    · rw [if_neg hmay]
  rw [basic?, hclose, hstep]
  cases added with
  | none => exact Option.map_id'.symm
  | some d => rfl

/-- A character that completes none leads to another place. -/
theorem basic?_move {place next : Place} {c : Char} {rest : Text}
    (hopen : place.mayClose = true → c ≠ '"')
    (hstep : basicStep? false place c rest = some (none, next)) :
    basic? false place (c :: rest) = basic? false next rest :=
  (basic?_cons hopen hstep).trans Option.map_id'

theorem basic?_digits {digits : Text} {left value n : Nat} (rest : Text)
    (hlength : digits.length = left + 1) (h : numeralAfter? value digits = some n)
    (hn : n.isValidChar) :
    basic? false (.digits left value) (digits ++ rest)
      = (basic? false .plain rest).map (adding (some (Char.ofNat n))) := by
  induction digits generalizing left value with
  | nil => simp at hlength
  | cons c digits ih =>
      rw [numeralAfter?, List.foldlM_cons] at h
      obtain ⟨next, hnext, hlater⟩ := Option.bind_eq_some_iff.1 h
      obtain ⟨d, hd, rfl⟩ := Option.map_eq_some_iff.1 hnext
      cases left with
      | zero =>
          -- The last digit completes the character.
          have hnil : digits = [] := List.eq_nil_of_length_eq_zero (by simpa using hlength)
          subst hnil
          cases hlater
          have hstep : basicStep? false (.digits 0 value) c rest
              = some (some (Char.ofNat (value * 16 + d)), .plain) := by
            simp [basicStep?, afterDigit?, hd, hn]
          exact basic?_cons (by simp [Place.mayClose]) hstep
      | succ left =>
          have hstep : basicStep? false (.digits (left + 1) value) c (digits ++ rest)
              = some (none, .digits left (value * 16 + d)) := by
            simp [basicStep?, afterDigit?, hd]
          calc basic? false (.digits (left + 1) value) (c :: digits ++ rest)
              = basic? false (.digits left (value * 16 + d)) (digits ++ rest) :=
                basic?_move (by simp [Place.mayClose]) hstep
            _ = (basic? false .plain rest).map (adding (some (Char.ofNat n))) :=
                ih (by simpa using hlength) hlater

theorem basic?_backslash (rest : Text) :
    basic? false .plain ('\\' :: rest) = basic? false .escape rest := by
  have hstep : basicStep? false .plain '\\' rest = some (none, .escape) := rfl
  exact basic?_move (fun _ => by decide) hstep

/-- **One character** is read back from the way it is written. -/
theorem basic?_of_writesChar {c : Char} {w : Text} (h : WritesChar c w) (rest : Text) :
    basic? false .plain (w ++ rest) = (basic? false .plain rest).map (adding (some c)) := by
  cases h with
  | plain hplain hquote hbackslash =>
      have hstep : basicStep? false .plain c rest = some (some c, .plain) := by
        simp [basicStep?, mayStand, hplain, hbackslash]
      exact basic?_cons (fun _ => hquote) hstep
  | quote =>
      have hstep : basicStep? false .escape '"' rest = some (some '"', .plain) := rfl
      exact (basic?_backslash _).trans (basic?_cons (by simp [Place.mayClose]) hstep)
  | backslash =>
      have hstep : basicStep? false .escape '\\' rest = some (some '\\', .plain) := rfl
      exact (basic?_backslash _).trans (basic?_cons (by simp [Place.mayClose]) hstep)
  | @number _ digits hlength hdigits =>
      have hstep : basicStep? false .escape 'u' (digits ++ rest) = some (none, .digits 3 0) := rfl
      calc basic? false .plain ('\\' :: 'u' :: digits ++ rest)
          = basic? false .escape ('u' :: (digits ++ rest)) := basic?_backslash _
        _ = basic? false (.digits 3 0) (digits ++ rest) :=
            basic?_move (by simp [Place.mayClose]) hstep
        _ = (basic? false .plain rest).map (adding (some (Char.ofNat c.toNat))) :=
            basic?_digits rest hlength hdigits c.valid
        _ = (basic? false .plain rest).map (adding (some c)) := by rw [Char.ofNat_toNat]

/-- **A whole string** is read back up to the quote that ends it. -/
theorem basic?_of_writesString {t w : Text} (h : WritesString t w) (rest : Text) :
    basic? false .plain (w ++ '"' :: rest) = some (t, rest) := by
  induction h with
  | nil => simp [basic?, Place.mayClose, closing?]
  | cons hc ht ih => rw [List.append_assoc, basic?_of_writesChar hc, ih]; rfl

theorem WritesChar.head?_ne {c : Char} {w : Text} (h : WritesChar c w) :
    ∃ d more, w = d :: more ∧ d ≠ '"' := by
  cases h with
  | plain hplain hquote hbackslash => exact ⟨c, [], rfl, hquote⟩
  | quote => exact ⟨_, _, rfl, by decide⟩
  | backslash => exact ⟨_, _, rfl, by decide⟩
  | number hlength hdigits => exact ⟨_, _, rfl, by decide⟩

/-- A string of one line is not taken for one of several lines. -/
theorem quoted?_of_writesString {t w rest : Text} (h : WritesString t w)
    (hrest : rest.head? ≠ some '"') : quoted? ('"' :: (w ++ '"' :: rest)) = some (t, rest) := by
  have hthree : "\"\"\"".toList.isPrefixOf ('"' :: (w ++ '"' :: rest)) = false := by
    cases h with
    | nil =>
        cases rest with
        | nil => rfl
        | cons d rest =>
            have hd : d ≠ '"' := by simpa using hrest
            simp [List.isPrefixOf, Ne.symm hd]
    | cons hc ht =>
        obtain ⟨d, more, rfl, hd⟩ := hc.head?_ne
        simp [List.isPrefixOf, Ne.symm hd]
  rw [quoted?, hthree]
  exact basic?_of_writesString h rest

/-! ## Lines are read back -/

theorem after?_append (start rest : Text) : after? start (start ++ rest) = some rest := by
  have hpre : start.isPrefixOf (start ++ rest) = true :=
    List.isPrefixOf_iff_prefix.2 (List.prefix_append start rest)
  rw [after?, if_pos hpre, List.drop_left]

theorem value?_of_writesValue {value : Value} {w rest : Text} (h : WritesValue value w)
    (hrest : rest.head? ≠ some '"') : value? (w ++ rest) = some (value, rest) := by
  cases h with
  | yes => rw [value?, after?_append]
  | no =>
      have htrue : after? "true".toList ("false".toList ++ rest) = none := rfl
      rw [value?, htrue, after?_append]
  | @text t w hw =>
      have htrue : after? "true".toList ('"' :: (w ++ ['"']) ++ rest) = none := rfl
      have hfalse : after? "false".toList ('"' :: (w ++ ['"']) ++ rest) = none := rfl
      have hread : quoted? ('"' :: (w ++ ['"']) ++ rest) = some (t, rest) := by
        simpa using quoted?_of_writesString hw hrest
      rw [value?, htrue, hfalse, hread]
      rfl

theorem key?_of_isBareKey {key : Text} (hkey : IsBareKey key) (rest : Text) :
    key? (key ++ ' ' :: rest) = some (key, ' ' :: rest) := by
  have htake : (key ++ ' ' :: rest).takeWhile isBareKeyCharacter = key := by
    rw [List.takeWhile_append_of_pos hkey.2, List.takeWhile_cons_of_neg (by decide), List.append_nil]
  have hdrop : (key ++ ' ' :: rest).dropWhile isBareKeyCharacter = ' ' :: rest := by
    rw [List.dropWhile_append_of_pos hkey.2, List.dropWhile_cons_of_neg (by decide)]
  have hne : key.isEmpty = false := by simpa using hkey.1
  simp only [key?, htake, hdrop, hne]
  rfl

theorem skipSpace_cons {c : Char} (h : isSpace c = false) (rest : Text) :
    skipSpace (c :: rest) = c :: rest :=
  List.dropWhile_cons_of_neg (by simp [h])

theorem WritesValue.skipSpace {value : Value} {w : Text} (h : WritesValue value w) (rest : Text) :
    Toml.skipSpace (w ++ rest) = w ++ rest := by
  cases h with
  | yes => exact skipSpace_cons (by decide) _
  | no => exact skipSpace_cons (by decide) _
  | text hw => exact skipSpace_cons (by decide) _

theorem assignment?_of_writesEntry {entry : Text × Value} {line rest : Text}
    (h : WritesEntry entry line) (hrest : rest.head? ≠ some '"') :
    assignment? (line ++ rest) = some (entry, rest) := by
  cases h with
  | @assignment key w value hkey hvalue =>
      have hline : key ++ (" = ".toList ++ w) ++ rest = key ++ ' ' :: '=' :: ' ' :: (w ++ rest) := by
        simp
      have hequals : skipSpace (' ' :: '=' :: ' ' :: (w ++ rest)) = '=' :: ' ' :: (w ++ rest) := rfl
      have hspace : skipSpace (' ' :: (w ++ rest)) = w ++ rest :=
        (List.dropWhile_cons_of_pos rfl).trans (hvalue.skipSpace rest)
      rw [hline, assignment?, key?_of_isBareKey hkey]
      simp only [hequals, hspace, value?_of_writesValue hvalue hrest]
      rfl

/-- The characters with which the end of a line can start. -/
def mayEnd (c : Char) : Bool := isSpace c || c == '#' || c == '\n' || c == '\r'

theorem endOfLine?_cons {c : Char} (h : mayEnd c = false) (rest : Text) :
    endOfLine? (c :: rest) = none := by
  simp only [mayEnd, Bool.or_eq_false_iff, beq_eq_false_iff_ne] at h
  obtain ⟨⟨⟨hspace, hcomment⟩, hfeed⟩, hreturn⟩ := h
  have hskip : skipComment (c :: rest) = c :: rest := by simp [skipComment, hcomment]
  rw [endOfLine?, skipSpace_cons hspace, hskip]
  simp [hfeed, hreturn]

theorem head?_ne_quote_of_endOfLine? {rest after : Text} (h : endOfLine? rest = some after) :
    rest.head? ≠ some '"' := by
  intro hquote
  obtain ⟨more, rfl⟩ := List.head?_eq_some_iff.1 hquote
  rw [endOfLine?_cons (by decide)] at h
  cases h

theorem not_mayEnd_of_bare {c : Char} (h : isBareKeyCharacter c = true) : mayEnd c = false := by
  rw [← Bool.not_eq_true]
  intro hend
  simp only [mayEnd, isSpace, Bool.or_eq_true, beq_iff_eq, or_assoc] at hend
  obtain rfl | rfl | rfl | rfl | rfl := hend
  all_goals revert h; decide

theorem WritesEntry.exists_bare {entry : Text × Value} {line : Text} (h : WritesEntry entry line) :
    ∃ c more, line = c :: more ∧ isBareKeyCharacter c = true := by
  cases h with
  | @assignment key w value hkey hvalue =>
      obtain ⟨c, more, rfl⟩ := List.exists_cons_of_ne_nil hkey.1
      exact ⟨c, more ++ (" = ".toList ++ w), rfl, hkey.2 c List.mem_cons_self⟩

theorem WritesEntry.ne_nil {entry : Text × Value} {line : Text} (h : WritesEntry entry line) :
    line ≠ [] := by
  obtain ⟨c, more, rfl, -⟩ := h.exists_bare
  exact List.cons_ne_nil c more

/-- **One line** is read back, if the text after its value ends the line. -/
theorem line?_of_writesEntry {entry : Text × Value} {line rest after : Text}
    (h : WritesEntry entry line) (hend : endOfLine? rest = some after) :
    line? (line ++ rest) = some (some entry, after) := by
  have hread := assignment?_of_writesEntry h (head?_ne_quote_of_endOfLine? hend)
  obtain ⟨c, more, rfl, hbare⟩ := h.exists_bare
  have hnot := not_mayEnd_of_bare hbare
  have hspace : isSpace c = false := by
    simp only [mayEnd, Bool.or_eq_false_iff] at hnot
    exact hnot.1.1.1
  have hskip : skipSpace (c :: more ++ rest) = c :: more ++ rest := skipSpace_cons hspace _
  have hmore : endOfLine? (c :: more ++ rest) = none := endOfLine?_cons hnot _
  rw [line?, hmore, hskip]
  simp only [hread, hend]
  rfl

/-! ## Documents are read back -/

theorem assignments?_of_line? {t rest : Text} {found : Option (Text × Value)} (ht : t ≠ [])
    (h : line? t = some (found, rest)) :
    assignments? t = (assignments? rest).map fun later => found.toList ++ later := by
  rw [assignments?, dif_neg ht]
  split
  · next hnone => simp [h] at hnone
  · next found' rest' hsome =>
      rw [h] at hsome
      cases hsome
      rfl

theorem endOfLine?_lineBreak {lineBreak : Text} (h : lineBreak ∈ ["\n".toList, "\r\n".toList])
    (t : Text) : endOfLine? (lineBreak ++ t) = some t := by
  simp only [List.mem_cons, List.not_mem_nil, or_false] at h
  obtain rfl | rfl := h
  · rfl
  · rfl

/-- **All lines** are read back in order. -/
theorem assignments?_of_writes {document : Document} {t : Text} (h : Writes document t) :
    assignments? t = some document := by
  induction h with
  | nil => rw [assignments?, dif_pos rfl]
  | @last entry line hentry =>
      have hend : endOfLine? [] = some [] := rfl
      have hline : line? line = some (some entry, []) := by
        rw [← line?_of_writesEntry hentry hend, List.append_nil]
      rw [assignments?_of_line? hentry.ne_nil hline, assignments?, dif_pos rfl]
      rfl
  | @cons entry line lineBreak t later hentry hbreak hlater ih =>
      have hline := line?_of_writesEntry hentry (endOfLine?_lineBreak hbreak t)
      rw [assignments?_of_line? (List.append_ne_nil_of_left_ne_nil hentry.ne_nil _) hline, ih]
      rfl

theorem dropByteOrderMark_of_writes {document : Document} {t : Text} (h : Writes document t) :
    dropByteOrderMark t = t := by
  have hbare : ∀ c rest, isBareKeyCharacter c = true → dropByteOrderMark (c :: rest) = c :: rest := by
    intro c rest hc
    refine if_neg ?_
    rintro rfl
    revert hc
    decide
  cases h with
  | nil => rfl
  | last hentry =>
      obtain ⟨c, more, rfl, hc⟩ := hentry.exists_bare
      exact hbare c more hc
  | cons hentry hbreak hlater =>
      obtain ⟨c, more, rfl, hc⟩ := hentry.exists_bare
      exact hbare c _ hc

/-- **A written document is read back**, unless it assigns to a key twice. -/
theorem parse?_of_writes {document : Document} {t : Text} (h : Writes document t) :
    parse? t = if (document.map Prod.fst).Nodup then some document else none := by
  rw [parse?, dropByteOrderMark_of_writes h, assignments?_of_writes h]

end Phrasebook.Toml
