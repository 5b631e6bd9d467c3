import Phrasebook.Proofs.Rule.Literal

/-!
# What templates can express

Every mix of literal text and copies of the match has a template (`Template.fill_ofParts`), and
every template is read as such a mix, which does not depend on what is matched
(`Template.fill_of_decodes`). `Template.Decodes` says how templates are read, without the reader.
-/

set_option autoImplicit false

namespace Phrasebook.Template

/-! ## Writing -/

/-- The template of a part. A hole is written with braces, so that what follows it is not taken for
a part of its name. -/
def Part.template : Part → Text
  | .literal t => doubleDollars t
  | .hole => "$\x7b0\x7d".toList

/-- The template of a list of parts. -/
def ofParts (ps : List Part) : Text := ps.flatMap Part.template

theorem fill_hole_append (rest matched : Text) :
    fill (Part.hole.template ++ rest) matched = matched ++ fill rest matched := by
  show fill ('$' :: '\x7b' :: '0' :: '\x7d' :: rest) matched = _
  rw [fill_dollar]
  rfl

/-- **Every mix of literal text and copies of the match has a template.** -/
theorem fill_ofParts (ps : List Part) (matched : Text) :
    fill (ofParts ps) matched = ps.flatMap (Part.fill matched) := by
  induction ps with
  | nil => exact fill_nil matched
  | cons part ps ih =>
      rw [ofParts, List.flatMap_cons, List.flatMap_cons, ← ih]
      cases part with
      | literal t => exact fill_doubleDollars_append t (ofParts ps) matched
      | hole => exact fill_hole_append (ofParts ps) matched

/-! ## Names -/

/-- The numerals for zero, which may begin with a plus sign. -/
def NamesZero (name : Text) : Prop :=
  ∃ n, name = List.replicate (n + 1) '0' ∨ name = '+' :: List.replicate (n + 1) '0'

theorem all_zero_iff {t : Text} :
    (!t.isEmpty && t.all (· == '0')) = true ↔ ∃ n, t = List.replicate (n + 1) '0' := by
  constructor
  · intro h
    obtain ⟨hne, hall⟩ := Bool.and_eq_true_iff.1 h
    obtain ⟨n, hn⟩ := Nat.exists_eq_succ_of_ne_zero (n := t.length) (by simpa using hne)
    exact ⟨n, List.eq_replicate_iff.2 ⟨hn, by simpa using hall⟩⟩
  · rintro ⟨n, rfl⟩
    simp [List.replicate_succ]

theorem namesWholeMatch_iff {name : Text} : namesWholeMatch name = true ↔ NamesZero name := by
  unfold namesWholeMatch
  dsimp only
  split
  · next rest =>
      rw [all_zero_iff]
      simp [NamesZero, List.replicate_succ]
  · next hplus =>
      have hno : ∀ n, name ≠ '+' :: List.replicate (n + 1) '0' := fun n h => hplus _ h
      rw [all_zero_iff]
      simp only [NamesZero, hno, or_false]

/-- What a reference stands for: zero for the whole match, and every other name for nothing. -/
inductive Refers (name : Text) : Part → Prop where
  | whole (h : NamesZero name) : Refers name .hole
  | nothing (h : ¬ NamesZero name) : Refers name (.literal [])

theorem reference_eq_iff {name : Text} {part : Part} :
    reference name = part ↔ Refers name part := by
  rw [reference]
  split
  · next h =>
      rw [namesWholeMatch_iff] at h
      constructor
      · rintro rfl
        exact .whole h
      · rintro (_ | hno)
        · rfl
        · exact absurd h hno
  · next h =>
      rw [namesWholeMatch_iff] at h
      constructor
      · rintro rfl
        exact .nothing h
      · rintro (hzero | _)
        · exact absurd hzero h
        · rfl

/-! ## Dollar signs -/

/-- What a dollar sign means, given the text that follows it: a part, and the text after it that is
still to be read. -/
inductive DollarMeans : Text → Part → Text → Prop where
  /-- Two dollar signs are one. -/
  | doubled {rest : Text} : DollarMeans ('$' :: rest) (.literal ['$']) rest
  /-- A name in braces ends at the first closing brace. -/
  | braced {name rest : Text} {part : Part} (hname : '\x7d' ∉ name) (hpart : Refers name part) :
      DollarMeans ('\x7b' :: (name ++ '\x7d' :: rest)) part rest
  /-- A name without braces is as long as it can be. -/
  | named {name rest : Text} {part : Part} (hne : name ≠ [])
      (hname : ∀ c ∈ name, isNameCharacter c = true)
      (hrest : ∀ c ∈ rest.head?, isNameCharacter c = false) (hpart : Refers name part) :
      DollarMeans (name ++ rest) part rest
  /-- A dollar sign before a brace that is not closed is literal. -/
  | unclosed {rest : Text} (h : '\x7d' ∉ rest) :
      DollarMeans ('\x7b' :: rest) (.literal ['$']) ('\x7b' :: rest)
  /-- A dollar sign before anything else, and one at the end, is literal. -/
  | alone {t : Text} (h : ∀ c ∈ t.head?, c ≠ '$' ∧ c ≠ '\x7b' ∧ isNameCharacter c = false) :
      DollarMeans t (.literal ['$']) t

theorem dollarMeans_afterDollar (t : Text) : DollarMeans t (afterDollar t).1 (afterDollar t).2 := by
  fun_cases afterDollar t with
  | case1 rest => exact .doubled
  | case2 rest name later hsplit =>
      obtain ⟨rfl, hname⟩ := Text.splitFirst?_singleton_eq_some_iff.1 hsplit
      exact .braced hname (reference_eq_iff.1 rfl)
  | case3 rest hsplit => exact .unclosed (Text.splitFirst?_singleton_eq_none_iff.1 hsplit)
  | case4 t hdollar hbrace name hempty =>
      -- The name is empty, so that the first character, if there is one, begins nothing.
      refine .alone fun c hc => ?_
      obtain ⟨rest, rfl⟩ := List.head?_eq_some_iff.1 hc
      refine ⟨?_, ?_, ?_⟩
      · rintro rfl
        exact hdollar rest rfl
      · rintro rfl
        exact hbrace rest rfl
      · simpa [name, List.takeWhile_cons] using hempty
  | case5 t hdollar hbrace name hempty =>
      have hrest : ∀ c ∈ (t.dropWhile isNameCharacter).head?, isNameCharacter c = false := by
        intro c hc
        have hfirst := List.head?_dropWhile_not isNameCharacter t
        rw [hc] at hfirst
        simpa using hfirst
      have hnamed : DollarMeans (t.takeWhile isNameCharacter ++ t.dropWhile isNameCharacter)
          (reference name) (t.dropWhile isNameCharacter) :=
        .named (by simpa [name] using hempty) (List.all_eq_true.1 List.all_takeWhile) hrest
          (reference_eq_iff.1 rfl)
      rwa [List.takeWhile_append_dropWhile] at hnamed

/-- Text that begins neither with a dollar sign nor with an opening brace. -/
theorem afterDollar_of_head {t : Text} (h : ∀ c ∈ t.head?, c ≠ '$' ∧ c ≠ '\x7b') :
    afterDollar t = if (t.takeWhile isNameCharacter).isEmpty then (.literal ['$'], t)
      else (reference (t.takeWhile isNameCharacter), t.dropWhile isNameCharacter) := by
  fun_cases afterDollar t with
  | case1 rest => exact absurd rfl (h '$' rfl).1
  | case2 rest => exact absurd rfl (h '\x7b' rfl).2
  | case3 rest => exact absurd rfl (h '\x7b' rfl).2
  | case4 t _ _ name hempty => rw [if_pos hempty]
  | case5 t _ _ name hempty => rw [if_neg hempty]

theorem takeWhile_of_head {α : Type} {p : α → Bool} {l : List α}
    (h : ∀ a ∈ l.head?, p a = false) : l.takeWhile p = [] ∧ l.dropWhile p = l := by
  cases l with
  | nil => exact ⟨rfl, rfl⟩
  | cons a rest =>
      have ha : ¬ p a = true := by simp [h a rfl]
      exact ⟨List.takeWhile_cons_of_neg ha, List.dropWhile_cons_of_neg ha⟩

/-- **What a dollar sign means** is what the reader takes it for. -/
theorem afterDollar_eq_iff {t rest : Text} {part : Part} :
    afterDollar t = (part, rest) ↔ DollarMeans t part rest := by
  constructor
  · intro h
    have hmeans := dollarMeans_afterDollar t
    rwa [h] at hmeans
  · intro h
    cases h with
    | doubled => rfl
    | @braced name _ _ hname hpart =>
        have hsplit : Text.splitFirst? ['\x7d'] (name ++ '\x7d' :: rest) = some (name, rest) :=
          Text.splitFirst?_singleton_eq_some_iff.2 ⟨rfl, hname⟩
        simp only [afterDollar, hsplit, reference_eq_iff.2 hpart]
    | @named name _ _ hne hname hrest hpart =>
        obtain ⟨htake, hdrop⟩ := takeWhile_of_head hrest
        have hhead : ∀ c ∈ (name ++ rest).head?, c ≠ '$' ∧ c ≠ '\x7b' := by
          intro c hc
          rw [List.head?_append_of_ne_nil _ hne] at hc
          have hchar := hname c (List.mem_of_mem_head? hc)
          constructor
          · rintro rfl
            exact absurd hchar (by decide)
          · rintro rfl
            exact absurd hchar (by decide)
        rw [afterDollar_of_head hhead, List.takeWhile_append_of_pos hname,
          List.dropWhile_append_of_pos hname, htake, hdrop, List.append_nil, reference_eq_iff.2 hpart,
          if_neg (by simpa using hne)]
    | unclosed h =>
        simp only [afterDollar, Text.splitFirst?_singleton_eq_none_iff.2 h]
    | alone h =>
        have hname := takeWhile_of_head fun c hc => (h c hc).2.2
        rw [afterDollar_of_head fun c hc => ⟨(h c hc).1, (h c hc).2.1⟩, hname.1]
        rfl

/-! ## Whole templates -/

/-- How a template is read: literal text up to the first dollar sign, what that means, and so on with
the text that is left. -/
inductive Decodes : Text → List Part → Prop where
  /-- Text without a dollar sign is literal. -/
  | literal {t : Text} (h : '$' ∉ t) : Decodes t [.literal t]
  /-- A dollar sign and the text before it. -/
  | dollar {before t rest : Text} {part : Part} {ps : List Part} (hbefore : '$' ∉ before)
      (hpart : DollarMeans t part rest) (hrest : Decodes rest ps) :
      Decodes (before ++ '$' :: t) (.literal before :: part :: ps)

theorem fill_append_of_not_mem {before : Text} (h : '$' ∉ before) (rest matched : Text) :
    fill (before ++ rest) matched = before ++ fill rest matched := by
  induction before with
  | nil => rfl
  | cons c before ih =>
      rw [List.mem_cons, not_or] at h
      rw [List.cons_append, fill_cons (Ne.symm h.1), ih h.2, List.cons_append]

/-- **The matched text is never read.** The parts that a template is read as say what it is filled
to, whatever is matched. -/
theorem fill_of_decodes {template : Text} {ps : List Part} (h : Decodes template ps)
    (matched : Text) : fill template matched = ps.flatMap (Part.fill matched) := by
  induction h with
  | @literal t h =>
      have hfill := fill_append_of_not_mem h [] matched
      rw [List.append_nil, fill_nil] at hfill
      rw [hfill]
      rfl
  | dollar hbefore hpart _ ih =>
      rw [fill_append_of_not_mem hbefore, fill_dollar, afterDollar_eq_iff.2 hpart, ih]
      rfl

/-- Every template can be read. -/
theorem exists_decodes (template : Text) : ∃ ps, Decodes template ps := by
  -- A dollar sign takes as much of the text as it needs, so the induction is on the length.
  induction hlen : template.length using Nat.strongRecOn generalizing template with
  | ind n ih =>
      by_cases hmem : '$' ∈ template
      · obtain ⟨before, t, rfl, hbefore⟩ := List.eq_append_cons_of_mem hmem
        have hshorter : (afterDollar t).2.length < n := by
          have hle := length_afterDollar_le t
          rw [List.length_append, List.length_cons] at hlen
          omega
        obtain ⟨ps, hps⟩ := ih _ hshorter _ rfl
        exact ⟨_, .dollar hbefore (dollarMeans_afterDollar t) hps⟩
      · exact ⟨_, .literal hmem⟩

/-- A template can be read in one way only. -/
theorem Decodes.unique {template : Text} {ps ps' : List Part} (h : Decodes template ps)
    (h' : Decodes template ps') : ps' = ps := by
  induction h generalizing ps' with
  | literal h =>
      cases h' with
      | literal => rfl
      | dollar => exact absurd (List.mem_append_right _ List.mem_cons_self) h
  | @dollar before t rest part ps hbefore hpart _ ih =>
      generalize htemplate : before ++ '$' :: t = template at h'
      cases h' with
      | literal hno =>
          exact absurd (htemplate ▸ List.mem_append_right _ List.mem_cons_self) hno
      | @dollar before' t' rest' part' ps' hbefore' hpart' hrest' =>
          -- Both readings stop at the first dollar sign, and it means the same to both.
          obtain ⟨rfl, rfl⟩ := Text.append_cons_inj hbefore hbefore' htemplate
          have hmeans := (afterDollar_eq_iff.2 hpart).symm.trans (afterDollar_eq_iff.2 hpart')
          cases hmeans
          rw [ih hrest']

/-- **Templates express all mixes of literal text and copies of the match, and nothing else.** With
its dollar signs doubled and with its holes written in braces, every list of parts is a template that
is filled to the literal parts with the matched text in each hole. And every template is read in
exactly one way, as parts that say what it is filled to for every matched text; if there is no dollar
sign in it, then it is one literal part. -/
theorem templates_express_parts :
    (∀ ps matched, fill (ofParts ps) matched = ps.flatMap (Part.fill matched)) ∧
      ∀ template, ∃ ps, Decodes template ps ∧ (∀ ps', Decodes template ps' → ps' = ps) ∧
        (∀ matched, fill template matched = ps.flatMap (Part.fill matched)) ∧
        ('$' ∉ template → ps = [.literal template]) := by
  refine ⟨fill_ofParts, fun template => ?_⟩
  obtain ⟨ps, hps⟩ := exists_decodes template
  exact ⟨ps, hps, fun ps' h => hps.unique h, fill_of_decodes hps,
    fun h => (Decodes.literal h).unique hps⟩

/-- A dollar sign in front of a hole, and a zero, a brace and a reference that is not meant as one
after it. -/
theorem templates_express_parts_around_hole :
    ofParts [.literal "$".toList, .hole, .literal "0\x7d$0".toList]
        = "$$$\x7b0\x7d0\x7d$$0".toList ∧
      ∀ matched, fill "$$$\x7b0\x7d0\x7d$$0".toList matched
        = "$".toList ++ matched ++ "0\x7d$0".toList := by
  have hwritten : ofParts [.literal "$".toList, .hole, .literal "0\x7d$0".toList]
      = "$$$\x7b0\x7d0\x7d$$0".toList := by decide
  refine ⟨hwritten, fun matched => ?_⟩
  rw [← hwritten, templates_express_parts.1]
  simp [Part.fill]

end Phrasebook.Template
