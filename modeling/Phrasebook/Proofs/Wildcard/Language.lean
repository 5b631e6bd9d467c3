import Phrasebook.Proofs.Wildcard.Greedy
import Phrasebook.Proofs.Wildcard.Reading

/-!
# The language of a wildcard

`Belongs` says, without any matching, which texts a wildcard stands for. Runs that take as much as
they can one after the other might end too early as a whole; they do not (`greedy_eq_some_iff`).
The reason is an exchange: if a match that starts further left ends further right, then some run
of it passes over a run of the later match, and the later match can go on from there
(`Matches.exchange`).
-/

set_option autoImplicit false

namespace Phrasebook.Wildcard

/-! ## Belonging -/

/-- Whether the character `x` of a wildcard stands for `c`: itself, or in the other mode every
character with the same representative under case folding. -/
def CaseMode.Agree : CaseMode → Char → Char → Prop
  | .sensitive, x, c => c = x
  | .insensitive, x, c => Text.foldCase c = Text.foldCase x

theorem CaseMode.agree_iff (mode : CaseMode) (x c : Char) :
    mode.Agree x c ↔ mode.key x = mode.key c := by
  cases mode with
  | sensitive => exact eq_comm
  | insensitive => exact eq_comm

theorem Token.accepts_lit_iff_agree (mode : CaseMode) (x c : Char) :
    (Token.lit x).accepts mode c = true ↔ mode.Agree x c :=
  (Token.accepts_lit mode x c).trans (mode.agree_iff x c).symm

/-- A text without line feeds. -/
def OneLine (t : Text) : Prop := ∀ c ∈ t, c ≠ Text.lineFeed

/-- The texts that a wildcard stands for, read from left to right. -/
inductive Belongs (mode : CaseMode) : (wildcard : Text) → Text → Prop where
  /-- Nothing stands for nothing. -/
  | done : Belongs mode [] []
  /-- A backslash at the end stands for nothing. -/
  | dangling : Belongs mode ['\\'] []
  /-- After a backslash any character stands for itself. -/
  | escaped {x c : Char} {w m : Text} (hx : mode.Agree x c) (hm : Belongs mode w m) :
      Belongs mode ('\\' :: x :: w) (c :: m)
  /-- A question mark stands for one character that is no line feed. -/
  | question {c : Char} {w m : Text} (hc : c ≠ Text.lineFeed) (hm : Belongs mode w m) :
      Belongs mode ('?' :: w) (c :: m)
  /-- A star stands for any number of characters that are no line feeds. -/
  | star {r w m : Text} (hr : OneLine r) (hm : Belongs mode w m) :
      Belongs mode ('*' :: w) (r ++ m)
  /-- Every other character stands for itself. -/
  | plain {x c : Char} {w m : Text} (hplain : IsPlain x) (hx : mode.Agree x c)
      (hm : Belongs mode w m) : Belongs mode (x :: w) (c :: m)

/-- The texts that a list of tokens stands for. -/
inductive Matches (mode : CaseMode) : List Token → Text → Prop where
  | nil : Matches mode [] []
  | single {tok : Token} {c : Char} {ts : List Token} {m : Text}
      (hc : tok.accepts mode c = true) (hm : Matches mode ts m) : Matches mode (tok :: ts) (c :: m)
  | run {r m : Text} {ts : List Token} (hr : OneLine r) (hm : Matches mode ts m) :
      Matches mode (.run :: ts) (r ++ m)

theorem Matches.of_belongs {mode : CaseMode} {w m : Text} (h : Belongs mode w m) :
    Matches mode (tokens w) m := by
  induction h with
  | done => exact .nil
  | dangling => exact .nil
  | escaped hx _ ih =>
      rw [tokens]
      exact .single ((Token.accepts_lit_iff_agree mode _ _).2 hx) ih
  | question hc _ ih =>
      rw [tokens]
      exact .single ((Token.accepts_one mode _).2 hc) ih
  | star hr _ ih =>
      rw [tokens]
      exact .run hr ih
  | plain hplain hx _ ih =>
      rw [tokens_plain hplain]
      exact .single ((Token.accepts_lit_iff_agree mode _ _).2 hx) ih

theorem Matches.single_inv {mode : CaseMode} {tok : Token} (htok : tok ≠ .run) {ts : List Token}
    {m : Text} (h : Matches mode (tok :: ts) m) :
    ∃ c rest, m = c :: rest ∧ tok.accepts mode c = true ∧ Matches mode ts rest := by
  cases h with
  | single hc hm => exact ⟨_, _, rfl, hc, hm⟩
  | run => exact absurd rfl htok

theorem Matches.run_inv {mode : CaseMode} {ts : List Token} {m : Text}
    (h : Matches mode (.run :: ts) m) :
    ∃ r rest, m = r ++ rest ∧ OneLine r ∧ Matches mode ts rest := by
  cases h with
  | single hc _ => cases hc
  | run hr hm => exact ⟨_, _, rfl, hr, hm⟩

theorem Matches.lit_inv {mode : CaseMode} {x : Char} {ts : List Token} {m : Text}
    (h : Matches mode (.lit x :: ts) m) :
    ∃ c rest, m = c :: rest ∧ mode.Agree x c ∧ Matches mode ts rest := by
  obtain ⟨c, rest, hm, hc, hrest⟩ := h.single_inv Token.noConfusion
  exact ⟨c, rest, hm, (Token.accepts_lit_iff_agree mode x c).1 hc, hrest⟩

theorem Matches.one_inv {mode : CaseMode} {ts : List Token} {m : Text}
    (h : Matches mode (.one :: ts) m) :
    ∃ c rest, m = c :: rest ∧ c ≠ Text.lineFeed ∧ Matches mode ts rest := by
  obtain ⟨c, rest, hm, hc, hrest⟩ := h.single_inv Token.noConfusion
  exact ⟨c, rest, hm, (Token.accepts_one mode c).1 hc, hrest⟩

theorem Belongs.of_matches {mode : CaseMode} {w m : Text} (h : Matches mode (tokens w) m) :
    Belongs mode w m := by
  induction w using wildcard_induction generalizing m with
  | nil =>
      cases h
      exact .done
  | dangling =>
      cases h
      exact .dangling
  | escaped x rest ih =>
      rw [tokens] at h
      obtain ⟨c, m', rfl, hx, hm⟩ := h.lit_inv
      exact .escaped hx (ih hm)
  | star rest ih =>
      rw [tokens] at h
      obtain ⟨r, m', rfl, hr, hm⟩ := h.run_inv
      exact .star hr (ih hm)
  | question rest ih =>
      rw [tokens] at h
      obtain ⟨c, m', rfl, hc, hm⟩ := h.one_inv
      exact .question hc (ih hm)
  | plain x rest hplain ih =>
      rw [tokens_plain hplain] at h
      obtain ⟨c, m', rfl, hx, hm⟩ := h.lit_inv
      exact .plain hplain hx (ih hm)

theorem belongs_iff_matches {mode : CaseMode} {w m : Text} :
    Belongs mode w m ↔ Matches mode (tokens w) m :=
  ⟨Matches.of_belongs, Belongs.of_matches⟩

/-! ## The exchange -/

/-- **The exchange.** A match `m'` at the start of `s` and a match `m` that starts `u` earlier: if
`m` ends further right, then there is also a match at the start of `s` that ends there. -/
theorem Matches.exchange {mode : CaseMode} {ts : List Token} {m m' u s : Text}
    (h : Matches mode ts m) (h' : Matches mode ts m') (hm : m <+: u ++ s) (hm' : m' <+: s) :
    ∃ n, n <+: s ∧ Matches mode ts n ∧ m.length ≤ u.length + n.length := by
  induction ts generalizing m m' u s with
  | nil =>
      cases h
      exact ⟨[], List.nil_prefix, .nil, Nat.zero_le _⟩
  | cons tok ts ih =>
      obtain ⟨z, hz⟩ := hm
      obtain ⟨z', rfl⟩ := hm'
      by_cases htok : tok = .run
      · subst htok
        obtain ⟨r, k, rfl, hr, hk⟩ := h.run_inv
        obtain ⟨r', k', rfl, hr', hk'⟩ := h'.run_inv
        have hsplit : r ++ (k ++ z) = (u ++ r') ++ (k' ++ z') := by simpa using hz
        rcases List.append_eq_append_iff.1 hsplit with ⟨v, hv, hkz⟩ | ⟨v, hv, hkz⟩
        · -- The first run ends before the second: exchange in what follows them.
          obtain ⟨n, hn, hmatch, hlen⟩ := ih hk hk' ⟨z, hkz⟩ ⟨z', rfl⟩
          refine ⟨r' ++ n, ?_, .run hr' hmatch, ?_⟩
          · rw [List.append_assoc]
            exact (List.prefix_append_right_inj r').2 hn
          · calc (r ++ k).length
                = r.length + k.length := List.length_append
              _ ≤ r.length + (v.length + n.length) := Nat.add_le_add_left hlen _
              _ = (r ++ v).length + n.length := by rw [List.length_append, Nat.add_assoc]
              _ = (u ++ r').length + n.length := by rw [hv]
              _ = u.length + (r' ++ n).length := by
                  rw [List.length_append, List.length_append, Nat.add_assoc]
        · -- The first run passes over the second: the second can be as long.
          have hone : OneLine (r' ++ v) := by
            intro c hc
            apply hr c
            rw [hv, List.append_assoc]
            exact List.mem_append_right u hc
          refine ⟨r' ++ v ++ k, ?_, .run hone hk, ?_⟩
          · exact ⟨z, by rw [List.append_assoc r' k' z', hkz]; simp⟩
          · rw [hv]
            simp only [List.length_append]
            omega
      · obtain ⟨c, k, rfl, hc, hk⟩ := h.single_inv htok
        obtain ⟨c', k', rfl, hc', hk'⟩ := h'.single_inv htok
        cases u with
        | nil =>
            -- Both matches start at the same place.
            exact ⟨c :: k, ⟨z, hz⟩, .single hc hk, Nat.le_add_left _ _⟩
        | cons x u =>
            -- Each match reads one character, and the second stays as far behind as it was.
            have hkz : k ++ z = (u ++ [c']) ++ (k' ++ z') := by
              have hcons : c :: (k ++ z) = x :: (u ++ c' :: (k' ++ z')) := hz
              rw [List.cons.injEq] at hcons
              rw [hcons.2]
              simp
            obtain ⟨n, hn, hmatch, hlen⟩ := ih hk hk' ⟨z, hkz⟩ ⟨z', rfl⟩
            refine ⟨c' :: n, (List.prefix_cons_inj c').2 hn, .single hc' hmatch, ?_⟩
            simp only [List.length_append, List.length_cons, List.length_nil] at hlen ⊢
            omega

/-! ## Greedy matches are longest matches -/

/-- `r` is the longest run at the start of `t` after which anything is found; `s` is what follows
it, and `m` is what is found there. -/
structure LongestRun (after : Text → Reach) (t r s : Text) (m : Nat) : Prop where
  split : t = r ++ s
  oneLine : OneLine r
  found : after s = some m
  longest : ∀ r' s', t = r' ++ s' → OneLine r' → after s' ≠ none → r'.length ≤ r.length

section

variable {after : Text → Reach} {c : Char} {rest r s : Text} {m : Nat}

/-- A run in front of a text that begins with `c` is empty, or `c` is its first character. -/
theorem OneLine.eq_nil_or_cons (hr : OneLine r) (h : c :: rest = r ++ s) :
    (r = [] ∧ s = c :: rest) ∨
      ∃ r', r = c :: r' ∧ rest = r' ++ s ∧ OneLine r' ∧ c ≠ Text.lineFeed := by
  cases r with
  | nil => exact Or.inl ⟨rfl, h.symm⟩
  | cons d r' =>
      rw [List.cons_append, List.cons.injEq] at h
      obtain ⟨rfl, hrest⟩ := h
      exact Or.inr ⟨r', rfl, hrest, fun x hx => hr x (List.mem_cons_of_mem c hx),
        hr c List.mem_cons_self⟩

theorem LongestRun.cons (hc : c ≠ Text.lineFeed) (h : LongestRun after rest r s m) :
    LongestRun after (c :: rest) (c :: r) s m where
  split := by rw [h.split, List.cons_append]
  oneLine := by
    intro x hx
    rcases List.mem_cons.1 hx with rfl | hx
    · exact hc
    · exact h.oneLine x hx
  found := h.found
  longest := by
    intro r' s' hsplit hr' hs'
    rcases hr'.eq_nil_or_cons hsplit with ⟨rfl, -⟩ | ⟨r'', rfl, hrest, hr'', -⟩
    · exact Nat.zero_le _
    · exact Nat.succ_le_succ (h.longest r'' s' hrest hr'' hs')

/-- If nothing is found after a longer run, then the empty run is the longest one. -/
theorem LongestRun.empty {t : Text} (hfound : after t = some m)
    (h : ∀ c rest r s, t = c :: rest → rest = r ++ s → OneLine r → c ≠ Text.lineFeed →
      after s = none) : LongestRun after t [] t m where
  split := rfl
  oneLine := List.forall_mem_nil _
  found := hfound
  longest := by
    intro r' s' hsplit hr' hs'
    cases t with
    | nil => exact Nat.le_of_eq (congrArg List.length (List.append_eq_nil_iff.1 hsplit.symm).1)
    | cons c rest =>
        rcases hr'.eq_nil_or_cons hsplit with ⟨rfl, -⟩ | ⟨r'', -, hrest, hr'', hc⟩
        · exact Nat.le_refl _
        · exact absurd (h c rest r'' s' rfl hrest hr'' hc) hs'

end

/-- What `greedyRun` finds: nothing, if what follows the run is nowhere found; or else the match
after the longest run at which it is found. -/
theorem greedyRun_spec (after : Text → Reach) (t : Text) :
    (greedyRun after t = none ∧ ∀ r s, t = r ++ s → OneLine r → after s = none) ∨
      ∃ r s m, LongestRun after t r s m ∧ greedyRun after t = some (r.length + m) := by
  induction t with
  | nil =>
      cases hfound : after [] with
      | none =>
          refine Or.inl ⟨hfound, fun r s hrs _ => ?_⟩
          rw [(List.append_eq_nil_iff.1 hrs.symm).2]
          exact hfound
      | some m =>
          refine Or.inr ⟨[], [], m, .empty hfound ?_, ?_⟩
          · intro c rest r s h
            cases h
          · rw [greedyRun, hfound, List.length_nil, Nat.zero_add]
  | cons c rest ih =>
      by_cases hgo : c ≠ Text.lineFeed ∧ greedyRun after rest ≠ none
      · -- The run goes on: its longest continuation is one character longer here.
        obtain ⟨hc, hne⟩ := hgo
        rcases ih with ⟨hnone, -⟩ | ⟨r, s, m, hrun, hvalue⟩
        · exact absurd hnone hne
        · refine Or.inr ⟨c :: r, s, m, hrun.cons hc, ?_⟩
          rw [greedyRun, hvalue, extendRun, if_neg hc, List.length_cons, Nat.add_right_comm]
      · -- The run stops in front of `c`, and nothing is found after a longer one.
        have hhere : greedyRun after (c :: rest) = after (c :: rest) := by
          rw [greedyRun]
          cases hnext : greedyRun after rest with
          | none => rfl
          | some n =>
              have hc : c = Text.lineFeed :=
                Decidable.of_not_not fun hc => hgo ⟨hc, by simp [hnext]⟩
              rw [extendRun, if_pos hc]
        have hlonger : ∀ r s, rest = r ++ s → OneLine r → c ≠ Text.lineFeed → after s = none := by
          intro r s hrs hr hc
          rcases ih with ⟨-, hfree⟩ | ⟨r₀, s₀, m₀, -, hvalue⟩
          · exact hfree r s hrs hr
          · exact absurd ⟨hc, by simp [hvalue]⟩ hgo
        cases hfound : after (c :: rest) with
        | none =>
            refine Or.inl ⟨hhere.trans hfound, fun r s hrs hr => ?_⟩
            rcases hr.eq_nil_or_cons hrs with ⟨-, rfl⟩ | ⟨r', -, hrest, hr', hc⟩
            · exact hfound
            · exact hlonger r' s hrest hr' hc
        | some m =>
            refine Or.inr ⟨[], c :: rest, m, .empty hfound ?_, ?_⟩
            · rintro _ _ r s ⟨⟩ hrs hr hc
              exact hlonger r s hrs hr hc
            · rw [hhere, hfound, List.length_nil, Nat.zero_add]

/-- What is found is a match. -/
theorem greedy_sound {mode : CaseMode} {ts : List Token} {t : Text} {n : Nat}
    (h : greedy mode ts t = some n) : n ≤ t.length ∧ Matches mode ts (t.take n) := by
  induction ts generalizing t n with
  | nil =>
      rw [greedy, Option.some.injEq] at h
      subst h
      exact ⟨Nat.zero_le _, by simpa using Matches.nil⟩
  | cons tok ts ih =>
      by_cases htok : tok = .run
      · subst htok
        rw [greedy] at h
        rcases greedyRun_spec (greedy mode ts) t with ⟨hnone, -⟩ | ⟨r, s, m, hrun, hvalue⟩
        · rw [hnone] at h
          cases h
        · rw [hvalue, Option.some.injEq] at h
          subst h
          obtain ⟨hle, hmatch⟩ := ih hrun.found
          rw [hrun.split, List.take_length_add_append]
          refine ⟨?_, .run hrun.oneLine hmatch⟩
          calc r.length + m
              ≤ r.length + s.length := Nat.add_le_add_left hle _
            _ = (r ++ s).length := List.length_append.symm
      · cases t with
        | nil =>
            rw [greedy_single_nil htok] at h
            cases h
        | cons c rest =>
            rw [greedy_single_cons htok] at h
            by_cases hc : tok.accepts mode c = true
            · rw [if_pos hc] at h
              obtain ⟨m, hm, rfl⟩ := Option.map_eq_some_iff.1 h
              obtain ⟨hle, hmatch⟩ := ih hm
              exact ⟨Nat.succ_le_succ hle, .single hc hmatch⟩
            · rw [if_neg hc] at h
              cases h

/-- **Nothing is longer than what is found.** -/
theorem greedy_complete {mode : CaseMode} {ts : List Token} {t m : Text} (hm : m <+: t)
    (h : Matches mode ts m) : ∃ n, greedy mode ts t = some n ∧ m.length ≤ n := by
  induction ts generalizing t m with
  | nil =>
      cases h
      exact ⟨0, rfl, Nat.le_refl _⟩
  | cons tok ts ih =>
      obtain ⟨z, rfl⟩ := hm
      by_cases htok : tok = .run
      · subst htok
        obtain ⟨r, k, rfl, hr, hk⟩ := h.run_inv
        have htext : r ++ k ++ z = r ++ (k ++ z) := List.append_assoc r k z
        obtain ⟨n, hn, -⟩ := ih (List.prefix_append k z) hk
        rcases greedyRun_spec (greedy mode ts) (r ++ k ++ z) with
          ⟨-, hfree⟩ | ⟨r₁, s₁, m₁, hrun, hvalue⟩
        · rw [hfree r (k ++ z) htext hr] at hn
          cases hn
        · -- The longest run takes `u` more than `r` does; exchange what follows them.
          have hlen : r.length ≤ r₁.length := hrun.longest r (k ++ z) htext hr (by simp [hn])
          obtain ⟨u, rfl⟩ : r <+: r₁ :=
            List.prefix_of_prefix_length_le ⟨k ++ z, htext.symm⟩ ⟨s₁, hrun.split.symm⟩ hlen
          have hkz : k ++ z = u ++ s₁ := by
            have hsplit := hrun.split
            rw [htext, List.append_assoc] at hsplit
            exact List.append_cancel_left hsplit
          obtain ⟨-, hmatch₁⟩ := greedy_sound hrun.found
          obtain ⟨q, hq, hmatch, hle⟩ := hk.exchange hmatch₁ ⟨z, hkz⟩ (List.take_prefix m₁ s₁)
          obtain ⟨n₁, hn₁, hle₁⟩ := ih hq hmatch
          rw [hrun.found, Option.some.injEq] at hn₁
          refine ⟨_, hvalue, ?_⟩
          calc (r ++ k).length
              = r.length + k.length := List.length_append
            _ ≤ r.length + (u.length + q.length) := Nat.add_le_add_left hle _
            _ ≤ r.length + (u.length + m₁) := by omega
            _ = (r ++ u).length + m₁ := by rw [List.length_append, Nat.add_assoc]
      · obtain ⟨c, k, rfl, hc, hk⟩ := h.single_inv htok
        obtain ⟨n, hn, hle⟩ := ih (List.prefix_append k z) hk
        refine ⟨n + 1, ?_, Nat.succ_le_succ hle⟩
        rw [List.cons_append, greedy_single_cons htok, if_pos hc, hn]
        rfl

theorem greedy_eq_none_iff {mode : CaseMode} {ts : List Token} {t : Text} :
    greedy mode ts t = none ↔ ∀ m, m <+: t → ¬ Matches mode ts m := by
  constructor
  · intro hnone m hm h
    obtain ⟨n, hn, -⟩ := greedy_complete hm h
    rw [hnone] at hn
    cases hn
  · intro h
    cases hfound : greedy mode ts t with
    | none => rfl
    | some n => exact absurd (greedy_sound hfound).2 (h _ (List.take_prefix n t))

/-- **Greedy is longest.** -/
theorem greedy_eq_some_iff {mode : CaseMode} {ts : List Token} {t : Text} {n : Nat} :
    greedy mode ts t = some n ↔
      n ≤ t.length ∧ Matches mode ts (t.take n) ∧
        ∀ m, m <+: t → Matches mode ts m → m.length ≤ n := by
  constructor
  · intro h
    obtain ⟨hle, hmatch⟩ := greedy_sound h
    refine ⟨hle, hmatch, fun m hm hmatch' => ?_⟩
    obtain ⟨n', hn', hle'⟩ := greedy_complete hm hmatch'
    rw [h, Option.some.injEq] at hn'
    rwa [hn']
  · rintro ⟨hle, hmatch, hlongest⟩
    obtain ⟨n', hn', hle'⟩ := greedy_complete (List.take_prefix n t) hmatch
    obtain ⟨hle'', hmatch'⟩ := greedy_sound hn'
    have hge := hlongest _ (List.take_prefix n' t) hmatch'
    rw [List.length_take_of_le hle] at hle'
    rw [List.length_take_of_le hle''] at hge
    rw [hn', Nat.le_antisymm hge hle']

end Phrasebook.Wildcard
