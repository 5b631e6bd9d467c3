import Phrasebook.Proofs.Text.Folding
import Phrasebook.Wildcard.Match

/-!
# Matching from one position

`reaches` answers for all positions of a text in one table. `greedy` answers for one position, by
backtracking: a run takes one more character whenever the rest of the pattern still matches after
it. The table lists what `greedy` finds at each suffix of the text (`tabulates_reaches`), so that
a statement about matches is proved along the text and not along the table.
-/

set_option autoImplicit false

namespace Phrasebook.Wildcard

/-! ## Characters in a case mode -/

theorem CaseMode.key_eq_lineFeed_iff (mode : CaseMode) (c : Char) :
    mode.key c = Text.lineFeed ↔ c = Text.lineFeed := by
  cases mode with
  | sensitive => rfl
  | insensitive => exact Text.foldCase_eq_lineFeed_iff c

/-- Whether a token that stands for a single character takes `c` in a case mode. -/
def Token.accepts (mode : CaseMode) (tok : Token) (c : Char) : Bool :=
  (tok.keyed mode).takes (mode.key c)

theorem Token.accepts_lit (mode : CaseMode) (d c : Char) :
    (Token.lit d).accepts mode c = true ↔ mode.key d = mode.key c := by
  simp [Token.accepts, Token.keyed, Token.takes]

theorem Token.accepts_one (mode : CaseMode) (c : Char) :
    Token.one.accepts mode c = true ↔ c ≠ Text.lineFeed := by
  simp [Token.accepts, Token.keyed, Token.takes, mode.key_eq_lineFeed_iff c]

/-! ## One position -/

/-- The match of a run at the start of a text; `after` is the match of what follows the run. -/
def greedyRun (after : Text → Reach) : Text → Reach
  | [] => after []
  | c :: rest => extendRun c (after (c :: rest)) (greedyRun after rest)

/-- The match of a list of tokens at the start of a text. -/
def greedy (mode : CaseMode) : List Token → Text → Reach
  | [], _ => some 0
  | .run :: ts, t => greedyRun (greedy mode ts) t
  | _ :: _, [] => none
  | tok :: ts, c :: rest =>
      if tok.accepts mode c then (greedy mode ts rest).map (· + 1) else none

section

variable {mode : CaseMode} {tok : Token} {ts : List Token}

theorem greedy_single_nil (htok : tok ≠ .run) : greedy mode (tok :: ts) [] = none := by
  rw [greedy]
  exact htok

theorem greedy_single_cons (htok : tok ≠ .run) (c : Char) (rest : Text) :
    greedy mode (tok :: ts) (c :: rest)
      = if tok.accepts mode c then (greedy mode ts rest).map (· + 1) else none := by
  rw [greedy]
  exact htok

end

/-- The match of a pattern at the start of a text. -/
def Pattern.reachAt (p : Pattern) (t : Text) : Reach := greedy p.mode p.tokens t

theorem extendRun_key (mode : CaseMode) (c : Char) (here next : Reach) :
    extendRun (mode.key c) here next = extendRun c here next := by
  cases next with
  | none => rfl
  | some n => simp [extendRun, mode.key_eq_lineFeed_iff c]

/-! ## The table of all positions -/

/-- The list `l` holds what `f` finds at each suffix of a text, the longest first. Where `l` ends
early, `f` finds nothing. -/
def Tabulates (f : Text → Reach) : Text → List Reach → Prop
  | [], l => l.headD none = f [] ∧ l.tail = []
  | c :: rest, l => l.headD none = f (c :: rest) ∧ Tabulates f rest l.tail

theorem Tabulates.headD {f : Text → Reach} {t : Text} {l : List Reach} (h : Tabulates f t l) :
    l.headD none = f t := by
  cases t with
  | nil => exact h.1
  | cons c rest => exact h.1

theorem Tabulates.drop {f : Text → Reach} {t : Text} {l : List Reach} (h : Tabulates f t l) :
    ∀ {i : Nat}, i ≤ t.length → Tabulates f (t.drop i) (l.drop i) := by
  intro i
  induction i generalizing t l with
  | zero => exact fun _ => h
  | succ i ih =>
      intro hi
      cases t with
      | nil => exact absurd hi (Nat.not_succ_le_zero i)
      | cons c rest =>
          rw [List.drop_succ_cons, ← List.drop_tail]
          exact ih h.2 (Nat.le_of_succ_le_succ hi)

theorem Tabulates.drop_eq_nil {f : Text → Reach} {t : Text} {l : List Reach}
    (h : Tabulates f t l) {i : Nat} (hi : t.length < i) : l.drop i = [] := by
  induction t generalizing l i with
  | nil =>
      obtain ⟨j, rfl⟩ := Nat.exists_eq_add_of_lt hi
      rw [List.length_nil, Nat.zero_add, ← List.drop_tail, h.2, List.drop_nil]
  | cons c rest ih =>
      obtain ⟨j, rfl⟩ := Nat.exists_eq_succ_of_ne_zero (Nat.ne_of_gt (Nat.zero_lt_of_lt hi))
      rw [← List.drop_tail]
      exact ih h.2 (Nat.lt_of_succ_lt_succ hi)

/-! ### One token -/

theorem tabulates_replicate (t : Text) :
    Tabulates (fun _ => some 0) t (List.replicate (t.length + 1) (some 0)) := by
  induction t with
  | nil => exact ⟨rfl, rfl⟩
  | cons c rest ih => exact ⟨rfl, ih⟩

theorem headD_zipWith_extendSingle (tok : Token) (c : Char) (t : Text) (l : List Reach) :
    ((c :: t).zipWith (extendSingle tok) l).headD none = extendSingle tok c (l.headD none) := by
  cases l with
  | nil => simp [extendSingle]
  | cons x xs => rfl

theorem tabulates_single {mode : CaseMode} {tok : Token} {ts : List Token} (htok : tok ≠ .run)
    (c : Char) (rest : Text) {l : List Reach} (h : Tabulates (greedy mode ts) rest l) :
    Tabulates (greedy mode (tok :: ts)) (c :: rest)
      (((c :: rest).map mode.key).zipWith (extendSingle (tok.keyed mode)) l) := by
  induction rest generalizing c l with
  | nil =>
      refine ⟨?_, ?_⟩
      · rw [greedy_single_cons htok, ← h.headD]
        exact headD_zipWith_extendSingle _ _ _ _
      · -- There is one character less than there are positions, and the table ends.
        rw [List.tail_zipWith]
        exact ⟨(greedy_single_nil htok).symm, rfl⟩
  | cons d later ih =>
      refine ⟨?_, ?_⟩
      · rw [greedy_single_cons htok, ← h.headD]
        exact headD_zipWith_extendSingle _ _ _ _
      · rw [List.tail_zipWith]
        exact ih d h.2

theorem headD_reachesRun_cons (c : Char) (t : Text) (l : List Reach) :
    (reachesRun (c :: t) l).headD none
      = extendRun c (l.headD none) ((reachesRun t l.tail).headD none) := by
  cases l with
  | nil => simp [reachesRun, extendRun]
  | cons x xs => simp [reachesRun, List.head?_eq_getElem?]

theorem tail_reachesRun_cons (c : Char) (t : Text) (l : List Reach) :
    (reachesRun (c :: t) l).tail = reachesRun t l.tail := by
  cases l with
  | nil => simp [reachesRun]
  | cons x xs => rfl

theorem tabulates_run (mode : CaseMode) {f : Text → Reach} {t : Text} {l : List Reach}
    (h : Tabulates f t l) : Tabulates (greedyRun f) t (reachesRun (t.map mode.key) l) := by
  induction t generalizing l with
  | nil => exact h
  | cons c rest ih =>
      refine ⟨?_, ?_⟩
      · rw [List.map_cons, headD_reachesRun_cons, extendRun_key, h.headD, (ih h.2).headD]
        rfl
      · rw [List.map_cons, tail_reachesRun_cons]
        exact ih h.2

/-! ### All tokens -/

/-- **The table lists what backtracking finds at each position.** -/
theorem tabulates_reaches (mode : CaseMode) (ts : List Token) (t : Text) :
    Tabulates (greedy mode ts) t (reaches (ts.map (Token.keyed mode)) (t.map mode.key)) := by
  induction ts generalizing t with
  | nil =>
      rw [List.map_nil, reaches, List.length_map]
      exact tabulates_replicate t
  | cons tok ts ih =>
      by_cases htok : tok = .run
      · subst htok
        exact tabulates_run mode (ih t)
      · have hkeyed : tok.keyed mode ≠ .run := by
          cases tok with
          | lit c => simp [Token.keyed]
          | one => simp [Token.keyed]
          | run => exact absurd rfl htok
        cases t with
        | nil =>
            -- The table is empty, and there is no character for the token.
            rw [List.map_cons, List.map_nil, reaches]
            · exact ⟨(greedy_single_nil htok).symm, rfl⟩
            · exact hkeyed
        | cons c rest =>
            rw [List.map_cons, List.map_cons, reaches]
            · exact tabulates_single htok c rest (ih rest)
            · exact hkeyed

theorem Pattern.tabulates_reaches (p : Pattern) (t : Text) :
    Tabulates p.reachAt t (p.reaches t) :=
  Wildcard.tabulates_reaches p.mode p.tokens t

end Phrasebook.Wildcard
