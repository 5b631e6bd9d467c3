import Phrasebook.Proofs.Rule.Rewriting
import Phrasebook.Proofs.Rulebook.Invariants

/-!
# Rewriting line by line

If the line feed stands in no wildcard, then no match takes one, so that nothing before a line
feed sees what comes after it (`greedy_append_lineFeed`). Neither does the end of the last match
before a line feed matter after it, since the line feed itself is in between
(`rewrite_append_lineFeed`). So a rulebook rewrites each line on its own. The rules of rule files
are of this kind, since each comes from one line.
-/

set_option autoImplicit false

namespace Phrasebook

open Wildcard

/-! ## Matches in front of a line feed -/

namespace Wildcard

theorem mem_of_lit_mem_tokens {c : Char} {w : Text} (h : .lit c ∈ tokens w) : c ∈ w := by
  induction w using wildcard_induction with
  | nil => cases h
  | dangling => cases h
  | escaped d rest ih =>
      rw [tokens, List.mem_cons, Token.lit.injEq] at h
      rcases h with rfl | h
      · exact List.mem_cons_of_mem _ List.mem_cons_self
      · exact List.mem_cons_of_mem _ (List.mem_cons_of_mem _ (ih h))
  | star rest ih =>
      rw [tokens, List.mem_cons] at h
      exact List.mem_cons_of_mem _ (ih (h.resolve_left Token.noConfusion))
  | question rest ih =>
      rw [tokens, List.mem_cons] at h
      exact List.mem_cons_of_mem _ (ih (h.resolve_left Token.noConfusion))
  | plain d rest hplain ih =>
      rw [tokens_plain hplain, List.mem_cons, Token.lit.injEq] at h
      rcases h with rfl | h
      · exact List.mem_cons_self
      · exact List.mem_cons_of_mem _ (ih h)

/-- A pattern no token of which takes a line feed. -/
def Pattern.StopsAtLineFeed (p : Pattern) : Prop :=
  ∀ tok ∈ p.tokens, tok.accepts p.mode Text.lineFeed = false

theorem stopsAtLineFeed_of_compile {w : Text} {mode : CaseMode} {p : Pattern}
    (h : compile w mode = .ok p) (hw : Text.lineFeed ∉ w) : p.StopsAtLineFeed := by
  obtain ⟨-, rfl⟩ := compile_eq_ok_iff.1 h
  intro tok htok
  rw [← Bool.not_eq_true]
  cases tok with
  | lit d =>
      -- Folding moves nothing onto the line feed, so that the literal would have to be one.
      intro haccepts
      have hkey := (Token.accepts_lit mode d Text.lineFeed).1 haccepts
      rw [(mode.key_eq_lineFeed_iff Text.lineFeed).2 rfl, mode.key_eq_lineFeed_iff d] at hkey
      exact hw (hkey ▸ mem_of_lit_mem_tokens htok)
  | one =>
      intro haccepts
      exact (Token.accepts_one mode Text.lineFeed).1 haccepts rfl
  | run => exact Bool.false_ne_true

theorem greedyRun_append_lineFeed {after : Text → Reach} {b : Text}
    (hafter : ∀ a, after (a ++ Text.lineFeed :: b) = after a) (a : Text) :
    greedyRun after (a ++ Text.lineFeed :: b) = greedyRun after a := by
  induction a with
  | nil =>
      -- Whatever the run could match after the line feed, it does not get there.
      show extendRun Text.lineFeed (after ([] ++ Text.lineFeed :: b)) (greedyRun after b) = after []
      rw [hafter]
      cases greedyRun after b with
      | none => rfl
      | some n => rw [extendRun, if_pos rfl]
  | cons c rest ih =>
      show extendRun c (after (c :: rest ++ Text.lineFeed :: b))
        (greedyRun after (rest ++ Text.lineFeed :: b)) = _
      rw [hafter, ih]
      rfl

/-- **What comes after a line feed is not seen in front of it.** -/
theorem greedy_append_lineFeed {mode : CaseMode} {ts : List Token}
    (hts : ∀ tok ∈ ts, tok.accepts mode Text.lineFeed = false) (a b : Text) :
    greedy mode ts (a ++ Text.lineFeed :: b) = greedy mode ts a := by
  induction ts generalizing a with
  | nil => rfl
  | cons tok ts ih =>
      have hlater : ∀ a, greedy mode ts (a ++ Text.lineFeed :: b) = greedy mode ts a :=
        fun a => ih (fun tok' htok' => hts tok' (List.mem_cons_of_mem tok htok')) a
      by_cases htok : tok = .run
      · subst htok
        exact greedyRun_append_lineFeed hlater a
      · cases a with
        | nil =>
            -- The end of `a` has no character for the token, and the line feed is not taken.
            rw [List.nil_append, greedy_single_nil htok, greedy_single_cons htok,
              hts tok List.mem_cons_self]
            rfl
        | cons c rest =>
            rw [List.cons_append, greedy_single_cons htok, greedy_single_cons htok, hlater]

end Wildcard

/-! ## Rewriting in front of a line feed -/

theorem rewrite_append_lineFeed {find : Text → Reach} (hwithin : FindsWithin find)
    (hfind : ∀ a b, find (a ++ Text.lineFeed :: b) = find a) (edit : Text → Text) (ended : Bool)
    (a b : Text) :
    rewrite find edit ended (a ++ Text.lineFeed :: b)
      = rewrite find edit ended a ++ Text.lineFeed :: rewrite find edit false b := by
  induction a using scan_induction find generalizing ended with
  | nil =>
      -- Only an empty match can stand in front of the line feed, as at the end of `a` alone.
      have hhere : find (Text.lineFeed :: b) = find [] := hfind [] b
      rw [List.nil_append, rewrite.eq_def find edit ended []]
      cases hfound : find [] with
      | none =>
          rw [rewrite_none (hhere.trans hfound)]
          simp
      | some n =>
          rw [hwithin.nil hfound] at hfound
          rw [rewrite_zero (hhere.trans hfound)]
          simp
  | none c rest hfound ih =>
      have hhere : find (c :: (rest ++ Text.lineFeed :: b)) = none :=
        (hfind (c :: rest) b).trans hfound
      rw [List.cons_append, rewrite_none hhere, rewrite_none hfound, ih]
      rfl
  | zero c rest hfound ih =>
      have hhere : find (c :: (rest ++ Text.lineFeed :: b)) = some 0 :=
        (hfind (c :: rest) b).trans hfound
      rw [List.cons_append, rewrite_zero hhere, rewrite_zero hfound, ih]
      simp
  | succ c rest n hfound ih =>
      have hhere : find (c :: (rest ++ Text.lineFeed :: b)) = some (n + 1) :=
        (hfind (c :: rest) b).trans hfound
      -- The match ends in front of the line feed, so that the scan goes on in front of it too.
      have hn : n ≤ rest.length := Nat.le_of_succ_le_succ (hwithin _ _ hfound)
      rw [List.cons_append, rewrite_succ hhere, rewrite_succ hfound,
        List.take_append_of_le_length hn, List.drop_append_of_le_length hn, ih, List.append_assoc]

theorem Rule.apply_append_lineFeed {r : Rule} (h : r.pattern.StopsAtLineFeed) (a b : Text) :
    r.apply (a ++ Text.lineFeed :: b) = r.apply a ++ Text.lineFeed :: r.apply b := by
  have hfind : ∀ a b, r.pattern.reachAt (a ++ Text.lineFeed :: b) = r.pattern.reachAt a :=
    fun a b => greedy_append_lineFeed h a b
  have hwithin : FindsWithin r.pattern.reachAt := r.pattern.findsWithin_reachAt
  calc r.apply (a ++ Text.lineFeed :: b)
      = rewrite r.pattern.reachAt (Template.fill r.replacement) false (a ++ Text.lineFeed :: b) :=
        r.apply_eq_rewrite _
    _ = rewrite r.pattern.reachAt (Template.fill r.replacement) false a ++
          Text.lineFeed :: rewrite r.pattern.reachAt (Template.fill r.replacement) false b :=
        rewrite_append_lineFeed hwithin hfind _ false a b
    _ = r.apply a ++ Text.lineFeed :: r.apply b := by
        rw [← r.apply_eq_rewrite, ← r.apply_eq_rewrite]

theorem RuleSet.apply_append_lineFeed {rules : RuleSet}
    (h : ∀ r ∈ rules, r.pattern.StopsAtLineFeed) (a b : Text) :
    rules.apply (a ++ Text.lineFeed :: b) = rules.apply a ++ Text.lineFeed :: rules.apply b := by
  induction rules generalizing a b with
  | nil => rfl
  | cons r later ih =>
      have hlater : ∀ r' ∈ later, r'.pattern.StopsAtLineFeed :=
        fun r' hr' => h r' (List.mem_cons_of_mem r hr')
      -- The later rules see two lines again, those that the first rule has rewritten.
      rw [RuleSet.apply_cons, RuleSet.apply_cons, RuleSet.apply_cons,
        Rule.apply_append_lineFeed (h r List.mem_cons_self)]
      exact ih hlater (r.apply a) (r.apply b)

/-! ## Rulebooks -/

/-- The rule has the pattern that its wildcard compiles to, in one of the case modes, and its
wildcard stands on one line. -/
def Rule.OnOneLine (r : Rule) : Prop :=
  (∃ mode, compile r.wildcard mode = .ok r.pattern) ∧ Text.lineFeed ∉ r.wildcard

theorem Rule.OnOneLine.stopsAtLineFeed {r : Rule} (h : r.OnOneLine) :
    r.pattern.StopsAtLineFeed := by
  obtain ⟨⟨mode, hcompile⟩, hw⟩ := h
  exact stopsAtLineFeed_of_compile hcompile hw

namespace Rulebook

/-- Every rule of a rulebook is on one line. -/
def OnLines (b : Rulebook) : Prop := ∀ r ∈ b.sensitive ++ b.insensitive, r.OnOneLine

theorem onLines_iff {b : Rulebook} :
    b.OnLines ↔ b.Satisfies fun _ rules => ∀ r ∈ rules, r.OnOneLine := by
  constructor
  · intro h mode r hr
    cases mode with
    | sensitive => exact h r (List.mem_append_left _ hr)
    | insensitive => exact h r (List.mem_append_right _ hr)
  · intro h r hr
    rcases List.mem_append.1 hr with hr | hr
    · exact h .sensitive r hr
    · exact h .insensitive r hr

theorem onOneLine_rulesOfText (mode : CaseMode) (content : Text) :
    ∀ r ∈ rulesOfText mode content, r.OnOneLine := by
  refine forall_rulesOfText (fun line number r hline hread => ?_) content
  obtain ⟨hparse, -, -, hcompile⟩ := readRule_eq_ok hread
  exact ⟨⟨r.mode, hcompile⟩, fun hmem => hline (RuleLine.mem_line_of_mem_wildcard hparse hmem)⟩

theorem onLines_load {fs : FileSystem} {paths : RulePaths} {b : Rulebook}
    (h : load fs paths = .ok b) : b.OnLines :=
  onLines_iff.2 (satisfies_load onOneLine_rulesOfText h)

theorem onLines_reload {b : Rulebook} (h : b.OnLines) (fs : FileSystem) (paths : RulePaths) :
    (b.reload fs paths).book.OnLines :=
  onLines_iff.2 ((onLines_iff.1 h).reload onOneLine_rulesOfText fs paths)

/-- **Rewriting is local to lines.** If no wildcard of a rulebook holds a line feed, then the
rulebook rewrites what stands before a line feed and what stands after it as if each were alone,
and keeps the line feed. Every rulebook that is loaded from rule files is of this kind, and every
reload keeps it so. -/
theorem apply_is_line_local :
    (∀ b : Rulebook, b.OnLines → ∀ before after : Text,
        b.apply (before ++ [Text.lineFeed] ++ after)
          = b.apply before ++ [Text.lineFeed] ++ b.apply after) ∧
      (∀ fs paths b, load fs paths = .ok b → b.OnLines) ∧
      (∀ b : Rulebook, b.OnLines → ∀ fs paths, (b.reload fs paths).book.OnLines) := by
  refine ⟨?_, fun _ _ _ h => onLines_load h, fun _ h fs paths => onLines_reload h fs paths⟩
  intro b hb before after
  have hsensitive : ∀ r ∈ b.sensitive, r.pattern.StopsAtLineFeed :=
    fun r hr => (hb r (List.mem_append_left _ hr)).stopsAtLineFeed
  have hinsensitive : ∀ r ∈ b.insensitive, r.pattern.StopsAtLineFeed :=
    fun r hr => (hb r (List.mem_append_right _ hr)).stopsAtLineFeed
  calc b.apply (before ++ [Text.lineFeed] ++ after)
      = b.insensitive.apply (b.sensitive.apply (before ++ Text.lineFeed :: after)) := by
        rw [List.append_assoc]
        rfl
    _ = b.insensitive.apply
          (b.sensitive.apply before ++ Text.lineFeed :: b.sensitive.apply after) := by
        rw [RuleSet.apply_append_lineFeed hsensitive]
    _ = b.apply before ++ Text.lineFeed :: b.apply after :=
        RuleSet.apply_append_lineFeed hinsensitive _ _
    _ = b.apply before ++ [Text.lineFeed] ++ b.apply after := by
        rw [List.append_assoc]
        rfl

/-- A rulebook both rules of which match the empty text: a star, and an empty wildcard. -/
def matchingNothing : Rulebook :=
  ⟨[⟨['*'], ⟨[.run], .sensitive⟩, "<$0>".toList, .sensitive, 1⟩],
    [⟨[], ⟨[], .insensitive⟩, ['-'], .insensitive, 1⟩]⟩

/-- Empty matches right before and right after a line feed stay apart. -/
theorem matchingNothing_is_line_local :
    matchingNothing.OnLines ∧
      matchingNothing.apply ("ab".toList ++ [Text.lineFeed] ++ [])
        = matchingNothing.apply "ab".toList ++ [Text.lineFeed] ++ matchingNothing.apply [] := by
  have h : matchingNothing.OnLines := by
    intro r hr
    simp only [matchingNothing, List.cons_append, List.nil_append, List.mem_cons,
      List.not_mem_nil, or_false] at hr
    rcases hr with rfl | rfl
    · exact ⟨⟨.sensitive, compile_eq_ok_iff.2 ⟨by decide, rfl⟩⟩, by decide⟩
    · exact ⟨⟨.insensitive, compile_eq_ok_iff.2 ⟨by decide, rfl⟩⟩, by decide⟩
  exact ⟨h, apply_is_line_local.1 matchingNothing h "ab".toList []⟩

end Rulebook

end Phrasebook
