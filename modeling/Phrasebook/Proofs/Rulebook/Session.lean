import Phrasebook.Proofs.Rule.WellFormed
import Phrasebook.Proofs.Rulebook.Invariants

/-!
# Rulebooks that are kept

A session has one rulebook in force and keeps others: those that it has loaded, those that it was
given when it asked, and those that were replaced. Any of them can be put in force again. Rulebooks
come into a session from lines and from files, and a reload may join a rule set of a file with one
that was in force before; all of these are well formed (`Session.wellFormed_step`), and so is every
rulebook of a session, whatever was done in it (`session_rules_wellFormed`).
-/

set_option autoImplicit false

namespace Phrasebook

open Wildcard

namespace Rulebook

/-! ## Sessions -/

/-- Where a rulebook that is put in force comes from. -/
inductive Source where
  /-- It is made of two lists of lines. -/
  | lines (sensitive insensitive : List Text)
  /-- It was kept; the place is counted from the one that was kept last. -/
  | kept (place : Nat)

/-- What can be done in a session. -/
inductive Act where
  /-- Go on with a new program that has this rulebook in force. -/
  | renew (source : Source)
  /-- Put this rulebook in force, and keep the one that it replaces. -/
  | publish (source : Source)
  /-- Load a rulebook from this file system, and keep it if that succeeds. -/
  | load (fs : FileSystem) (paths : RulePaths)
  /-- Read the rule files anew from this file system. -/
  | reload (fs : FileSystem) (paths : RulePaths)
  /-- Put a message through the rules. -/
  | apply (message : Text)
  /-- Ask for the rulebook in force, and keep it. -/
  | consult

/-- The rulebook in force, which has no rules at the beginning, and the rulebooks that are kept. -/
structure Session where
  /-- The rulebook in force. -/
  inForce : Rulebook := {}
  /-- The rulebooks that are kept, the last one first. -/
  kept : List Rulebook := []

/-- The rulebooks that an answer hands out. -/
def handedOut : Reply → List Rulebook
  | .replaced b => [b]
  | .inForce b => [b]
  | .reloaded _ => []
  | .message _ => []

namespace Session

/-- The rulebook from a source, unless it was to be a kept one that is not there. -/
def find? (s : Session) : Source → Option Rulebook
  | .lines sensitive insensitive => some (ofLines sensitive insensitive)
  | .kept place => s.kept[place]?

/-- An operation on the rulebook in force; what the answer hands out is kept. -/
def perform (s : Session) (op : Operation) : Session :=
  let (next, reply) := op.perform s.inForce
  ⟨next, handedOut reply ++ s.kept⟩

/-- The session after one more act. -/
def step (s : Session) : Act → Session
  | .renew source =>
      match s.find? source with
      | none => s
      | some b => { s with inForce := b }
  | .publish source =>
      match s.find? source with
      | none => s
      | some b => s.perform (.publish b)
  | .load fs paths =>
      match Rulebook.load fs paths with
      | .error _ => s
      | .ok b => { s with kept := b :: s.kept }
  | .reload fs paths => s.perform (.reload fs paths)
  | .apply message => s.perform (.apply message)
  | .consult => s.perform .consult

/-- The session after some acts. -/
def run (s : Session) (acts : List Act) : Session := acts.foldl step s

/-- All rulebooks of a session. -/
def rulebooks (s : Session) : List Rulebook := s.inForce :: s.kept

end Session

/-! ## Where rulebooks come from -/

/-- Both rule sets of a rulebook are well formed, each for its own case mode. -/
def WellFormed (b : Rulebook) : Prop := b.Satisfies RuleSet.WellFormed

theorem wellFormed_nothing : WellFormed {} := by
  intro mode
  cases mode with
  | sensitive => exact RuleSet.wellFormed_nil .sensitive
  | insensitive => exact RuleSet.wellFormed_nil .insensitive

theorem wellFormed_ofLines (sensitive insensitive : List Text) :
    (ofLines sensitive insensitive).WellFormed := by
  intro mode
  cases mode with
  | sensitive => exact RuleSet.wellFormed_ofLines .sensitive sensitive
  | insensitive => exact (RuleSet.wellFormed_ofLines .sensitive insensitive).toCaseInsensitive

theorem wellFormed_rulesOfText (mode : CaseMode) (content : Text) :
    RuleSet.WellFormed mode (rulesOfText mode content) :=
  RuleSet.wellFormed_ofLines mode (Text.lines content)

/-! ## Acts -/

namespace Session

variable {s : Session}

/-- Every rulebook of a session is well formed. -/
def WellFormed (s : Session) : Prop := ∀ b ∈ s.rulebooks, b.WellFormed

theorem wellFormed_iff :
    s.WellFormed ↔ s.inForce.WellFormed ∧ ∀ b ∈ s.kept, b.WellFormed := by
  rw [WellFormed, rulebooks, List.forall_mem_cons]

theorem WellFormed.of_find? (h : s.WellFormed) {source : Source} {b : Rulebook}
    (hb : s.find? source = some b) : b.WellFormed := by
  cases source with
  | lines sensitive insensitive =>
      cases hb
      exact wellFormed_ofLines sensitive insensitive
  | kept place =>
      have hmem : b ∈ s.kept := List.mem_of_getElem? hb
      exact h b (List.mem_cons_of_mem _ hmem)

/-- What an answer hands out is the rulebook that was in force when the question came. -/
theorem eq_of_mem_handedOut {now b : Rulebook} {op : Operation}
    (h : b ∈ handedOut (op.perform now).2) : b = now := by
  cases op with
  | publish next => exact List.mem_singleton.1 h
  | reload fs paths => cases h
  | apply message => cases h
  | consult => exact List.mem_singleton.1 h

theorem WellFormed.perform (h : s.WellFormed) {op : Operation}
    (hop : ∀ next, op = .publish next → next.WellFormed) : (s.perform op).WellFormed := by
  obtain ⟨hforce, hkept⟩ := wellFormed_iff.1 h
  have hnext : (op.perform s.inForce).1.WellFormed :=
    Satisfies.perform wellFormed_rulesOfText hforce hop
  refine wellFormed_iff.2 ⟨hnext, fun b hb => ?_⟩
  rcases List.mem_append.1 hb with hb | hb
  · rw [eq_of_mem_handedOut hb]
    exact hforce
  · exact hkept b hb

/-- **One act.** Whatever is done in a session, all its rulebooks stay well formed. -/
theorem wellFormed_step (h : s.WellFormed) (act : Act) : (s.step act).WellFormed := by
  obtain ⟨hforce, hkept⟩ := wellFormed_iff.1 h
  cases act with
  | renew source =>
      simp only [step]
      split
      · exact h
      · next b hfind => exact wellFormed_iff.2 ⟨h.of_find? hfind, hkept⟩
  | publish source =>
      simp only [step]
      split
      · exact h
      · next b hfind =>
          refine h.perform fun next hnext => ?_
          cases hnext
          exact h.of_find? hfind
  | load fs paths =>
      simp only [step]
      split
      · exact h
      · next b hload =>
          have hb : b.WellFormed := satisfies_load wellFormed_rulesOfText hload
          exact wellFormed_iff.2 ⟨hforce, List.forall_mem_cons.2 ⟨hb, hkept⟩⟩
  | reload fs paths => exact h.perform fun next hnext => by cases hnext
  | apply message => exact h.perform fun next hnext => by cases hnext
  | consult => exact h.perform fun next hnext => by cases hnext

theorem wellFormed_run (h : s.WellFormed) (acts : List Act) : (s.run acts).WellFormed := by
  induction acts generalizing s with
  | nil => exact h
  | cons act later ih => exact ih (wellFormed_step h act)

end Session

/-- **The rules of a session are well formed.** In a session that starts without rules, after any
acts and with any files at each of them, each rulebook, whether it is in force or kept, has two
well-formed rule sets: the rules of the first respect case and those of the second fold it, every
rule has the pattern and the regular expression of its own wildcard and mode, no wildcard holds a
separator, and the line numbers begin at one or later and increase. -/
theorem session_rules_wellFormed (acts : List Act) :
    ∀ b ∈ (Session.run {} acts).rulebooks,
      RuleSet.WellFormed .sensitive b.sensitive ∧ RuleSet.WellFormed .insensitive b.insensitive := by
  have hstart : Session.WellFormed {} := Session.wellFormed_iff.2 ⟨wellFormed_nothing, by simp⟩
  intro b hb
  have hbook : b.WellFormed := Session.wellFormed_run hstart acts b hb
  exact ⟨hbook .sensitive, hbook .insensitive⟩

/-- A reload finds one file only, what it leaves is replaced by a rulebook of lines, and the rulebook
that was replaced is put in force again. -/
def joinedAndRestored : List Act :=
  [.publish (.lines [] [[], "\"u?\"===\"v\"".toList]),
    .reload halfReadable ⟨"a".toList, "b".toList⟩, .publish (.lines [] []), .publish (.kept 0),
    .load halfReadable ⟨"a".toList, "a".toList⟩]

/-- The rulebook with one rule set from a file and the other from lines is in force at the end. -/
theorem session_rules_wellFormed_restored :
    (Session.run {} joinedAndRestored).rulebooks.length = 5 ∧
      (⟨RuleSet.ofLines ["\"x\"===\"y\"".toList],
        [⟨"u?".toList, ⟨[.lit 'u', .one], .insensitive⟩, "v".toList, .insensitive, 2⟩]⟩ : Rulebook)
        ∈ (Session.run {} joinedAndRestored).rulebooks ∧
      RuleSet.WellFormed .insensitive
        [⟨"u?".toList, ⟨[.lit 'u', .one], .insensitive⟩, "v".toList, .insensitive, 2⟩] := by
  have hmem : (⟨RuleSet.ofLines ["\"x\"===\"y\"".toList],
      [⟨"u?".toList, ⟨[.lit 'u', .one], .insensitive⟩, "v".toList, .insensitive, 2⟩]⟩ : Rulebook)
      ∈ (Session.run {} joinedAndRestored).rulebooks := by decide +kernel
  exact ⟨by decide +kernel, hmem, (session_rules_wellFormed joinedAndRestored _ hmem).2⟩

end Rulebook

end Phrasebook
