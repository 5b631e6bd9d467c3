import Phrasebook.Rulebook.InForce

/-!
# The history of the rulebook in force

Of a whole history of operations only one matters for each of the two rule sets: the last one that
installed a set of that kind, which is a publication or a reload that could read the file of that
kind (`rules_afterAll`). The two kinds do not look at each other, so that a reload with one
unreadable file still installs the other set. Each answer along the history fits the rulebooks that
are in force right before and right after it (`answers_perform`).
-/

set_option autoImplicit false

namespace Phrasebook

open Wildcard

/-! ## The rule set of a kind -/

/-- The rules of one case mode. -/
def Rulebook.rules (b : Rulebook) : CaseMode → RuleSet
  | .sensitive => b.sensitive
  | .insensitive => b.insensitive

/-- The path of the rule file of one case mode. -/
def RulePaths.file (paths : RulePaths) : CaseMode → Path
  | .sensitive => paths.sensitive
  | .insensitive => paths.insensitive

/-- The rules of the text of a rule file. -/
def rulesOfText (mode : CaseMode) (content : Text) : RuleSet :=
  (Report.ofLines mode (Text.lines content)).rules

/-- The rule set of one case mode that an operation installs: the one that it publishes, or the one
in the file, if that can be read as UTF-8. -/
def Operation.installs? (mode : CaseMode) : Operation → Option RuleSet
  | .publish b => some (b.rules mode)
  | .reload fs paths => (fs.readText? (paths.file mode)).map (rulesOfText mode)
  | .apply _ => none
  | .consult => none

theorem RuleFile.load_eq (fs : FileSystem) (mode : CaseMode) (p : Path) :
    load fs mode p = match fs.readText? p with
      | none => .error (.read p)
      | some content => .ok (Report.ofLines mode (Text.lines content)) := rfl

theorem Rulebook.rulesOr_load (previous : RuleSet) (fs : FileSystem) (mode : CaseMode) (p : Path) :
    rulesOr previous (RuleFile.load fs mode p)
      = ((fs.readText? p).map (rulesOfText mode)).getD previous := by
  rw [RuleFile.load_eq]
  cases fs.readText? p <;> rfl

theorem RuleFile.isOk_load (fs : FileSystem) (mode : CaseMode) (p : Path) :
    (load fs mode p).isOk = (fs.readText? p).isSome := by
  rw [load_eq]
  cases fs.readText? p <;> rfl

/-! ## One operation -/

/-- **One step.** An operation leaves each rule set as it is, unless it installs one. -/
theorem rules_perform (b : Rulebook) (op : Operation) (mode : CaseMode) :
    (op.perform b).1.rules mode = (op.installs? mode).getD (b.rules mode) := by
  cases op with
  | publish next => rfl
  | reload fs paths =>
      cases mode with
      | sensitive => exact Rulebook.rulesOr_load b.sensitive fs .sensitive paths.sensitive
      | insensitive => exact Rulebook.rulesOr_load b.insensitive fs .insensitive paths.insensitive
  | apply message => rfl
  | consult => rfl

/-- The answer `reply` to an operation fits the rulebook `now`, which is in force before it, and the
rulebook `next`, which is in force after it. -/
inductive Answers (now : Rulebook) : Operation → Rulebook → Reply → Prop where
  /-- A publication hands back the rulebook that it replaces. -/
  | publish (b : Rulebook) : Answers now (.publish b) b (.replaced now)
  /-- A reload counts the rules that are in force after it, and says which files it could read. -/
  | reload {fs : FileSystem} {paths : RulePaths} {next : Rulebook} {r : Reload}
      (h : r.summary = ⟨next.sensitive.length, next.insensitive.length,
        (fs.readText? paths.sensitive).isSome, (fs.readText? paths.insensitive).isSome⟩) :
      Answers now (.reload fs paths) next (.reloaded r)
  /-- A message goes through the rules in force and changes nothing. -/
  | apply (message : Text) : Answers now (.apply message) now (.message (now.apply message))
  /-- To ask for the rulebook in force changes nothing. -/
  | consult : Answers now .consult now (.inForce now)

theorem answers_perform (b : Rulebook) (op : Operation) :
    Answers b op (op.perform b).1 (op.perform b).2 := by
  cases op with
  | publish next => exact .publish next
  | reload fs paths =>
      apply Answers.reload
      rw [← RuleFile.isOk_load fs .sensitive, ← RuleFile.isOk_load fs .insensitive]
      rfl
  | apply message => exact .apply message
  | consult => exact .consult

/-! ## A history of operations -/

namespace Rulebook

theorem afterAll_append (b : Rulebook) (before after : List Operation) :
    b.afterAll (before ++ after) = (b.afterAll before).afterAll after :=
  List.foldl_append

/-- **A whole run.** What is in force of each kind is what was installed last. -/
theorem rules_afterAll (b : Rulebook) (history : List Operation) (mode : CaseMode) :
    (b.afterAll history).rules mode
      = (history.filterMap (Operation.installs? mode)).getLast?.getD (b.rules mode) := by
  induction history generalizing b with
  | nil => rfl
  | cons op later ih =>
      -- What the first operation leaves is what the later ones start from.
      have hfirst : b.afterAll (op :: later) = (op.perform b).1.afterAll later := rfl
      rw [hfirst, ih, rules_perform]
      cases hop : op.installs? mode with
      | none => rw [List.filterMap_cons_none hop, Option.getD_none]
      | some rules =>
          rw [List.filterMap_cons_some hop, List.getLast?_cons, Option.getD_some, Option.getD_some]

theorem length_replies (b : Rulebook) (history : List Operation) :
    (b.replies history).length = history.length := by
  induction history generalizing b with
  | nil => rfl
  | cons op later ih => exact congrArg (· + 1) (ih _)

/-- The answer at a place of a history is the answer to the operation there, given what the
operations before it have left in force. -/
theorem getElem?_replies (b : Rulebook) (history : List Operation) (i : Nat) :
    (b.replies history)[i]?
      = history[i]?.map fun op => (op.perform (b.afterAll (history.take i))).2 := by
  induction history generalizing b i with
  | nil => rfl
  | cons op later ih =>
      cases i with
      | zero => rfl
      | succ i =>
          rw [replies, List.getElem?_cons_succ, List.getElem?_cons_succ, ih, List.take_succ_cons]
          rfl

theorem afterAll_take_succ (b : Rulebook) {history : List Operation} {i : Nat} {op : Operation}
    (h : history[i]? = some op) :
    b.afterAll (history.take (i + 1)) = (op.perform (b.afterAll (history.take i))).1 := by
  rw [List.take_add_one, h, afterAll_append]
  rfl

/-- **The history decides what is in force.** After every history of operations, with any files at
each reload, the rule set of each kind is the one that was installed last, by a publication or by a
reload that could read the file of that kind, and the initial one if none was installed; and every
operation along the history is answered, in a way that fits the rulebooks in force right before and
right after it. -/
theorem history_decides_in_force (b : Rulebook) (history : List Operation) :
    (∀ mode, (b.afterAll history).rules mode
        = (history.filterMap (Operation.installs? mode)).getLast?.getD (b.rules mode)) ∧
      (b.replies history).length = history.length ∧
      ∀ i op, history[i]? = some op → ∃ reply, (b.replies history)[i]? = some reply ∧
        Answers (b.afterAll (history.take i)) op (b.afterAll (history.take (i + 1))) reply := by
  refine ⟨b.rules_afterAll history, b.length_replies history, fun i op hop => ?_⟩
  have hreply : (b.replies history)[i]? = some (op.perform (b.afterAll (history.take i))).2 := by
    rw [getElem?_replies, hop]
    rfl
  refine ⟨_, hreply, ?_⟩
  rw [afterAll_take_succ b hop]
  exact answers_perform _ op

/-- The files at a reload that can read the rules that respect case, but not the others. -/
def halfReadable : FileSystem :=
  ⟨[(["a".toList], .file (Text.encode "\"x\"===\"y\"".toList))], []⟩

/-- Two publications, the second of which is followed by a reload that finds one file only. -/
def halfReloaded : List Operation :=
  [.publish {}, .publish ⟨RuleSet.ofLines ["\"u\"===\"v\"".toList],
      RuleSet.ofLines ["\"u\"===\"v\"".toList]⟩,
    .reload halfReadable ⟨"a".toList, "b".toList⟩, .apply "x".toList]

/-- The reload installs the set that it can read, next to the set that was published before. -/
theorem history_decides_half_reloaded :
    halfReloaded[2]? = some (.reload halfReadable ⟨"a".toList, "b".toList⟩) ∧
      (afterAll {} halfReloaded).rules .sensitive = RuleSet.ofLines ["\"x\"===\"y\"".toList] ∧
      (afterAll {} halfReloaded).rules .insensitive = RuleSet.ofLines ["\"u\"===\"v\"".toList] ∧
      ∃ reply, (replies {} halfReloaded)[2]? = some reply ∧
        Answers (afterAll {} (halfReloaded.take 2)) (.reload halfReadable ⟨"a".toList, "b".toList⟩)
          (afterAll {} (halfReloaded.take 3)) reply := by
  obtain ⟨hrules, -, hanswers⟩ := history_decides_in_force {} halfReloaded
  refine ⟨rfl, ?_, ?_, hanswers 2 _ rfl⟩
  · rw [hrules]
    decide +kernel
  · rw [hrules]
    decide +kernel

end Rulebook

end Phrasebook
