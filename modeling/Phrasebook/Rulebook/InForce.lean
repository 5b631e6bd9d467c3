import Phrasebook.Rulebook.Reload

/-!
# The rulebook in force

The state of a running program is the rulebook in force. Operations come to it one after the
other: a new rulebook is published in place of the one before, the rule files are read anew, a
message is put through the rules, or the rulebook is asked for. `Operation.perform` answers one
operation; `Rulebook.afterAll` is what a whole history of operations leaves in force, and
`Rulebook.replies` lists the answers along it. The files may change in any way in between, since
every reload comes with the file system that it finds.
-/

set_option autoImplicit false

namespace Phrasebook

/-- A request to the rulebook in force. -/
inductive Operation where
  /-- Put this rulebook in force. -/
  | publish (b : Rulebook)
  /-- Read the rule files anew from this file system. -/
  | reload (fs : FileSystem) (paths : RulePaths)
  /-- Put a message through the rules. -/
  | apply (message : Text)
  /-- Ask for the rulebook. -/
  | consult

/-- The answer to an operation. -/
inductive Reply where
  /-- The rulebook that was in force until now. -/
  | replaced (b : Rulebook)
  /-- What came of the reload. -/
  | reloaded (r : Reload)
  /-- The message as the rules leave it. -/
  | message (t : Text)
  /-- The rulebook in force. -/
  | inForce (b : Rulebook)

/-- The rulebook in force after an operation, and the answer. -/
def Operation.perform (b : Rulebook) : Operation → Rulebook × Reply
  | .publish next => (next, .replaced b)
  | .reload fs paths => ((b.reload fs paths).book, .reloaded (b.reload fs paths))
  | .apply message => (b, .message (b.apply message))
  | .consult => (b, .inForce b)

/-- The rulebook in force after a history of operations. -/
def Rulebook.afterAll (b : Rulebook) (history : List Operation) : Rulebook :=
  history.foldl (fun now op => (op.perform now).1) b

/-- The answers to the operations of a history, in order. -/
def Rulebook.replies (b : Rulebook) : List Operation → List Reply
  | [] => []
  | op :: later => (op.perform b).2 :: replies (op.perform b).1 later

end Phrasebook
