import Phrasebook.Text.Blank

/-!
# Rule lines

A rule line reads `"pattern"==="replacement"`. It is cut at the first separator, the blanks around
each half are dropped, and each half must then stand in double quotes. What stands between the
quotes is taken as it is. `LineError` lists the ways in which a line is no rule.
-/

set_option autoImplicit false

namespace Phrasebook

/-- Why a line yields no rule. -/
inductive LineError where
  /-- The line has no separator. -/
  | missingSeparator
  /-- The text before the separator is not in double quotes. -/
  | unquotedPattern
  /-- The text after the separator is not in double quotes. -/
  | unquotedReplacement
  /-- The pattern does not compile, for this reason. -/
  | invalidPattern (reason : Text)
  deriving DecidableEq, Repr

/-- The wording of a line error. -/
def LineError.message : LineError → Text
  | .missingSeparator => "missing `===` separator".toList
  | .unquotedPattern => "pattern is not enclosed in double quotes".toList
  | .unquotedReplacement => "replacement is not enclosed in double quotes".toList
  | .invalidPattern reason => "pattern failed to compile: ".toList ++ reason

namespace RuleLine

/-- The separator between the two halves of a rule line. -/
def separator : Text := "===".toList

/-- The text between the double quotes that enclose `t`. One quote alone does not enclose. -/
def unquote? : Text → Option Text
  | '"' :: rest => if rest.getLast? = some '"' then some rest.dropLast else none
  | _ => none

/-- The wildcard and the replacement of a rule line. -/
def parse (line : Text) : Except LineError (Text × Text) :=
  match Text.splitFirst? separator line with
  | none => .error .missingSeparator
  | some (left, right) =>
      match unquote? (Text.trim left) with
      | none => .error .unquotedPattern
      | some wildcard =>
          match unquote? (Text.trim right) with
          | none => .error .unquotedReplacement
          | some replacement => .ok (wildcard, replacement)

end RuleLine

end Phrasebook
