import Phrasebook.Log.Record
import Phrasebook.Variables

/-!
# Choosing colours

Whether the log is coloured is decided by variables of the environment. One of them decides
alone if it holds one of two words; otherwise several common variables count, and whether the log
goes to a terminal.
-/

set_option autoImplicit false

namespace Phrasebook.Log

/-- Whether a terminal can be expected to show colours. -/
def expectsColours (vs : Variables) : Bool :=
  vs.differs "TERM" "dumb" || vs.sets "CLICOLOR" || vs.sets "CI"

/-- The palette where no word decides: colours can be ruled out, forced, or ruled out by default,
in this order, and are else used on a terminal that can show them. -/
def Palette.automatic (vs : Variables) (terminal : Bool) : Palette :=
  if vs.differs "NO_COLOR" "" then .plain
  else if vs.differs "CLICOLOR_FORCE" "" then .coloured
  else if vs.value? "CLICOLOR" = some ['0'] then .plain
  else if terminal && expectsColours vs then .coloured
  else .plain

/-- The palette of the log, given whether it goes to a terminal. -/
def Palette.choose (vs : Variables) (terminal : Bool) : Palette :=
  if vs.value? "RUST_LOG_STYLE" = some "always".toList then .coloured
  else if vs.value? "RUST_LOG_STYLE" = some "never".toList then .plain
  else .automatic vs terminal

end Phrasebook.Log
