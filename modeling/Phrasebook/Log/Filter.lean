import Phrasebook.Log.Record
import Phrasebook.Regex.Reader

/-!
# Log filters

A filter says which records are shown. It is a list of directives, each of which sets the least
important level that is shown, either for every source or for the sources whose names begin in a
certain way; the directive with the longest such beginning decides. Filters are written as in
`warn,name=debug`, and a regular expression that the records must match may follow a slash.
-/

set_option autoImplicit false

namespace Phrasebook.Log

/-- The least important level that is shown, or `none` if nothing is. -/
abbrev Threshold := Option Level

/-- Whether a level is shown under a threshold. -/
def Threshold.shows (t : Threshold) (l : Level) : Bool :=
  match t with
  | none => false
  | some least => l.rank ≤ least.rank

/-- A threshold for some sources. -/
structure Directive where
  /-- The beginning of the names of the sources; without one, every source is meant. -/
  start : Option Text
  /-- The threshold for them. -/
  threshold : Threshold
  deriving DecidableEq, Repr

/-- Which records are shown. -/
structure Filter where
  /-- The directives, no two of them for the same beginning. -/
  directives : List Directive
  /-- What the text of every record that is shown must match. -/
  pattern : Option Regex.Program := none
  deriving DecidableEq, Repr

/-! ## Applying a filter -/

/-- The beginning of the names, which is empty if every source is meant. -/
def Directive.beginning (d : Directive) : Text := d.start.getD []

/-- Of two directives that both fit, the one with the longer beginning, or else the later one. -/
def closer (a b : Directive) : Directive :=
  if a.beginning.length ≤ b.beginning.length then b else a

/-- The threshold of a filter for a source. -/
def Filter.threshold (f : Filter) (s : Source) : Threshold :=
  match f.directives.filter fun d => d.beginning.isPrefixOf s.name with
  | [] => none
  | d :: more => (more.foldl closer d).threshold

/-- Whether a record is shown. -/
def Filter.shows (f : Filter) (r : Record) : Bool :=
  Threshold.shows (f.threshold r.source) r.level && f.pattern.all fun p => p.isMatch r.text

/-- The filter that shows everything down to a level. -/
def Filter.downTo (l : Level) : Filter := ⟨[⟨none, some l⟩], none⟩

/-! ## Reading a filter -/

/-- The threshold that a word names, whatever its case. -/
def threshold? (word : Text) : Option Threshold :=
  [("off".toList, none), ("error".toList, some .error), ("warn".toList, some .warn),
   ("info".toList, some .info), ("debug".toList, some .debug),
   ("trace".toList, some Level.trace)].lookup (word.map Char.toLower)

/-- The directive that an item of a filter stands for: a threshold for every source, the beginning
of names of sources of which everything is shown, or a beginning with a threshold. An item that is
none of these is refused with the part of it that cannot be read. -/
def readDirective (item : Text) : Except Text Directive :=
  match Text.pieces '=' item with
  | [word] =>
      match threshold? word with
      | some t => .ok ⟨none, t⟩
      | none => .ok ⟨some word, some .trace⟩
  | [name, word] =>
      if (Text.trim word).isEmpty then .ok ⟨some name, some .trace⟩
      else
        match threshold? (Text.trim word) with
        | some t => .ok ⟨some name, t⟩
        | none => .error (Text.trim word)
  | _ => .error item

/-- The directives with one more. One for the same beginning gives up its place to it. -/
def insert (ds : List Directive) (d : Directive) : List Directive :=
  if ds.any fun e => e.start == d.start then
    ds.map fun e => if e.start == d.start then d else e
  else ds ++ [d]

/-- The items of a list that commas separate. -/
def items (t : Text) : List Text :=
  ((Text.pieces ',' t).map Text.trim).filter fun item => !item.isEmpty

/-- The filter of the items that are directives. Without a directive only errors are shown. -/
def Filter.ofItems (is : List Text) (pattern : Option Regex.Program) : Filter :=
  match (is.filterMap fun item => (readDirective item).toOption).foldl insert [] with
  | [] => ⟨[⟨none, some .error⟩], pattern⟩
  | ds => ⟨ds, pattern⟩

/-- The filter that a text stands for. What cannot be read is passed over: items that are no
directives, and a text after the slash that is no regular expression. A second slash makes the
whole text void. -/
def Filter.parse (t : Text) : Filter :=
  match Text.pieces '/' t with
  | [directives] => .ofItems (items directives) none
  | [directives, pattern] => .ofItems (items directives) (Regex.Program.ofText pattern).toOption
  | _ => .ofItems [] none

/-! ## Warnings -/

/-- The warning about a part of a filter, given what is wrong with it. -/
def warning (problem : Text) : Text :=
  "warning: invalid ".toList ++ problem ++ ", ignoring it".toList

/-- What is wrong with a directive. -/
def directiveProblem (part : Text) : Text := "logging spec '".toList ++ part ++ "'".toList

/-- The warning about an item, if it is no directive. -/
def itemWarning? (item : Text) : Option Text :=
  match readDirective item with
  | .ok _ => none
  | .error part => some (warning (directiveProblem part))

/-- The warning about the text after a slash, if it is no regular expression. -/
def patternWarning? (pattern : Text) : Option Text :=
  match Regex.Program.ofText pattern with
  | .ok _ => none
  | .error e => some (warning ("regex filter - ".toList ++ e.message))

/-- The warnings about the parts of a filter's text that are passed over. -/
def Filter.warnings (t : Text) : List Text :=
  match Text.pieces '/' t with
  | [directives] => (items directives).filterMap itemWarning?
  | [directives, pattern] =>
      (items directives).filterMap itemWarning? ++ (patternWarning? pattern).toList
  | _ => [warning (directiveProblem t ++ " (too many '/'s)".toList)]

end Phrasebook.Log
