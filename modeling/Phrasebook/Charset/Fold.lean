import Phrasebook.Charset.Basic
import Phrasebook.Text.CaseFold

/-!
# Case variants of sets

`Charset.folded` adds to a set all case variants of its characters under simple case folding, and
`Charset.foldedAscii` adds those of ASCII letters that are ASCII letters, too.
-/

set_option autoImplicit false

namespace Phrasebook

/-! ## Folding pairs -/

/-- The characters of a run, each with the one to which it is folded. -/
def Text.FoldRun.pairs (run : Text.FoldRun) : List (Char × Char) :=
  (List.range ((run.last - run.first) / run.stride + 1)).map fun k =>
    let n := run.first + k * run.stride
    (Char.ofNat n, Char.ofNat (run.apply n))

/-- The characters that are folded to others, each with the other one. -/
def Text.foldPairs : List (Char × Char) := Text.foldRuns.flatMap Text.FoldRun.pairs

namespace Charset

/-! ## Closing sets under case variants -/

/-- The characters that have a case variant in a set. The characters to which members of the set
are folded are collected first; then all that are folded to these are taken. -/
def variantsOf (s : Charset) : Charset :=
  let targets := ofChars (Text.foldPairs.filterMap fun p =>
    if s.contains p.1 || s.contains p.2 then some p.2 else none)
  ofChars (Text.foldPairs.flatMap fun p => if targets.contains p.2 then [p.1, p.2] else [])

/-- The set with every character that has a case variant in it. The variants of a single character
are looked up at once. -/
def folded (s : Charset) : Charset :=
  match s.only? with
  | some c => ofChars (Text.variants c)
  | none => s.union s.variantsOf

/-- An ASCII letter in the other case, and every other character as it is. -/
def otherCase (c : Char) : Char := if c.isUpper then c.toLower else c.toUpper

/-- The letters of ASCII. -/
def asciiLetters : List Char :=
  "ABCDEFGHIJKLMNOPQRSTUVWXYZabcdefghijklmnopqrstuvwxyz".toList

/-- The set with its ASCII letters in both cases. -/
def foldedAscii (s : Charset) : Charset :=
  s.union (ofChars ((asciiLetters.filter s.contains).map otherCase))

end Charset

end Phrasebook
