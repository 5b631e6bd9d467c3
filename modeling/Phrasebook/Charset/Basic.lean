import Phrasebook.Text.Category

/-!
# Sets of characters

A set of characters is a list of closed intervals. They are in order, and no two of them touch, so
that a set has one list; the operations below keep it so. The code points of the surrogates are no
characters: an interval may reach over them, but it neither begins nor ends there.
-/

set_option autoImplicit false

namespace Phrasebook

/-! ## Intervals -/

/-- The characters from one to another. -/
structure Interval where
  /-- The first character. -/
  first : Char
  /-- The last character. -/
  last : Char
  deriving DecidableEq, Repr

namespace Interval

/-- The greatest character. -/
def greatest : Char := Char.ofNat 0x10FFFF

/-- The character after another one. -/
def next (c : Char) : Char := if c = '\ud7ff' then '\ue000' else Char.ofNat (c.toNat + 1)

/-- The character before another one. -/
def previous (c : Char) : Char := if c = '\ue000' then '\ud7ff' else Char.ofNat (c.toNat - 1)

/-- The later one of two characters. -/
def later (c d : Char) : Char := if c ≤ d then d else c

/-- The earlier one of two characters. -/
def earlier (c d : Char) : Char := if c ≤ d then c else d

/-- Whether a character belongs to an interval. -/
def contains (i : Interval) (c : Char) : Bool := i.first ≤ c && c ≤ i.last

/-- The characters that two intervals have in common, if there are any. -/
def inter? (i j : Interval) : Option Interval :=
  let first := later i.first j.first
  let last := earlier i.last j.last
  if first ≤ last then some ⟨first, last⟩ else none

/-- Intervals in the order of their first characters, those that touch put together. `i` is the
interval that is being put together. -/
def fuse (i : Interval) : List Interval → List Interval
  | [] => [i]
  | j :: rest =>
      if j.first.toNat ≤ i.last.toNat + 1 then fuse ⟨i.first, later i.last j.last⟩ rest
      else i :: fuse j rest

/-- Intervals in the order of their first characters, those that touch put together. -/
def fuseAll : List Interval → List Interval
  | [] => []
  | i :: rest => fuse i rest

/-- Whether an interval begins no later than another one. -/
def startsBy (i j : Interval) : Bool := i.first ≤ j.first

/-- Puts an interval into a list in order, before the first one that begins no earlier. Lists that
are nearly in order are quickly put in order from the end. -/
def place (i : Interval) : List Interval → List Interval
  | [] => [i]
  | j :: rest => if i.startsBy j then i :: j :: rest else j :: place i rest

/-- What lies after `c` and outside of the intervals, which are in order and begin after `c`. -/
def gapsAfter (c : Char) : List Interval → List Interval
  | [] => if c < greatest then [⟨next c, greatest⟩] else []
  | i :: rest =>
      let gap : Interval := ⟨next c, previous i.first⟩
      if gap.first ≤ gap.last then gap :: gapsAfter i.last rest else gapsAfter i.last rest

/-- What lies outside of intervals in order. -/
def gaps : List Interval → List Interval
  | [] => [⟨'\x00', greatest⟩]
  | i :: rest =>
      if i.first = '\x00' then gapsAfter i.last rest
      else ⟨'\x00', previous i.first⟩ :: gapsAfter i.last rest

/-- What two lists of intervals in order have in common. -/
def overlaps : List Interval → List Interval → List Interval
  | [], _ => []
  | _, [] => []
  | i :: a, j :: b =>
      let rest := if i.last ≤ j.last then overlaps a (j :: b) else overlaps (i :: a) b
      match i.inter? j with
      | some k => k :: rest
      | none => rest
  termination_by a b => a.length + b.length

end Interval

/-! ## Sets -/

/-- A set of characters. -/
structure Charset where
  /-- The intervals of the set, in order; no two of them touch. -/
  intervals : List Interval
  deriving DecidableEq, Repr

namespace Charset

/-- Whether a character belongs to a set. The first interval that does not end before it
decides. -/
def contains (s : Charset) (c : Char) : Bool :=
  match s.intervals.find? fun i => c ≤ i.last with
  | some i => i.first ≤ c
  | none => false

/-- The empty set. -/
def nothing : Charset := ⟨[]⟩

/-- The set of all characters. -/
def all : Charset := ⟨[⟨'\x00', Interval.greatest⟩]⟩

/-- The characters from one to another. -/
def interval (first last : Char) : Charset := ⟨[⟨first, last⟩]⟩

/-- The set of one character. -/
def single (c : Char) : Charset := interval c c

/-- The set of the characters of some intervals. -/
def ofIntervals (l : List Interval) : Charset :=
  ⟨Interval.fuseAll (l.foldr Interval.place [])⟩

/-- The set of some characters. -/
def ofChars (cs : List Char) : Charset := ofIntervals (cs.map fun c => ⟨c, c⟩)

/-- The characters of either set. -/
def union (a b : Charset) : Charset :=
  ⟨Interval.fuseAll (a.intervals.merge b.intervals Interval.startsBy)⟩

/-- The characters of both sets. -/
def inter (a b : Charset) : Charset := ⟨Interval.overlaps a.intervals b.intervals⟩

/-- The characters that are not in a set. -/
def compl (s : Charset) : Charset := ⟨Interval.gaps s.intervals⟩

/-- The characters of the first set that are not in the second. -/
def difference (a b : Charset) : Charset := a.inter b.compl

/-- The characters of exactly one of two sets. -/
def symmetricDifference (a b : Charset) : Charset := (a.union b).difference (a.inter b)

/-- The characters of some set of a list. -/
def unions (l : List Charset) : Charset := l.foldl union nothing

/-- Whether two intervals of a set meet at the surrogates. -/
def meetsAtSurrogates (s : Charset) : Bool :=
  (s.intervals.any fun i => i.last == '\ud7ff') && s.intervals.any fun i => i.first == '\ue000'

/-- What lies outside of a set as the classes of expressions have it: if two intervals meet at the
surrogates, the characters on both sides count as outside, too. -/
def outside (s : Charset) : Charset :=
  if s.meetsAtSurrogates then s.compl.union (interval '\ud7ff' '\ue000') else s.compl

/-- A set, or what lies outside of it. -/
def outsideIf (negated : Bool) (s : Charset) : Charset := if negated then s.outside else s

/-- The only character of a set, if it has exactly one. -/
def only? (s : Charset) : Option Char :=
  match s.intervals with
  | [i] => if i.first = i.last then some i.first else none
  | _ => none

/-- Whether a set holds ASCII characters only. -/
def isAscii (s : Charset) : Bool := s.intervals.all fun i => i.last.toNat < 0x80

/-! ## Sets from tables -/

/-- The set of the characters of some intervals of code points. -/
def ofRanges (ranges : List (Nat × Nat)) : Charset :=
  ofIntervals (ranges.map fun r => ⟨Char.ofNat r.1, Char.ofNat r.2⟩)

/-- The intervals of a run of code points. -/
def runIntervals (run : Text.CodeRun) : List Interval :=
  if run.stride = 1 then [⟨Char.ofNat run.first, Char.ofNat run.last⟩]
  else
    (List.range ((run.last - run.first) / run.stride + 1)).map fun k =>
      let c := Char.ofNat (run.first + k * run.stride)
      ⟨c, c⟩

/-- The characters of some general category of a list. -/
def ofCategories (ks : List Text.Category) : Charset :=
  unions (ks.map fun k => ofIntervals (k.runs.flatMap runIntervals))

end Charset

end Phrasebook
