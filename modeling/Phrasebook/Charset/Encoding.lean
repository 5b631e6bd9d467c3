import Phrasebook.Charset.Basic
import Phrasebook.Text.Utf8

/-!
# The encoding of sets

The encodings of the characters of a set are the byte strings of some products of byte intervals.
`Charset.byteStrings` lists these products, each of which has one interval for each byte, in the
order of the characters. Two machines can be built from them: one that reads the bytes forwards
shares the ends of the products, and one that reads them backwards shares their beginnings.
`Charset.forwardSize` and `backwardSize` are the sizes of these machines.
-/

set_option autoImplicit false

namespace Phrasebook

/-! ## Products of byte intervals -/

/-- A closed interval of bytes. -/
structure ByteInterval where
  /-- The least byte. -/
  first : UInt8
  /-- The greatest byte. -/
  last : UInt8
  deriving DecidableEq, Repr

/-- The byte strings that have one byte of each interval. -/
abbrev ByteProduct := List ByteInterval

/-- The number of characters whose encodings differ in the last `k` bytes only. -/
def blockSize : Nat → Nat
  | 0 => 1
  | k + 1 => 64 * blockSize k

/-- Cuts an interval of code points with encodings of one length so that the encodings of every
piece make up a product: the last `k` bytes of a piece take all values, or else the bytes before
them take one. -/
def cutBlocks : (k : Nat) → (first last : Nat) → List (Nat × Nat)
  | 0, first, last => [(first, last)]
  | k + 1, first, last =>
      let block := blockSize (k + 1)
      if first / block = last / block then cutBlocks k first last
      else
        let start := (first + block - 1) / block * block
        let stop := (last + 1) / block * block
        (if first < start then cutBlocks k first (start - 1) else []) ++
          (if start < stop then [(start, stop - 1)] else []) ++
          (if stop ≤ last then cutBlocks k stop last else [])

/-- The intervals of the characters with encodings of one length, each with the number of bytes
after the first one. The surrogates cut the third of them in two. -/
def encodingLengths : List (Nat × Nat × Nat) :=
  [(0, 0x7F, 0), (0x80, 0x7FF, 1), (0x800, 0xD7FF, 2), (0xE000, 0xFFFF, 2),
   (0x10000, 0x10FFFF, 3)]

/-- The product of the encodings from the one of a character to the one of another. -/
def productBetween (first last : Nat) : ByteProduct :=
  List.zipWith ByteInterval.mk (String.utf8EncodeChar (Char.ofNat first))
    (String.utf8EncodeChar (Char.ofNat last))

/-- The products of the encodings of an interval of characters. -/
def Interval.byteStrings (i : Interval) : List ByteProduct :=
  encodingLengths.flatMap fun (low, high, more) =>
    let first := Nat.max low i.first.toNat
    let last := Nat.min high i.last.toNat
    if first ≤ last then
      (cutBlocks more first last).map fun piece => productBetween piece.1 piece.2
    else []

namespace Charset

/-- The products of the encodings of a set. -/
def byteStrings (s : Charset) : List ByteProduct := s.intervals.flatMap Interval.byteStrings

/-! ## Reading backwards -/

/-- How many intervals two products have in common at the start. -/
def sharedStart (p q : ByteProduct) : Nat := ((p.zip q).takeWhile fun x => x.1 = x.2).length

/-- The number of places in products that differ from those before them, given the last product
before. Products that begin in the same way come one after the other, so that the last one before
shares most. -/
def placesAfter (before : ByteProduct) : List ByteProduct → Nat
  | [] => 0
  | p :: more => (p.length - sharedStart before p) + placesAfter p more

/-- The size of a machine that reads encodings backwards: a branch to every product, a common end,
and a state for every place. -/
def backwardSize (s : Charset) : Nat :=
  let products := s.byteStrings
  32 + 4 * products.length + 32 + 32 * placesAfter [] products

/-! ## Reading forwards -/

/-- The states of a machine that reads forwards, each with its transitions. A transition leads to
the end if its number is zero, and else to the state that comes next to last by that number. -/
abbrev States := List (List (ByteInterval × Nat))

/-- The number of the state with some transitions, which is added if there is none yet. -/
def States.number (states : States) (transitions : List (ByteInterval × Nat)) : Nat × States :=
  match states.findIdx? fun t => t = transitions with
  | some k => (states.length - k, states)
  | none => (states.length + 1, transitions :: states)

/-- The number of the state that reads products of at most `length` bytes, with the states that it
needs. -/
def stateOf : (length : Nat) → List ByteProduct → States → Nat × States
  | 0, _, states => (0, states)
  | length + 1, products, states =>
      let groups := products.splitBy fun p q => p.head? = q.head?
      let (transitions, states) := groups.foldl
        (fun (found, states) group =>
          match group with
          | (i :: _) :: _ =>
              let rests := (group.map List.tail).filter fun p => !p.isEmpty
              let (target, states) :=
                if rests.isEmpty then (0, states) else stateOf length rests states
              (found ++ [(i, target)], states)
          | _ => (found, states))
        (([] : List (ByteInterval × Nat)), states)
      states.number transitions

/-- The size of a machine that reads encodings forwards: a common end, and states with their
transitions. -/
def forwardSize (s : Charset) : Nat :=
  (stateOf 4 s.byteStrings []).2.foldl (fun n t => n + 32 + 8 * t.length) 32

/-! ## Both directions -/

/-- The size of a machine for a set. A set of ASCII characters takes two states in either
direction. -/
def machineSize (backward : Bool) (s : Charset) : Nat :=
  if s.isAscii then 64 + 8 * s.intervals.length
  else if backward then s.backwardSize
  else s.forwardSize

end Charset

end Phrasebook
