import Phrasebook.Regex.Escape
import Phrasebook.Regex.Nesting

/-!
# Classes in brackets

A class in brackets is a set of characters that is written out: characters, ranges, sets with
names, and other classes, perhaps joined by the operators for intersection and difference. A class
is read with a stack of the classes that are open. A set that the flags do not allow does not end
the reading: the first one is kept as a complaint, since what is wrong with the form of the
expression counts before it.
-/

set_option autoImplicit false

namespace Phrasebook.Regex

/-! ## Members -/

/-- The members of a class that stand side by side. -/
structure Members where
  /-- Where they stand. -/
  mark : Mark
  /-- The set of each of them, the last one first. -/
  sets : List Charset := []
  /-- The nesting of all of them. -/
  nesting : Nesting := []
  deriving DecidableEq, Repr

/-- No members at a place. -/
def Members.noneAt (p : Position) : Members := { mark := ⟨p, p⟩ }

/-- The members with one more. -/
def Members.add (m : Members) (mark : Mark) (s : Charset) (nesting : Nesting) : Members :=
  { mark := ⟨if m.sets.isEmpty then mark.start else m.mark.start, mark.stop⟩
    sets := s :: m.sets
    nesting := m.nesting.beside nesting }

/-- A set that a class is made of by operators. -/
structure Operand where
  /-- Where it stands. -/
  mark : Mark
  /-- The set. -/
  set : Charset
  /-- Its nesting. -/
  nesting : Nesting
  deriving DecidableEq, Repr

/-- The set of members, with case variants. Several members together are one part around them. -/
def Members.operand (f : Flags) (m : Members) : Operand :=
  { mark := m.mark
    set := f.fold (.unions m.sets)
    nesting := if m.sets.length ≤ 1 then m.nesting else m.nesting.within m.mark }

/-! ## Operators -/

/-- An operator between sets. -/
inductive SetOperator where
  /-- What is in both sets. -/
  | intersection
  /-- What is in the first and not in the second. -/
  | difference
  /-- What is in exactly one. -/
  | symmetricDifference
  deriving DecidableEq, Repr

/-- The set that an operator makes of two sets. -/
def SetOperator.apply : SetOperator → Charset → Charset → Charset
  | .intersection => Charset.inter
  | .difference => Charset.difference
  | .symmetricDifference => Charset.symmetricDifference

/-- What an operator makes of the sets on its sides. -/
def SetOperator.join (op : SetOperator) (a b : Operand) : Operand :=
  let mark : Mark := ⟨a.mark.start, b.mark.stop⟩
  { mark, set := op.apply a.set b.set, nesting := (a.nesting.beside b.nesting).within mark }

/-! ## Open classes -/

/-- A class that is open. -/
structure OpenClass where
  /-- The part at which the class begins. -/
  opening : Mark
  /-- Whether the class is what lies outside of its members. -/
  negated : Bool
  /-- What stands before the last operator, and that operator. -/
  left : Option (Operand × SetOperator) := none
  /-- The members after the last operator. -/
  members : Members
  deriving DecidableEq, Repr

/-- The set that the class makes up as far as it is read. -/
def OpenClass.value (f : Flags) (o : OpenClass) : Operand :=
  match o.left with
  | none => o.members.operand f
  | some (a, op) => op.join a (o.members.operand f)

/-- The class after an operator that ends at a place. -/
def OpenClass.operate (f : Flags) (op : SetOperator) (stop : Position) (o : OpenClass) :
    OpenClass :=
  { o with left := some (o.value f, op), members := .noneAt stop }

/-- The reading of a class: the innermost open class, those around it, and the first complaint. -/
structure ClassReading where
  /-- What is left of the expression. -/
  cursor : Cursor
  /-- The innermost class that is open. -/
  inner : OpenClass
  /-- The open classes around it, from the inside to the outside. -/
  outer : List OpenClass := []
  /-- The first set that the flags do not allow. -/
  complaint : Option Fault
  deriving DecidableEq, Repr

/-- A set, or the empty set and a complaint if there is none yet. -/
def settle (complaint : Option Fault) (mark : Mark) :
    Except Cause Charset → Charset × Option Fault
  | .ok s => (s, complaint)
  | .error cause => (.nothing, complaint.or (some ⟨cause, mark, none⟩))

/-! ## Opening a class -/

/-- The members after the hyphens at a cursor, which stand for themselves, and the cursor after
them. Every turn takes a hyphen. -/
def leadingHyphens (verbose : Bool) : (turns : Nat) → Members → Cursor → Members × Cursor
  | 0, m, c => (m, c)
  | turns + 1, m, c =>
      if c.rest.head? = some '-' then
        leadingHyphens verbose turns (m.add c.character (.single '-') []) (c.advance verbose)
      else (m, c)

/-- The class that the bracket at a cursor opens, and the cursor after its first members. Hyphens
there stand for themselves, and so does a closing bracket if no hyphen comes before it. -/
def openClass (verbose : Bool) (c : Cursor) : Except Fault (OpenClass × Cursor) :=
  let start := c.position
  let inner := c.advance verbose
  let negated := inner.rest.head? == some '^'
  let first := if negated then inner.advance verbose else inner
  let (members, later) :=
    leadingHyphens verbose first.rest.length (.noneAt first.position) first
  match later.rest with
  | [] =>
      fault .classUnclosed (if members.sets.isEmpty then later.since start else ⟨start, start⟩)
  | x :: _ =>
      if members.sets.isEmpty && x == ']' then
        let after := later.advance verbose
        if after.rest.isEmpty then fault .classUnclosed (after.since start)
        else
          let members := members.add later.character (.single ']') []
          .ok ({ opening := after.since start, negated, members }, after)
      else .ok ({ opening := later.since start, negated, members }, later)

/-! ## Reading members -/

/-- A set of ASCII characters by its name between colons, if there is one at a cursor: whether its
complement is meant, the set, and the cursor after it. -/
def posixClass? (c : Cursor) : Option (Bool × Charset × Cursor) :=
  match c.after? "[:".toList with
  | none => none
  | some inner =>
      let negated := inner.rest.head? == some '^'
      let (name, stop) := (if negated then inner.bump else inner).gather false (· != ':')
      match Charset.posix.lookup name, stop.after? ":]".toList with
      | some s, some later => some (negated, s, later)
      | _, _ => none

/-- The item at a cursor within a class: an escape, or any character as itself. -/
def readMember (f : Flags) (c : Cursor) : Except Fault (Item × Cursor) :=
  match c.rest with
  | '\\' :: _ => readEscape f c
  | x :: _ => .ok (.literal x false, c.bump)
  | [] => fault .classUnclosed c.here

/-- The character that an item stands for as the boundary of a range. -/
def boundary (item : Item) (mark : Mark) : Except Fault Char :=
  match item with
  | .literal c _ => .ok c
  | _ => fault .rangeBoundary mark

/-- Whether a hyphen at a cursor joins two members: it does unless the class ends after it or
another hyphen follows. -/
def joins (verbose : Bool) (c : Cursor) : Bool :=
  c.rest.head? == some '-' &&
    (match c.glance verbose with
      | some x => x != ']' && x != '-'
      | none => true)

/-- The reading after one more member. -/
def ClassReading.take (r : ClassReading) (mark : Mark) (s : Except Cause Charset)
    (later : Cursor) : ClassReading :=
  let (s, complaint) := settle r.complaint mark s
  { r with
    cursor := later, complaint
    inner := { r.inner with members := r.inner.members.add mark s [] } }

/-- The reading after a range, given its first item. The cursor is after the hyphen. -/
def ClassReading.range (f : Flags) (r : ClassReading) (first : Item) (firstMark : Mark)
    (c : Cursor) : Except Fault ClassReading :=
  if c.rest.isEmpty then fault .classUnclosed r.inner.opening
  else
    match readMember f c with
    | .error e => .error e
    | .ok (last, later) =>
        let lastMark := later.since c.position
        let mark : Mark := ⟨firstMark.start, lastMark.stop⟩
        match boundary first firstMark, boundary last lastMark with
        | .error e, _ => .error e
        | .ok _, .error e => .error e
        | .ok low, .ok high =>
            if high < low then fault .rangeOrder mark
            else
              let (_, complaint) := settle r.complaint firstMark (first.charset f true)
              let (_, complaint) := settle complaint lastMark (last.charset f true)
              .ok ({ r with complaint }.take mark (.ok (.interval low high)) later)

/-- The reading after a member or a range. -/
def ClassReading.member (f : Flags) (r : ClassReading) : Except Fault ClassReading :=
  match readMember f r.cursor with
  | .error e => .error e
  | .ok (item, later) =>
      let mark := later.since r.cursor.position
      let next := later.skip f.verbose
      if next.rest.isEmpty then fault .classUnclosed r.inner.opening
      else if joins f.verbose next then r.range f item mark (next.advance f.verbose)
      else match item with
        | .edge _ => fault .escapeInClass mark
        | _ => .ok (r.take mark (item.charset f true) next)

/-! ## Reading a class -/

/-- The operators between sets, as they are written. -/
def setOperators : List (Text × SetOperator) :=
  [("&&".toList, .intersection), ("--".toList, .difference), ("~~".toList, .symmetricDifference)]

/-- The operator at a cursor, and the cursor after it. -/
def operator? (c : Cursor) : Option (SetOperator × Cursor) :=
  setOperators.findSome? fun entry => (c.after? entry.1).map fun later => (entry.2, later)

/-- A class that was read. -/
structure ClassFound where
  /-- The set. -/
  set : Charset
  /-- The nesting of the class. -/
  nesting : Nesting
  /-- The cursor after the class. -/
  cursor : Cursor
  /-- The first complaint. -/
  complaint : Option Fault

/-- The reading after the innermost class was closed: either a reading of the class around it, or
the outermost class. -/
def ClassReading.close (f : Flags) (r : ClassReading) : ClassReading ⊕ ClassFound :=
  let later := r.cursor.bump
  let mark := later.since r.inner.opening.start
  let value := r.inner.value f
  let outside : Except Cause Charset :=
    if r.inner.negated && !f.unicode then .error .partOfCharacter
    else .ok (value.set.outsideIf r.inner.negated)
  let (set, complaint) := settle r.complaint mark outside
  let nesting := value.nesting.within mark
  match r.outer with
  | [] => .inr { set, nesting, cursor := later, complaint }
  | around :: more =>
      .inl ⟨later, { around with members := around.members.add mark set nesting }, more,
        complaint⟩

/-- The reading after a bracket within a class: a set with a name between colons, or a class. -/
def ClassReading.open (f : Flags) (r : ClassReading) : Except Fault ClassReading :=
  match posixClass? r.cursor with
  | some (negated, s, later) =>
      .ok (r.take (later.since r.cursor.position) (f.negatedIf negated s) later)
  | none =>
      match openClass f.verbose r.cursor with
      | .error e => .error e
      | .ok (o, later) => .ok ⟨later, o, r.inner :: r.outer, r.complaint⟩

/-- Reads the rest of a class. Every turn takes at least one character, so that as many turns as
there are characters are enough. -/
def readClassFrom (f : Flags) : Nat → ClassReading → Except Fault ClassFound
  | 0, r => fault .classUnclosed r.inner.opening
  | turns + 1, r =>
      let r := { r with cursor := r.cursor.skip f.verbose }
      match r.cursor.rest with
      | [] => fault .classUnclosed r.inner.opening
      | '[' :: _ =>
          match r.open f with
          | .ok next => readClassFrom f turns next
          | .error e => .error e
      | ']' :: _ =>
          match r.close f with
          | .inl next => readClassFrom f turns next
          | .inr done => .ok done
      | _ =>
          match operator? r.cursor with
          | some (op, later) =>
              let inner := r.inner.operate f op later.position
              readClassFrom f turns { r with cursor := later, inner }
          | none =>
              match r.member f with
              | .ok next => readClassFrom f turns next
              | .error e => .error e

/-- The class at a cursor, which stands at its opening bracket. -/
def readClass (f : Flags) (complaint : Option Fault) (c : Cursor) : Except Fault ClassFound :=
  match openClass f.verbose c with
  | .error e => .error e
  | .ok (o, later) =>
      readClassFrom f (later.rest.length + 1) { cursor := later, inner := o, complaint }

end Phrasebook.Regex
