import PushdownLexer.Pattern.ByteRange
import PushdownLexer.Pattern.Expr
import Std.Data.TreeMap

/-!
# The room that a pattern takes

A pattern is matched with two tables of rows, one that reads a text forwards and one that reads it
backwards. The footprint of a table follows from the expression row by row: a row takes 32 bytes,
each link of a fork four bytes more, and each range of bytes in a branch eight bytes more. A pattern
has room if each of its tables takes at most 10 MiB.

A set with other characters than ASCII is a net of branches, in which equal branches are one row as
far as a memory of fixed size still knows them.

## Main definitions

* `Footprint`: the size of a table; `Footprint.addSet`, `Footprint.addWords`: sets, and alternatives
  that are all literals.
* `Expr.addTo`: the table of an expression.
* `Expr.hasRoom`: whether both tables of an expression are within the limit.
-/

namespace PushdownLexer

/-- The direction in which a table reads a text. -/
inductive Direction where
  | forward
  | backward
  deriving DecidableEq, Repr

/-- The size of a table: its rows, and the bytes of their links and ranges. -/
structure Footprint where
  rows : Nat := 0
  extra : Nat := 0
  deriving DecidableEq, Repr

namespace Footprint

/-- The number of bytes. -/
def bytes (t : Footprint) : Nat := 32 * t.rows + t.extra

/-- The number of bytes that a table may take: 10 MiB. -/
def maxBytes : Nat := 10485760

/-- Whether a table is within the limit. -/
def hasRoom (t : Footprint) : Bool := t.bytes ≤ maxBytes

/-- Add plain rows. -/
def addRows (t : Footprint) (count : Nat) : Footprint := { t with rows := t.rows + count }

/-- Add links to a fork. -/
def addLinks (t : Footprint) (count : Nat) : Footprint := { t with extra := t.extra + 4 * count }

/-- Go on from a row, which takes a link if the row is a fork. -/
def goOn (t : Footprint) (fork : Bool) : Footprint := if fork then t.addLinks 1 else t

/-- Add a branch, a row with ranges of bytes. -/
def addBranch (t : Footprint) (ranges : Nat) : Footprint :=
  ⟨t.rows + 1, t.extra + 8 * ranges⟩

end Footprint

/-- The place of a key in a memory with `size` places. Each number of the key is mixed in by an
exclusive or and a multiplication. -/
def memoryPlace (size : Nat) (key : List Nat) : Nat :=
  let mix (h : UInt64) (n : Nat) : UInt64 := (h ^^^ n.toUInt64) * 1099511628211
  (key.foldl mix 14695981039346656037).toNat % size

/-- A memory of rows by the keys they were made for. A place holds one row, the last one put
there. -/
structure RowMemory where
  size : Nat
  places : Std.TreeMap Nat (List Nat × Nat) := ∅

namespace RowMemory

/-- The row for a key, if the memory still knows it. -/
def get? (m : RowMemory) (key : List Nat) : Option Nat :=
  match m.places.get? (memoryPlace m.size key) with
  | some (known, row) => if known = key then some row else none
  | none => none

/-- Put the row for a key in its place. -/
def put (m : RowMemory) (key : List Nat) (row : Nat) : RowMemory :=
  { m with places := m.places.insert (memoryPlace m.size key) (key, row) }

end RowMemory

/-- A table that is being added to, with the memory of its rows. -/
structure SharedTable where
  table : Footprint
  memory : RowMemory

/-- The row for a key: one that is known, or a new branch with `ranges` ranges, or a plain row if
there is just one range to follow. -/
def SharedTable.row (s : SharedTable) (key : List Nat) (ranges : Option Nat) :
    SharedTable × Nat :=
  match s.memory.get? key with
  | some row => (s, row)
  | none =>
    let table := match ranges with
      | some n => s.table.addBranch n
      | none => s.table.addRows 1
    (⟨table, s.memory.put key s.table.rows⟩, s.table.rows)

/-- A branch that still takes ranges: the finished ones with the rows they lead to, the last one
first and each as three numbers, and the range whose row is still open. -/
structure OpenBranch where
  done : List (List Nat) := []
  last : Option ByteRange := none
  deriving DecidableEq, Repr

/-- The branch with its open range leading to a row. -/
def OpenBranch.close (b : OpenBranch) (row : Nat) : OpenBranch :=
  match b.last with
  | some r => ⟨[r.lo, r.hi, row] :: b.done, none⟩
  | none => b

/-- The row of a branch without an open range. -/
def SharedTable.branch (s : SharedTable) (b : OpenBranch) : SharedTable × Nat :=
  s.row b.done.reverse.flatten (some b.done.length)

/-- Close all but the outermost `keep + 1` branches, the innermost of which comes first and leads to
`row`. -/
def closeBranches (keep row : Nat) (s : SharedTable) :
    List OpenBranch → SharedTable × List OpenBranch
  | [] => (s, [])
  | b :: outer =>
    let b := b.close row
    if keep < outer.length then
      let (s, row) := s.branch b
      closeBranches keep row s outer
    else (s, b :: outer)

/-- Open branches for the ranges of a sequence that the outer branches do not have. -/
def openBranches (ranges : List ByteRange) (branches : List OpenBranch) : List OpenBranch :=
  match ranges, branches with
  | r :: rest, b :: outer =>
    rest.foldl (fun bs r => ⟨[], some r⟩ :: bs) ({ b with last := some r } :: outer)
  | _, _ => branches

/-- The number of ranges at the front of a sequence that are open in the branches, the outermost of
which comes first. -/
def sharedRanges : List ByteRange → List OpenBranch → Nat
  | r :: ranges, b :: branches => if b.last = some r then sharedRanges ranges branches + 1 else 0
  | _, _ => 0

/-- Add the rows of a set for reading forwards. Sequences that begin alike share branches, and equal
branches are shared as far as they are known. -/
def Footprint.addForward (t : Footprint) (s : CharSet) : Footprint :=
  let target := t.rows
  let start : SharedTable × List OpenBranch := (⟨t.addRows 1, ⟨10000, ∅⟩⟩, [{}])
  let (table, branches) := s.byteSequences.foldl
    (fun (table, branches) ranges =>
      let keep := sharedRanges ranges branches.reverse
      let (table, branches) := closeBranches keep target table branches
      (table, openBranches (ranges.drop keep) branches))
    start
  let (table, branches) := closeBranches 0 target table branches
  match branches with
  | root :: _ => (table.branch root).1.table
  | [] => table.table

/-- Add the rows of a set for reading backwards: a fork to the sequences, which share what they have
in common at their beginnings as far as it is known. -/
def Footprint.addBackward (t : Footprint) (s : CharSet) : Footprint :=
  let target := t.rows + 1
  let start : SharedTable := ⟨t.addRows 2, ⟨1000, ∅⟩⟩
  let table := s.byteSequences.foldl
    (fun table ranges =>
      let (table, _) := ranges.foldl
        (fun (table, row) r => table.row [row, r.lo, r.hi] none) (table, target)
      { table with table := table.table.addLinks 1 })
    start
  table.table

/-- Add the rows of a set. -/
def Footprint.addSet (dir : Direction) (t : Footprint) (s : CharSet) : Footprint :=
  if s.below 0x80 then (t.addRows 1).addBranch s.ranges.length
  else
    match dir with
    | .forward => t.addForward s
    | .backward => t.addBackward s

/-- A knot of a tree of words: the bytes that lead on since a word last ended here, with the knots
they lead to, and for each word that ended here the number of bytes that led on since the one before
it. -/
structure Knot where
  next : List (Nat × Nat) := []
  closed : List Nat := []
  deriving DecidableEq, Repr, Inhabited

namespace Knot

/-- The numbers of bytes that lead on, between the words that end here. -/
def counts (k : Knot) : List Nat := k.next.length :: k.closed

/-- Whether nothing leads on. -/
def isLeaf (k : Knot) : Bool := k.counts.all (· == 0)

/-- Let a word end here. The second word to end at a leaf changes nothing. -/
def endWord (k : Knot) : Knot :=
  if k.isLeaf && !k.closed.isEmpty then k else ⟨[], k.counts⟩

/-- Add the rows of a knot: a fork, and branches for the bytes that lead on. -/
def addTo (k : Knot) (t : Footprint) : Footprint :=
  if k.isLeaf then t
  else
    let counts := k.counts.filter (0 < ·)
    let t := counts.foldl (fun t n => if n = 1 then t.addRows 1 else t.addBranch n) t
    (t.addRows 1).addLinks (counts.length + k.closed.length)

end Knot

/-- Add a word to a tree, whose first knot is the root. -/
def addWord (tree : Array Knot) (word : List Nat) : Array Knot :=
  let (tree, last) := word.foldl
    (fun (tree, here) byte =>
      match (tree.getD here {}).next.lookup byte with
      | some there => (tree, there)
      | none =>
        ((tree.modify here fun k => { k with next := (byte, tree.size) :: k.next }).push {},
          tree.size))
    (tree, 0)
  tree.modify last Knot.endWord

/-- Add the rows of alternatives that are all literals: their tree, and a row to end in. -/
def Footprint.addWords (t : Footprint) (words : List (List Nat)) : Footprint :=
  (words.foldl addWord #[{}]).foldl (fun t k => k.addTo t) (t.addRows 1)

namespace Expr

/-- The bytes of the alternatives in the direction of reading, if all of them are literals. -/
def words? (dir : Direction) : Expr → Option (List (List Nat))
  | literal cs =>
    let bytes := cs.flatMap fun c => utf8Bytes c.toNat
    some [match dir with
      | .forward => bytes
      | .backward => bytes.reverse]
  | alt a b => (words? dir a).bind fun u => (words? dir b).map (u ++ ·)
  | _ => none

/-- Add `count` more copies of something, one after the other. A table that is beyond the limit
stays so and need not grow on. -/
def addCopies (copy : Footprint → Footprint × Bool) : Nat → Footprint × Bool → Footprint × Bool
  | 0, s => s
  | count + 1, (t, fork) =>
    if !t.hasRoom then (t, fork)
    else addCopies copy count ((copy t).1.goOn fork, (copy t).2)

/-- Add the rows by which one of several alternatives goes on: a link of their fork to it, and after
the second one the rows of the fork and of the common end. Of an expression by itself, for which
`later` is `none`, nothing is added. -/
def endChoice (later : Option Bool) (s : Footprint × Bool) : Footprint × Bool :=
  match later with
  | none => s
  | some placed =>
    let t := (s.1.goOn s.2).addLinks 1
    (if placed then t else t.addRows 2, false)

/-- Add the rows of an expression, and tell whether the last one is a fork. `later` is `none` for an
expression by itself; for the alternatives after the first one of an alternation it tells whether
the fork of the alternation has its row. -/
def addTo (dir : Direction) : Expr → Option Bool → Footprint → Footprint × Bool
  | empty, later, t | look _, later, t => endChoice later (t.addRows 1, false)
  | literal cs, later, t => endChoice later (t.addRows (byteLength cs), false)
  | set s, later, t => endChoice later (t.addSet dir s, false)
  | group _ e, later, t =>
    endChoice later <|
      match dir with
      | .forward =>
        let (t, fork) := addTo dir e none (t.addRows 1)
        ((t.goOn fork).addRows 1, false)
      | .backward => addTo dir e none t
  | cat a b, later, t =>
    endChoice later <|
      match dir with
      | .forward =>
        let (t, fork) := addTo dir a none t
        let (t, fork') := addTo dir b none t
        (t.goOn fork, fork')
      | .backward =>
        let (t, fork) := addTo dir b none t
        let (t, fork') := addTo dir a none t
        (t.goOn fork, fork')
  | alt a b, some placed, t =>
    addTo dir b (some true) (endChoice (some placed) (addTo dir a none t)).1
  | alt a b, none, t =>
    match words? dir (alt a b) with
    | some words => (t.addWords words, false)
    | none => addTo dir b (some false) (endChoice (some true) (addTo dir a none t)).1
  | rounds e 0 none _, later, t =>
    endChoice later <|
      if (e.minLength.getD 0) != 0 then
        let (t, fork) := addTo dir e none (t.addRows 1)
        ((t.goOn fork).addLinks 1, true)
      else
        let (t, fork) := addTo dir e none t
        (((t.goOn fork).addRows 3).addLinks 4, false)
  | rounds e (least + 1) none _, later, t =>
    let (t, fork) := addCopies (addTo dir e none) least (addTo dir e none t)
    endChoice later (((t.goOn fork).addRows 1).addLinks 1, true)
  | rounds e least (some most) _, later, t =>
    let optional (t : Footprint) : Footprint × Bool :=
      let (t, fork) := addTo dir e none (t.addRows 1)
      (t.addLinks 2, fork)
    endChoice later <|
      if least = 0 ∧ most = 1 then
        let (t, fork) := optional t
        ((t.goOn fork).addRows 1, false)
      else
        let (t, fork) := match least with
          | 0 => (t.addRows 1, false)
          | n + 1 => addCopies (addTo dir e none) n (addTo dir e none t)
        if least = most then (t, fork)
        else
          let (t, fork) := addCopies optional (most - least) (t.addRows 1, fork)
          (t.goOn fork, false)

/-- Whether every match begins where a condition holds. -/
def beginsAt (l : Look) : Expr → Bool
  | look l' => l' = l
  | group _ e => beginsAt l e
  | rounds e least _ _ => 0 < least && beginsAt l e
  | cat a b => beginsAt l a || (a.onlyEmpty && beginsAt l b)
  | alt a b => beginsAt l a && beginsAt l b
  | _ => false

/-- Whether every match ends where a condition holds. -/
def endsAt (l : Look) : Expr → Bool
  | look l' => l' = l
  | group _ e => endsAt l e
  | rounds e least _ _ => 0 < least && endsAt l e
  | cat a b => endsAt l b || (b.onlyEmpty && endsAt l a)
  | alt a b => endsAt l a && endsAt l b
  | _ => false

/-- The size of the table of an expression. Unless a match can only begin at the end of the text
where the table begins to read, a loop over any byte stands in front; at the end stands a row for
the match. -/
def footprint (dir : Direction) (e : Expr) : Footprint :=
  let anchored := match dir with
    | .forward => e.beginsAt .textStart
    | .backward => e.endsAt .textEnd
  let front : Footprint := {}
  let front := if anchored then front.addRows 1 else ((front.addRows 2).addBranch 1).addLinks 2
  let (t, fork) := addTo dir (.group 0 e) none front
  (t.goOn fork).addRows 1

/-- A number of bytes that neither table of the expression goes beyond. -/
def footprintBound : Expr → Nat
  | empty | look _ => 64
  | literal cs => 128 * (byteLength cs + 1)
  | set s => 4096 * (s.ranges.length + 1)
  | group _ e => footprintBound e + 128
  | rounds e least most _ => (footprintBound e + 128) * (max least (most.getD 0) + 1)
  | cat a b | alt a b => footprintBound a + footprintBound b + 128

/-- Whether both tables of the expression are within the limit. Most expressions are so small that
their tables need not be counted row by row. -/
def hasRoom (e : Expr) : Bool :=
  footprintBound e + 1024 ≤ Footprint.maxBytes ||
    ((e.footprint .forward).hasRoom && (e.footprint .backward).hasRoom)

end Expr

end PushdownLexer
