import PushdownLexer.CharClass.CaseFold
import PushdownLexer.Pattern.Error

/-!
# Brackets

A bracket such as `[a-z&&[^aeiou]]` is read from left to right: its items are gathered in a set, and
an operation between sets waits for what stands to its right.

## Main definitions

* `Flags`: the flags in force.
* `Bracket`: an open bracket; `Bracket.addItem`, `Bracket.startOp`, `Bracket.close`.
-/

namespace PushdownLexer

/-- The flags that are in force at a place of a pattern. -/
structure Flags where
  ignoreCase : Bool := false
  multiLine : Bool := false
  dotAll : Bool := false
  swapGreed : Bool := false
  unicode : Bool := true
  crlf : Bool := false
  verbose : Bool := false
  deriving DecidableEq, Repr, Inhabited

/-- An operation between two sets in brackets. -/
inductive SetOp where
  | inter
  | diff
  | symmDiff
  deriving DecidableEq, Repr

/-- The operation of a doubled character. -/
def SetOp.ofChar? : Char → Option SetOp
  | '&' => some inter
  | '-' => some diff
  | '~' => some symmDiff
  | _ => none

/-- Apply an operation. -/
def SetOp.apply : SetOp → CharSet → CharSet → CharSet
  | inter, s, t => s.inter t
  | diff, s, t => s.diff t
  | symmDiff, s, t => s.symmDiff t

/-- The set with the other cases of its members, if the flags ignore case. -/
def Flags.fold (flags : Flags) (s : CharSet) : CharSet :=
  if !flags.ignoreCase then s
  else if flags.unicode then CharClass.foldCase s
  else CharClass.foldAsciiCase s

/-- The set or, if `negated`, the characters outside it. Without Unicode support a set ranges over
bytes, and one that goes beyond ASCII could match part of a character. -/
def Flags.negate (flags : Flags) (negated : Bool) (s : CharSet) : Except PatternError CharSet :=
  if flags.unicode then .ok (if negated then s.complement else s)
  else
    let s := if negated then s.complementBelow 0xFF else s
    if s.below 0x80 then .ok s else .error .invalidUtf8

/-- A set that still takes items, with the number of items and how deeply they are nested. -/
structure ItemSet where
  set : CharSet := CharSet.empty
  count : Nat := 0
  depth : Nat := 0
  deriving DecidableEq, Repr, Inhabited

/-- How deeply the items are nested, a list of two or more being a level of its own. -/
def ItemSet.nesting (items : ItemSet) : Nat :=
  if 1 < items.count then items.depth + 1 else items.depth

/-- An open bracket: whether it is negated, the operation that waits for its right side, and the
items since. -/
structure Bracket where
  negated : Bool := false
  waiting : Option (SetOp × CharSet × Nat) := none
  items : ItemSet := {}
  deriving DecidableEq, Repr, Inhabited

namespace Bracket

/-- Take an item. -/
def addItem (b : Bracket) (s : CharSet) (depth : Nat) : Bracket :=
  { b with items := ⟨s.union b.items.set, b.items.count + 1, max b.items.depth depth⟩ }

/-- The set so far, and how deeply it is nested. -/
def value (flags : Flags) (b : Bracket) : CharSet × Nat :=
  match b.waiting with
  | none => (b.items.set, b.items.nesting)
  | some (op, left, depth) =>
    (op.apply (flags.fold left) (flags.fold b.items.set), max depth b.items.nesting + 1)

/-- Begin an operation; operations bind equally and from the left. -/
def startOp (flags : Flags) (b : Bracket) (op : SetOp) : Bracket :=
  let (set, depth) := b.value flags
  { b with waiting := some (op, set, depth), items := {} }

/-- The set of the whole bracket, and how deeply it is nested. -/
def close (flags : Flags) (b : Bracket) : Except PatternError (CharSet × Nat) := do
  let (set, depth) := b.value flags
  return (← flags.negate b.negated (flags.fold set), depth + 1)

end Bracket

end PushdownLexer
