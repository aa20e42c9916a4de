import PushdownLexer.Scan.Fault

/-!
# Nested states

A scan is always in a state. A state that is entered from another one is nested in it: leaving it
leads back. How deeply states may be nested is bounded.

## Main definitions

* `Nesting`: the active state and those around it.
* `Nesting.enter`, `Nesting.leave`: enter a state, leave the active one.
* `Nesting.toList`: the states from the outermost to the active one.
-/

namespace PushdownLexer

/-- The states that a scan is in. -/
structure Nesting where
  /-- The state entered last. -/
  active : String
  /-- The states around it, the nearest first. -/
  around : List String
  /-- The largest number of states. -/
  limit : Nat
  deriving DecidableEq, Repr, Inhabited

namespace Nesting

/-- One state; a limit of zero still leaves room for it. -/
def single (state : String) (maxDepth : Nat) : Nesting := ⟨state, [], max maxDepth 1⟩

/-- The number of states. -/
def depth (n : Nesting) : Nat := n.around.length + 1

/-- The states from the outermost to the active one. -/
def toList (n : Nesting) : List String := (n.active :: n.around).reverse

/-- Enter a state; `place` is reported if there is no room. -/
def enter (n : Nesting) (state : String) (place : Position) : Except ScanFault Nesting :=
  if n.limit ≤ n.depth then .error (.tooDeep place state n.limit)
  else .ok { n with active := state, around := n.active :: n.around }

/-- Leave the active state, which is given back too; the outermost state cannot be left. -/
def leave (n : Nesting) (place : Position) : Except ScanFault (String × Nesting) :=
  match n.around with
  | [] => .error (.outermost place n.active)
  | next :: around => .ok (n.active, { n with active := next, around })

@[simp] theorem toList_single (state : String) (maxDepth : Nat) :
    (single state maxDepth).toList = [state] := rfl

@[simp] theorem getLast?_toList (n : Nesting) : n.toList.getLast? = some n.active := by
  simp [toList]

theorem length_toList (n : Nesting) : n.toList.length = n.depth := by simp [toList, depth]

theorem toList_of_enter {n m : Nesting} {state : String} {place : Position}
    (h : n.enter state place = .ok m) : m.toList = n.toList ++ [state] := by
  unfold enter at h
  split at h <;> cases h
  simp [toList]

theorem toList_of_leave {n m : Nesting} {left : String} {place : Position}
    (h : n.leave place = .ok (left, m)) : n.toList = m.toList ++ [left] := by
  unfold leave at h
  split at h
  · cases h
  · rename_i hb
    cases h
    simp [toList, hb]

theorem limit_of_enter {n m : Nesting} {state : String} {place : Position}
    (h : n.enter state place = .ok m) : m.limit = n.limit := by
  unfold enter at h
  split at h <;> cases h
  rfl

theorem limit_of_leave {n m : Nesting} {left : String} {place : Position}
    (h : n.leave place = .ok (left, m)) : m.limit = n.limit := by
  unfold leave at h
  split at h <;> cases h
  rfl

end Nesting

end PushdownLexer
