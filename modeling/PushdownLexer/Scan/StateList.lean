import PushdownLexer.Scan.Nesting

/-!
# Nested states in one list

Nested states can be kept in one list that grows and shrinks at its end. Such a list can be empty,
so what is read off its end has a default, and a call gives its answer together with the list after
it, also if it fails. The lists of nested states are never empty and answer as nested states do:
the defaults are not taken, and a call that fails leaves the list as it was.

## Main definitions

* `StateList`: a list of states, the outermost first, and the largest number of them.
* `StateList.enter`, `StateList.leave`: the answer of a call, and the list after it.
* `Nesting.toStateList`: the list of nested states.

## Main statements

* `Nesting.enter_toStateList`, `Nesting.leave_toStateList`: the list of nested states answers as
  these do, and becomes the list of what these become.
-/

namespace PushdownLexer

/-- A list of states, the outermost first. -/
structure StateList where
  states : List String
  /-- The largest number of states. -/
  limit : Nat
  deriving DecidableEq, Repr, Inhabited

variable {s : StateList} {f : ScanFault}

namespace StateList

/-- One state; a limit of zero still leaves room for it. -/
def single (state : String) (maxDepth : Nat) : StateList := ⟨[state], max maxDepth 1⟩

/-- The state entered last, or the empty name if there are no states. -/
def active (s : StateList) : String := s.states.getLast?.getD ""

/-- The number of states. -/
def depth (s : StateList) : Nat := s.states.length

/-- Enter a state; `place` is reported if there is no room. -/
def enter (s : StateList) (state : String) (place : Position) :
    Except ScanFault Unit × StateList :=
  if s.limit ≤ s.depth then (.error (.tooDeep place state s.limit), s)
  else (.ok (), { s with states := s.states ++ [state] })

/-- Leave the active state, which is given back; the outermost state cannot be left. -/
def leave (s : StateList) (place : Position) : Except ScanFault String × StateList :=
  if s.depth ≤ 1 then (.error (.outermost place s.active), s)
  else
    (match s.states.getLast? with
      | some left => .ok left
      | none => .error (.outermost place ""),
    { s with states := s.states.dropLast })

/-- As long as there are states, the active one is the last of them. -/
theorem getLast?_states (h : s.states ≠ []) : s.states.getLast? = some s.active := by
  simp [active, List.getLast?_eq_some_getLast h]

/-- As long as there are states, the active one can be left unless it is the only one. -/
theorem leave_of_ne_nil (h : s.states ≠ []) (place : Position) :
    s.leave place =
      if s.depth = 1 then (.error (.outermost place s.active), s)
      else (.ok s.active, { s with states := s.states.dropLast }) := by
  have hpos : 0 < s.depth := List.length_pos_iff.2 h
  have hone : s.depth ≤ 1 ↔ s.depth = 1 := by omega
  simp only [leave, getLast?_states h, hone]

theorem leave_of_one_lt (h : 1 < s.depth) (place : Position) :
    s.leave place = (.ok s.active, { s with states := s.states.dropLast }) := by
  have hstates : s.states ≠ [] := List.ne_nil_of_length_pos (Nat.zero_lt_of_lt h)
  rw [leave_of_ne_nil hstates, if_neg (Nat.ne_of_gt h)]

/-- If a state cannot be entered, the list is left as it was. -/
theorem enter_of_error {state : String} {place : Position}
    (h : (s.enter state place).1 = .error f) : (s.enter state place).2 = s := by
  unfold enter at h ⊢
  split at h
  · rename_i hfull
    rw [if_pos hfull]
  · cases h

/-- If no state can be left, the list is left as it was. -/
theorem leave_of_error {place : Position} (h : (s.leave place).1 = .error f) :
    (s.leave place).2 = s := by
  by_cases hup : s.depth ≤ 1
  · rw [leave, if_pos hup]
  · rw [leave_of_one_lt (Nat.not_le.1 hup)] at h
    cases h

end StateList

namespace Nesting

/-- The list of nested states. -/
def toStateList (n : Nesting) : StateList := ⟨n.toList, n.limit⟩

theorem toStateList_single (state : String) (maxDepth : Nat) :
    (single state maxDepth).toStateList = .single state maxDepth := rfl

@[simp] theorem states_toStateList (n : Nesting) : n.toStateList.states = n.toList := rfl

@[simp] theorem limit_toStateList (n : Nesting) : n.toStateList.limit = n.limit := rfl

@[simp] theorem active_toStateList (n : Nesting) : n.toStateList.active = n.active := by
  simp [StateList.active]

@[simp] theorem depth_toStateList (n : Nesting) : n.toStateList.depth = n.depth := n.length_toList

/-- Entering a state in the list is entering it. -/
theorem enter_toStateList (n : Nesting) (state : String) (place : Position) :
    n.toStateList.enter state place =
      match n.enter state place with
      | .ok n' => (.ok (), n'.toStateList)
      | .error f => (.error f, n.toStateList) := by
  rw [StateList.enter, depth_toStateList, limit_toStateList, enter]
  by_cases hroom : n.limit ≤ n.depth
  · rw [if_pos hroom, if_pos hroom]
  · rw [if_neg hroom, if_neg hroom]
    simp [toStateList, toList]

/-- Leaving the last state of the list is leaving the active one. -/
theorem leave_toStateList (n : Nesting) (place : Position) :
    n.toStateList.leave place =
      match n.leave place with
      | .ok (left, n') => (.ok left, n'.toStateList)
      | .error f => (.error f, n.toStateList) := by
  obtain ⟨active, around, limit⟩ := n
  cases around with
  | nil => rfl
  | cons next around =>
    rw [StateList.leave_of_one_lt (by simp [depth])]
    simp [toStateList, leave, toList, StateList.active]

end Nesting

end PushdownLexer
