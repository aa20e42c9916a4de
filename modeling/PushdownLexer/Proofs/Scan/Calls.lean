import PushdownLexer.Scan.Rule
import PushdownLexer.Scan.StateList

/-!
# Calls on nested states

Nested states change by calls that enter a state or leave one. What a call does can be told of
nested states, which a call that fails does not give back, and of their list, which is passed on
from each call to the next one whether it fails or not. Both tell the same: a call that fails leaves
the list as it was.

## Main definitions

* `NestingCall`, `NestingChange`: what can be asked for, and what is done if there is no failure.
* `Nesting.performAll`: make calls on nested states, one after the other.
* `StateList.performAll`: make calls on a list of states, which each call hands on to the next one.

## Main statements

* `StateList.perform_of_error`: a call that fails leaves the list as it was.
* `Nesting.perform_toStateList`, `Nesting.performAll_toStateList`: calls on the list of nested
  states do what they do on the nested states.
-/

namespace PushdownLexer

/-- A call on nested states; `place` is reported if it fails. -/
inductive NestingCall where
  | enter (state : String) (place : Position)
  | leave (place : Position)
  deriving DecidableEq, Repr

/-- What a call has done that did not fail. -/
inductive NestingChange where
  | entered (state : String)
  | left (state : String)
  deriving DecidableEq, Repr

namespace NestingChange

/-- Whether a state was entered. -/
def isEntered : NestingChange → Bool
  | entered _ => true
  | left _ => false

/-- Whether a state was left. -/
def isLeft : NestingChange → Bool
  | entered _ => false
  | left _ => true

end NestingChange

/-- What is asked for to follow a directive. -/
def Directive.call? (place : Position) : Directive → Option NestingCall
  | .stay => none
  | .leave => some (.leave place)
  | .enter state => some (.enter state place)

variable {calls : List NestingCall} {call : NestingCall} {change : NestingChange} {f : ScanFault}
  {place : Position} {state : String}

theorem eq_error_of_map {α β : Type} {answer : Except ScanFault α} {g : α → β}
    (h : answer.map g = .error f) : answer = .error f := by
  cases answer with
  | error f' => exact congrArg Except.error (Except.error.inj h)
  | ok a => cases h

namespace StateList

variable {s : StateList}

/-- Make a call: the answer, and the list after it. -/
def perform (s : StateList) : NestingCall → Except ScanFault NestingChange × StateList
  | .enter state place => (s.enter state place).map (Except.map fun _ => .entered state) id
  | .leave place => (s.leave place).map (Except.map .left) id

/-- Make calls one after the other, each on the list after the one before: the answers, and the last
list. -/
def performAll (s : StateList) :
    List NestingCall → List (Except ScanFault NestingChange) × StateList
  | [] => ([], s)
  | call :: calls =>
    (((s.perform call).2.performAll calls).1.cons (s.perform call).1,
      ((s.perform call).2.performAll calls).2)

/-- A call that fails leaves the list as it was. -/
theorem perform_of_error (h : (s.perform call).1 = .error f) : (s.perform call).2 = s := by
  cases call with
  | enter state place => exact enter_of_error (eq_error_of_map h)
  | leave place => exact leave_of_error (eq_error_of_map h)

/-- There is no room for a third state, and the second one can be left afterwards. -/
example :
    (single "root" 2).performAll [.enter "a" .origin, .enter "b" .origin, .leave .origin] =
      ([.ok (.entered "a"), .error (.tooDeep .origin "b" 2), .ok (.left "a")], ⟨["root"], 2⟩) := rfl

theorem performAll_append (s : StateList) (calls more : List NestingCall) :
    s.performAll (calls ++ more) =
      ((s.performAll calls).1 ++ ((s.performAll calls).2.performAll more).1,
        ((s.performAll calls).2.performAll more).2) := by
  induction calls generalizing s with
  | nil => rfl
  | cons call calls ih => rw [List.cons_append, performAll, performAll, ih, List.cons_append]

end StateList

namespace Nesting

variable {n n' m last : Nesting} {c d : List NestingChange}

/-- Make a call: what it does, and the states after it. -/
def perform (n : Nesting) : NestingCall → Except ScanFault (NestingChange × Nesting)
  | .enter state place => (n.enter state place).map fun n' => (.entered state, n')
  | .leave place => (n.leave place).map fun p => (.left p.1, p.2)

/-- Make calls one after the other: what they do, and the states after them. A call that fails
changes nothing. -/
def performAll (n : Nesting) : List NestingCall → List NestingChange × Nesting
  | [] => ([], n)
  | call :: calls =>
    match n.perform call with
    | .error _ => n.performAll calls
    | .ok (change, n') => ((n'.performAll calls).1.cons change, (n'.performAll calls).2)

theorem enter_of_perform (h : n.perform (.enter state place) = .ok (change, n')) :
    n.enter state place = .ok n' ∧ change = .entered state := by
  unfold perform at h
  cases henter : n.enter state place with
  | error f => simp [henter, Except.map] at h
  | ok m => simp_all [Except.map]

theorem leave_of_perform (h : n.perform (.leave place) = .ok (change, n')) :
    ∃ left, n.leave place = .ok (left, n') ∧ change = .left left := by
  unfold perform at h
  cases hleave : n.leave place with
  | error f => simp [hleave, Except.map] at h
  | ok p =>
    obtain ⟨left, m⟩ := p
    exact ⟨left, by simp_all [Except.map]⟩

theorem performAll_append (n : Nesting) (calls more : List NestingCall) :
    n.performAll (calls ++ more) =
      ((n.performAll calls).1 ++ ((n.performAll calls).2.performAll more).1,
        ((n.performAll calls).2.performAll more).2) := by
  induction calls generalizing n with
  | nil => rfl
  | cons call calls ih =>
    rw [List.cons_append, performAll, performAll]
    cases hcall : n.perform call with
    | error f => exact ih n
    | ok p => simp only [ih, List.cons_append]

theorem performAll_concat_of_error (h : (n.performAll calls).2.perform call = .error f) :
    n.performAll (calls ++ [call]) = n.performAll calls := by
  simp [performAll_append, performAll, h]

theorem performAll_concat_of_ok (h : (n.performAll calls).2.perform call = .ok (change, n')) :
    n.performAll (calls ++ [call]) = ((n.performAll calls).1 ++ [change], n') := by
  simp [performAll_append, performAll, h]

/-- Every change was made by a call, after the calls before it had made the changes before it. -/
theorem exists_call_of_performAll (h : n.performAll calls = (c ++ change :: d, last)) :
    ∃ before call between m m', calls = before ++ call :: between ∧
      n.performAll before = (c, m) ∧ m.perform call = .ok (change, m') ∧
      m'.performAll between = (d, last) := by
  induction calls generalizing n c with
  | nil => simp [performAll] at h
  | cons call calls ih =>
    rw [performAll] at h
    split at h
    · rename_i f hfails
      obtain ⟨before, call', between, m, m', rfl, hbefore, hcall, hbetween⟩ := ih h
      refine ⟨call :: before, call', between, m, m', rfl, ?_, hcall, hbetween⟩
      rw [performAll, hfails]
      exact hbefore
    · rename_i change' n' hdone
      obtain ⟨hchanges, hlast⟩ := Prod.ext_iff.1 h
      cases c with
      | nil =>
        obtain ⟨rfl, hrest⟩ := List.cons.inj hchanges
        exact ⟨[], call, calls, n, n', rfl, rfl, hdone, Prod.ext hrest hlast⟩
      | cons first c =>
        obtain ⟨rfl, hrest⟩ := List.cons.inj hchanges
        obtain ⟨before, call', between, m, m', rfl, hbefore, hcall, hbetween⟩ :=
          ih (Prod.ext hrest hlast)
        refine ⟨call :: before, call', between, m, m', rfl, ?_, hcall, hbetween⟩
        rw [performAll, hdone]
        simp only [hbefore]

/-! ## Calls on the list of nested states -/

/-- A call on the list of nested states is answered as on the nested states. If it fails, it leaves
the list as it was. -/
theorem perform_toStateList (n : Nesting) (call : NestingCall) :
    n.toStateList.perform call =
      match n.perform call with
      | .ok (change, n') => (.ok change, n'.toStateList)
      | .error f => (.error f, n.toStateList) := by
  cases call with
  | enter state place =>
    rw [StateList.perform, enter_toStateList, perform]
    cases n.enter state place <;> rfl
  | leave place =>
    rw [StateList.perform, leave_toStateList, perform]
    cases n.leave place <;> rfl

theorem performAll_of_perform (h : n.perform call = .ok (change, n')) :
    n.toStateList.performAll [call] = ([.ok change], n'.toStateList) := by
  rw [StateList.performAll, perform_toStateList, h]
  rfl

/-- Calls on the list of nested states, each on the list after the one before, do what they do on
the nested states. -/
theorem performAll_toStateList (n : Nesting) (calls : List NestingCall) :
    (n.toStateList.performAll calls).1.filterMap Except.toOption = (n.performAll calls).1 ∧
      (n.toStateList.performAll calls).2 = (n.performAll calls).2.toStateList := by
  induction calls generalizing n with
  | nil => exact ⟨rfl, rfl⟩
  | cons call calls ih =>
    rw [StateList.performAll, performAll, perform_toStateList]
    cases n.perform call with
    | error f => exact ih n
    | ok p =>
      obtain ⟨change, n'⟩ := p
      obtain ⟨hchanges, hlast⟩ := ih n'
      exact ⟨congrArg (List.cons change) hchanges, hlast⟩

end Nesting

end PushdownLexer
