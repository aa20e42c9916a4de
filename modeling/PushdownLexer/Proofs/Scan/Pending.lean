import Mathlib.Data.List.DropRight
import Mathlib.Data.List.Induction
import PushdownLexer.Proofs.Scan.Calls
import PushdownLexer.Proofs.Scan.Step

/-!
# Nested states are those entered and not left

The states that a scan is in are kept in a list that grows and shrinks at one end. Told by what was
done to it, it is the first state and, in order, every state that was entered and not left. A state
has been left if at some later point more states have been left than entered since.

Calls that fail may come in between. They are those that would leave the first state or go beyond
the limit, and they change nothing. All of this is so as well if the list is passed on from call to
call, also by those that fail.

## Main definitions

* `Leaves`, `pending`: changes leave a state entered before them; the states that are not left.

## Main statements

* `pending_append`: changes after others take off the states that they leave and add their own.
* `Nesting.toList_performAll`: the states after calls are those entered and not left.
* `Nesting.states_after_calls`: this, with when a call fails and what leaving a state undoes.
-/

namespace PushdownLexer

variable {changes c d : List NestingChange} {state initial : String} {k maxDepth : Nat}

/-! ## States that are not left -/

/-- The changes leave a state that was entered right before them: at some point, more states have
been left in them than entered. -/
def Leaves (changes : List NestingChange) : Prop :=
  ∃ front, front <+: changes ∧
    front.countP NestingChange.isEntered < front.countP NestingChange.isLeft

/-- How many states entered before them the changes leave. -/
def surplus : List NestingChange → Nat
  | [] => 0
  | .entered _ :: changes => surplus changes - 1
  | .left _ :: changes => surplus changes + 1

theorem lt_surplus_iff :
    k < surplus changes ↔ ∃ front, front <+: changes ∧
      front.countP NestingChange.isEntered + k < front.countP NestingChange.isLeft := by
  induction changes generalizing k with
  | nil => simp [surplus]
  | cons change changes ih =>
    simp only [List.prefix_cons_iff, or_and_right, exists_or, exists_eq_left, List.countP_nil,
      Nat.not_lt_zero, false_or]
    cases change with
    | entered state =>
      have hlt : k < surplus (.entered state :: changes) ↔ k + 1 < surplus changes := by
        rw [surplus]
        omega
      rw [hlt, ih]
      simp [List.countP_cons, NestingChange.isEntered, NestingChange.isLeft, Nat.add_right_comm,
        Nat.add_assoc]
    | left state =>
      cases k with
      | zero =>
        have hpos : 0 < surplus (.left state :: changes) := Nat.succ_pos _
        simp only [hpos, true_iff]
        exact ⟨[.left state], ⟨[], rfl, List.nil_prefix⟩, Nat.one_pos⟩
      | succ k =>
        have hlt : k + 1 < surplus (.left state :: changes) ↔ k < surplus changes := by
          rw [surplus]
          omega
        rw [hlt, ih]
        simp [List.countP_cons, NestingChange.isEntered, NestingChange.isLeft, ← Nat.add_assoc]

theorem leaves_iff : Leaves changes ↔ 0 < surplus changes := by
  rw [lt_surplus_iff]
  rfl

instance : Decidable (Leaves changes) := decidable_of_iff _ leaves_iff.symm

/-- The states that are entered and not left, in order. -/
def pending : List NestingChange → List String
  | [] => []
  | .entered state :: changes =>
    if Leaves changes then pending changes else state :: pending changes
  | .left _ :: changes => pending changes

theorem pending_entered (state : String) (changes : List NestingChange) :
    pending (.entered state :: changes) =
      if surplus changes = 0 then state :: pending changes else pending changes := by
  simp only [pending, leaves_iff, Nat.pos_iff_ne_zero, ite_not]

/-- Changes after others take off the states that they leave and add their own. -/
theorem pending_append (c d : List NestingChange) :
    pending (c ++ d) = (pending c).rdrop (surplus d) ++ pending d ∧
      surplus (c ++ d) = surplus c + (surplus d - (pending c).length) := by
  induction c with
  | nil => simp [pending, surplus]
  | cons change c ih =>
    obtain ⟨ihpending, ihsurplus⟩ := ih
    cases change with
    | entered state =>
      simp only [List.cons_append, pending_entered, surplus, ihsurplus, ihpending]
      by_cases hc : surplus c = 0
      · by_cases hd : surplus d ≤ (pending c).length
        · have hlength : (pending c).length + 1 - surplus d =
              (pending c).length - surplus d + 1 := by omega
          simp [hc, List.rdrop, hlength, Nat.sub_eq_zero_of_le hd]
          omega
        · have hall : (pending c).length + 1 - surplus d = 0 := by omega
          have hall' : (pending c).length - surplus d = 0 := by omega
          have hmore : surplus d - (pending c).length ≠ 0 := by omega
          simp [hc, List.rdrop, hall, hall', hmore]
          omega
      · have hmore : surplus c + (surplus d - (pending c).length) ≠ 0 := by omega
        simp only [hc, hmore, if_false, true_and]
        omega
    | left state =>
      rw [List.cons_append, pending, pending, surplus, surplus, ihsurplus]
      exact ⟨ihpending, by omega⟩

/-- A state is the last one that is not left if the changes after it leave neither it nor any other
state behind. -/
theorem exists_of_getLast?_pending (h : (pending changes).getLast? = some state) :
    ∃ c d, changes = c ++ .entered state :: d ∧ ¬ Leaves d ∧ pending d = [] := by
  induction changes with
  | nil => cases h
  | cons change changes ih =>
    have hlater (h : (pending changes).getLast? = some state) :
        ∃ c d, change :: changes = c ++ .entered state :: d ∧ ¬ Leaves d ∧ pending d = [] := by
      obtain ⟨c, d, rfl, hd⟩ := ih h
      exact ⟨change :: c, d, rfl, hd⟩
    cases change with
    | left other => exact hlater h
    | entered other =>
      by_cases hleaves : Leaves changes
      · rw [pending, if_pos hleaves] at h
        exact hlater h
      · rw [pending, if_neg hleaves] at h
        cases hpending : pending changes with
        | nil =>
          rw [hpending] at h
          cases h
          exact ⟨[], changes, rfl, hleaves, hpending⟩
        | cons first others =>
          rw [hpending, List.getLast?_cons_cons, ← hpending] at h
          exact hlater h

theorem pending_append_entered (hd : ¬ Leaves d) (hpending : pending d = []) :
    pending (c ++ .entered state :: d) = pending c ++ [state] := by
  have hsurplus : surplus d = 0 := by
    rw [leaves_iff] at hd
    omega
  rw [(pending_append _ _).1, pending_entered, surplus, hsurplus, if_pos rfl, hpending,
    Nat.zero_sub, List.rdrop_zero]

theorem pending_append_left (c : List NestingChange) (state : String) :
    pending (c ++ [.left state]) = (pending c).dropLast := by
  rw [(pending_append _ _).1, pending, pending, List.append_nil, List.dropLast_eq_take]
  rfl

namespace Nesting

variable {n n' m : Nesting} {calls : List NestingCall} {place : Position} {left : String}

/-! ## The states after calls -/

theorem eq_of_toList_eq (htoList : n.toList = m.toList) (hlimit : n.limit = m.limit) : n = m := by
  have hstates := List.reverse_injective htoList
  cases n
  cases m
  simp_all

/-- After any calls, the states are the first one and those entered and not left, no more than the
limit. -/
theorem toList_performAll (initial : String) (maxDepth : Nat) (calls : List NestingCall) :
    ((single initial maxDepth).performAll calls).2.toList =
        initial :: pending ((single initial maxDepth).performAll calls).1 ∧
      ((single initial maxDepth).performAll calls).2.limit = max 1 maxDepth ∧
      ((single initial maxDepth).performAll calls).2.depth ≤ max 1 maxDepth := by
  -- By induction on the calls, one more at the end: each change at the end of the list of changes
  -- is one at the end of the list of states.
  induction calls using List.reverseRecOn with
  | nil => exact ⟨rfl, max_comm _ _, le_max_left _ _⟩
  | append_singleton calls call ih =>
    obtain ⟨hlist, hlimit, hdepth⟩ := ih
    cases hcall : ((single initial maxDepth).performAll calls).2.perform call with
    | error f => simpa only [performAll_concat_of_error hcall] using ⟨hlist, hlimit, hdepth⟩
    | ok p =>
      obtain ⟨change, n'⟩ := p
      rw [performAll_concat_of_ok hcall]
      generalize (single initial maxDepth).performAll calls = run at hlist hlimit hdepth hcall
      cases call with
      | enter state place =>
        obtain ⟨henter, rfl⟩ := enter_of_perform hcall
        have hroom := (enter_eq_ok_iff.1 henter).1
        refine ⟨?_, (limit_of_enter henter).trans hlimit, ?_⟩
        · rw [toList_of_enter henter, hlist, pending_append_entered (by decide) rfl]
          rfl
        · rw [← length_toList, toList_of_enter henter, List.length_append, length_toList,
            ← hlimit]
          exact hroom
      | leave place =>
        obtain ⟨left, hleave, rfl⟩ := leave_of_perform hcall
        have hstates := toList_of_leave hleave
        refine ⟨?_, (limit_of_leave hleave).trans hlimit, ?_⟩
        · have hdrop : n'.toList = (initial :: pending run.1).dropLast := by
            rw [← hlist, hstates, List.dropLast_concat]
          rw [pending_append_left, hdrop, List.dropLast_cons_of_ne_nil]
          intro hnil
          simp [hnil, toList] at hdrop
        · have hlength := congrArg List.length hstates
          rw [List.length_append, length_toList, length_toList, List.length_singleton] at hlength
          have hless : n'.depth ≤ run.2.depth := by omega
          exact hless.trans hdepth

/-- Leaving a state leads back to the states that it was entered from. -/
theorem exists_entered_of_leave
    (hleave : ((single initial maxDepth).performAll calls).2.leave place = .ok (left, n')) :
    (pending ((single initial maxDepth).performAll calls).1).getLast? = some left ∧
      ∃ before place' between m d, calls = before ++ .enter left place' :: between ∧
        ((single initial maxDepth).performAll before).2 = n' ∧ n'.enter left place' = .ok m ∧
        m.performAll between = (d, ((single initial maxDepth).performAll calls).2) ∧
        ¬ Leaves d ∧ pending d = [] := by
  obtain ⟨hlist, hlimit, -⟩ := toList_performAll initial maxDepth calls
  have hstates := toList_of_leave hleave
  have hlast : (pending ((single initial maxDepth).performAll calls).1).getLast? = some left := by
    have hconcat : initial :: pending ((single initial maxDepth).performAll calls).1 =
        n'.toList ++ [left] := hlist.symm.trans hstates
    cases hpending : pending ((single initial maxDepth).performAll calls).1 with
    | nil => simp [hpending, List.cons_eq_append_iff, toList] at hconcat
    | cons first others =>
      rw [← List.getLast?_cons_cons (a := initial), ← hpending, hconcat, List.getLast?_concat]
  obtain ⟨c, d, hchanges, hd, hpending⟩ := exists_of_getLast?_pending hlast
  obtain ⟨before, call, between, m, m', rfl, hbefore, hcall, hbetween⟩ :=
    exists_call_of_performAll (Prod.ext hchanges rfl)
  refine ⟨hlast, ?_⟩
  cases call with
  | leave place =>
    obtain ⟨_, -, hchange⟩ := leave_of_perform hcall
    cases hchange
  | enter state place' =>
    obtain ⟨henter, hchange⟩ := enter_of_perform hcall
    cases hchange
    -- The states before the call are those that are left now, but for the last of them.
    obtain ⟨hlist', hlimit', -⟩ := toList_performAll initial maxDepth before
    rw [hbefore] at hlist' hlimit'
    rw [hstates, hchanges, pending_append_entered hd hpending, ← List.cons_append,
      List.append_left_inj] at hlist
    have hm : m = n' := eq_of_toList_eq (hlist'.trans hlist.symm)
      (hlimit'.trans (hlimit.symm.trans (limit_of_leave hleave).symm))
    subst hm
    exact ⟨before, place', between, m', d, rfl, by rw [hbefore], henter, hbetween, hd, hpending⟩

/-- After any calls on nested states that start with one state:

* the states are the first one and those entered and not left, in order, at least one and no more
  than the limit, and the active one is the last of them;
* a state cannot be entered exactly if there are as many as the limit, and none can be left exactly
  if there is one only; a call that fails changes nothing;
* the state that can be left is the last one that was entered and not left, and leaving it leads
  back to the states that it was entered from. -/
theorem states_after_calls (initial : String) (maxDepth : Nat) (calls : List NestingCall)
    (changes : List NestingChange) (n : Nesting)
    (h : (single initial maxDepth).performAll calls = (changes, n)) :
    n.toList = initial :: pending changes ∧
      n.toList.getLast? = some n.active ∧
      n.toList.length = n.depth ∧
      1 ≤ n.toList.length ∧ n.toList.length ≤ max 1 maxDepth ∧
      (∀ state place f, n.enter state place = .error f ↔
        n.toList.length = max 1 maxDepth ∧ f = .tooDeep place state (max 1 maxDepth)) ∧
      (∀ place f, n.leave place = .error f ↔
        n.toList.length = 1 ∧ f = .outermost place initial) ∧
      (∀ call f, n.perform call = .error f →
        (single initial maxDepth).performAll (calls ++ [call]) = (changes, n)) ∧
      (∀ place left n', n.leave place = .ok (left, n') →
        (pending changes).getLast? = some left ∧
          ∃ before place' between m d, calls = before ++ .enter left place' :: between ∧
            ((single initial maxDepth).performAll before).2 = n' ∧
            n'.enter left place' = .ok m ∧ m.performAll between = (d, n) ∧
            ¬ Leaves d ∧ pending d = []) ∧
      ∃ answers s, (StateList.single initial maxDepth).performAll calls = (answers, s) ∧
        answers.filterMap Except.toOption = changes ∧
        s.states = n.toList ∧ s.states.getLast? = some s.active ∧
        (∀ call f, (s.perform call).1 = .error f ↔ n.perform call = .error f) ∧
        (∀ call f, (s.perform call).1 = .error f → (s.perform call).2 = s) ∧
        ∀ call change n', n.perform call = .ok (change, n') →
          (s.perform call).1 = .ok change ∧ (s.perform call).2.states = n'.toList := by
  obtain ⟨hlist, hlimit, hdepth⟩ := toList_performAll initial maxDepth calls
  rw [h] at hlist hlimit hdepth
  have hlength := n.length_toList
  have hone : n.toList.length = 1 ↔ n.around = [] := by simp [hlength, depth]
  have hpos : 1 ≤ n.toList.length := by simp [hlength, depth]
  refine ⟨hlist, n.getLast?_toList, hlength, hpos, hlength ▸ hdepth, ?_, ?_, ?_, ?_, ?_⟩
  · intro state place f
    rw [enter_eq_error_iff, hlimit, hlength]
    grind
  · intro place f
    rw [leave_eq_error_iff, hone]
    refine and_congr_right fun hup => ?_
    have hactive : n.active = initial := by
      simp only [toList, hup, List.reverse_singleton] at hlist
      exact (List.cons.inj hlist).1
    rw [hactive]
  · intro call f hfails
    rw [← h]
    exact performAll_concat_of_error (by rw [h]; exact hfails)
  · intro place left n' hleave
    have hlast : ((single initial maxDepth).performAll calls).2.leave place = .ok (left, n') := by
      rw [h]
      exact hleave
    have hentered := exists_entered_of_leave hlast
    rwa [h] at hentered
  · obtain ⟨hchanges, hlast⟩ := performAll_toStateList (single initial maxDepth) calls
    rw [toStateList_single, h] at hchanges hlast
    refine ⟨_, n.toStateList, Prod.ext rfl hlast, hchanges, rfl, by simp, fun call f => ?_,
      fun call f => StateList.perform_of_error, fun call change n' hdone => ?_⟩
    · rw [perform_toStateList]
      cases n.perform call <;> simp
    · rw [perform_toStateList, hdone]
      exact ⟨rfl, rfl⟩

/-- With room for two states, a state is entered and left, then a second one is entered, and there
is no room for a third one. The second one can be left. -/
theorem states_after_four_calls :
    (single "root" 2).performAll
        [.enter "a" .origin, .leave .origin, .enter "b" .origin, .enter "c" .origin] =
        ([.entered "a", .left "a", .entered "b"], ⟨"b", ["root"], 2⟩) ∧
      (⟨"b", ["root"], 2⟩ : Nesting).toList =
        "root" :: pending [.entered "a", .left "a", .entered "b"] ∧
      (∀ state place f, (⟨"b", ["root"], 2⟩ : Nesting).enter state place = .error f ↔
        f = .tooDeep place state 2) ∧
      (⟨"b", ["root"], 2⟩ : Nesting).leave .origin = .ok ("b", ⟨"root", [], 2⟩) ∧
      (pending [.entered "a", .left "a", .entered "b"]).getLast? = some "b" := by
  have hcalls : (single "root" 2).performAll
      [.enter "a" .origin, .leave .origin, .enter "b" .origin, .enter "c" .origin] =
        ([.entered "a", .left "a", .entered "b"], ⟨"b", ["root"], 2⟩) := rfl
  have hleave : (⟨"b", ["root"], 2⟩ : Nesting).leave .origin = .ok ("b", ⟨"root", [], 2⟩) := rfl
  obtain ⟨hlist, -, -, -, -, henter, -, -, hback, -⟩ := states_after_calls _ _ _ _ _ hcalls
  refine ⟨hcalls, hlist, fun state place f => ?_, hleave, (hback _ _ _ hleave).1⟩
  exact (henter state place f).trans (and_iff_right rfl)

end Nesting

end PushdownLexer
