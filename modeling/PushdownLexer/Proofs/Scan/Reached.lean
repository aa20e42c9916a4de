import PushdownLexer.Proofs.Pattern.Threads
import PushdownLexer.Proofs.Scan.Calls
import PushdownLexer.Proofs.Scan.Step

/-!
# The machines that a scan comes to

A scan goes from one machine to the next by applying matches. All machines on its way satisfy one
invariant, `Machine.Consistent`: the states are the start state and states nested in it, all with
rules, the rules at hand are those of the active state, the cursor stands in the text, and the stall
count counts the matches of length zero made last.

## Main definitions

* `Move`: a match that was applied, with its rule and the cursor before it.
* `Reached`: the machines that a scan comes to, with the moves that led there.
* `Machine.Consistent`: the invariant.

## Main statements

* `Reached.consistent`: the invariant holds on the whole way.
* `scan_cases`: a scan ends at its start or with the last step of its way.
-/

namespace PushdownLexer

variable {κ : Type} {book : Rulebook κ} {settings : ScanSettings} {text : List Char}

/-- A match that was applied, with its rule and the cursor before it. -/
structure Move (κ : Type) where
  cursor : Cursor
  rule : Rule κ
  found : Match κ

namespace Move

/-- The offset of the cursor before a move. -/
def start (v : Move κ) : Nat := v.cursor.offset

/-- The offset of the cursor after a move. -/
def stop (v : Move κ) : Nat := v.found.cursor.offset

/-- The number of bytes of a move. -/
def length (v : Move κ) : Nat := v.found.length

/-- The token of a move, if it makes one. -/
def token? (v : Move κ) : Option (Token κ) := v.found.token

/-- The call on the nested states that a move makes, if it makes one. -/
def call? (v : Move κ) : Option NestingCall := v.found.directive.call? v.found.cursor.place

end Move

/-- The scan of `text` comes to a machine by certain moves, the last one first. -/
inductive Reached (book : Rulebook κ) (settings : ScanSettings) (text : List Char) :
    List (Move κ) → Machine κ → Prop where
  | start {m : Machine κ} (hstart : Machine.start book settings text = .goOn m) :
      Reached book settings text [] m
  | next {moves : List (Move κ)} {m t : Machine κ} {rule : Rule κ} {found : Match κ}
      {stalled : Nat} (hm : Reached book settings text moves m)
      (happlies : m.Applies rule found stalled)
      (hfollows : Machine.Follows book (m.moveOn rule found stalled) found.directive t) :
      Reached book settings text (⟨m.cursor, rule, found⟩ :: moves) t

namespace Machine

variable {m t : Machine κ}

/-! ## Starting and running -/

/-- The machine at the start of a text whose start state has rules. -/
def initial (book : Rulebook κ) (settings : ScanSettings) (text : List Char)
    (rules : List (Rule κ)) : Machine κ where
  cursor := Cursor.ofText text
  nesting := Nesting.single settings.startState settings.maxDepth
  rules
  stalled := 0
  tokens := []
  events := [.started (byteLength text) settings.startState book.size]

theorem start_cases (book : Rulebook κ) (settings : ScanSettings) (text : List Char) :
    (∃ rules, book.get? settings.startState = some rules ∧
        start book settings text = .goOn (initial book settings text rules)) ∨
      (book.get? settings.startState = none ∧
        start book settings text = .halt (failAfter
          [.started (byteLength text) settings.startState book.size]
          (.noSuchState .origin settings.startState))) := by
  simp only [start]
  split
  · rename_i f hlook
    obtain ⟨hrules, rfl⟩ := Rulebook.lookUp_eq_error_iff.1 hlook
    exact .inr ⟨hrules, rfl⟩
  · rename_i rules hlook
    exact .inl ⟨rules, Rulebook.lookUp_eq_ok_iff.1 hlook, rfl⟩

theorem eq_initial_of_start (h : start book settings text = .goOn m) :
    ∃ rules, book.get? settings.startState = some rules ∧
      m = initial book settings text rules := by
  obtain ⟨rules, hrules, hstart⟩ | ⟨-, hstart⟩ := start_cases book settings text
  · cases h.symm.trans hstart
    exact ⟨rules, hrules, rfl⟩
  · cases h.symm.trans hstart

theorem start_eq_initial {rules : List (Rule κ)} (h : book.get? settings.startState = some rules) :
    start book settings text = .goOn (initial book settings text rules) := by
  obtain ⟨rules', hrules, hstart⟩ | ⟨hnone, -⟩ := start_cases book settings text
  · cases h.symm.trans hrules
    exact hstart
  · cases h.symm.trans hnone

theorem run_of_goOn (h : m.step book settings = .goOn t) :
    m.run book settings = t.run book settings := by
  rw [run]
  split
  · rename_i hhalt
    cases h.symm.trans hhalt
  · rename_i hgo
    cases h.symm.trans hgo
    rfl

theorem run_of_halt {o : ScanOutcome κ} (h : m.step book settings = .halt o) :
    m.run book settings = o := by
  rw [run]
  split
  · rename_i hhalt
    cases h.symm.trans hhalt
    rfl
  · rename_i hgo
    cases h.symm.trans hgo

/-- The first `n` steps, each done by `next`. -/
def iterate (next : Machine κ → StepResult κ) : Nat → Machine κ → StepResult κ
  | 0, m => .goOn m
  | n + 1, m =>
    match next m with
    | .goOn t => iterate next n t
    | .halt o => .halt o

theorem iterate_of_goOn {next : Machine κ → StepResult κ} (h : next m = .goOn t) (n : Nat) :
    iterate next (n + 1) m = iterate next n t := by
  rw [iterate, h]

theorem iterate_of_halt {next : Machine κ → StepResult κ} {o : ScanOutcome κ}
    (h : next m = .halt o) (n : Nat) : iterate next (n + 1) m = .halt o := by
  rw [iterate, h]

/-- A run ends as soon as some number of steps does. -/
theorem run_of_iterate {n : Nat} {o : ScanOutcome κ}
    (h : iterate (step book settings) n m = .halt o) : m.run book settings = o := by
  induction n generalizing m with
  | zero => cases h
  | succ n ih =>
    cases hstep : m.step book settings with
    | goOn t =>
      rw [iterate_of_goOn hstep] at h
      rw [run_of_goOn hstep, ih h]
    | halt o' =>
      rw [iterate_of_halt hstep] at h
      cases h
      exact run_of_halt hstep

end Machine

/-- The result of a scan that ends after some number of steps. -/
theorem result_of_iterate {n : Nat} {m : Machine κ} {result : Except ScanFault (Scanned κ)}
    {events : List ScanEvent} (hstart : Machine.start book settings text = .goOn m)
    (hend : Machine.iterate (Machine.step book settings) n m = .halt ⟨result, events⟩) :
    (scan book settings text).result = result := by
  have hscan : scan book settings text = m.run book settings := by rw [scan, hstart]
  rw [hscan, Machine.run_of_iterate hend]

/-- From every machine on its way a scan comes to a last one. -/
theorem Reached.exists_last {moves : List (Move κ)} {m : Machine κ}
    (h : Reached book settings text moves m) :
    ∃ moves' last, Reached book settings text moves' last ∧
      last.step book settings = .halt (m.run book settings) := by
  induction m using Machine.run.induct book settings generalizing moves with
  | case1 m o hstep =>
    exact ⟨moves, m, h, by rw [Machine.run_of_halt hstep, hstep]⟩
  | case2 m t hstep ih =>
    obtain ⟨rule, found, stalled, happlies, hfollows⟩ := Machine.applies_of_step hstep
    rw [Machine.run_of_goOn hstep]
    exact ih (.next h happlies hfollows)

/-- A scan ends as the run from any machine on its way does. -/
theorem Reached.scan_eq {moves : List (Move κ)} {m : Machine κ}
    (h : Reached book settings text moves m) :
    scan book settings text = m.run book settings := by
  induction h with
  | start hstart => rw [scan, hstart]
  | next _ happlies hfollows ih =>
    rw [ih, Machine.run_of_goOn (happlies.step_eq.trans hfollows.follow_eq)]

/-- A scan that comes to a step that fails gives the fault of this step. -/
theorem Reached.result_eq_of_fails {moves : List (Move κ)} {m : Machine κ}
    {events : List ScanEvent} {f : ScanFault} (hm : Reached book settings text moves m)
    (h : m.Fails book settings events f) : (scan book settings text).result = .error f := by
  rw [hm.scan_eq, Machine.run_of_halt h.step_eq]
  rfl

/-- A scan ends at its start, which has no rules, or with the last step of its way. -/
theorem scan_cases (book : Rulebook κ) (settings : ScanSettings) (text : List Char) :
    (∃ moves last, Reached book settings text moves last ∧
        last.step book settings = .halt (scan book settings text)) ∨
      (book.get? settings.startState = none ∧
        scan book settings text = failAfter
          [.started (byteLength text) settings.startState book.size]
          (.noSuchState .origin settings.startState)) := by
  obtain ⟨rules, hrules, hstart⟩ | ⟨hrules, hstart⟩ := Machine.start_cases book settings text
  · rw [scan, hstart]
    exact .inl (Reached.exists_last (.start hstart))
  · rw [scan, hstart]
    exact .inr ⟨hrules, rfl⟩

/-- A scan whose start state has no rules fails at the start of its text. -/
theorem scan_of_get?_eq_none (h : book.get? settings.startState = none) :
    scan book settings text = failAfter
      [.started (byteLength text) settings.startState book.size]
      (.noSuchState .origin settings.startState) := by
  obtain ⟨rules, hrules, -⟩ | ⟨-, hstart⟩ := Machine.start_cases book settings text
  · cases h.symm.trans hrules
  · rw [scan, hstart]

/-- A scan that succeeds comes to the end of its text. -/
theorem exists_finished_of_scan {out : Scanned κ}
    (h : (scan book settings text).result = .ok out) :
    ∃ moves last, Reached book settings text moves last ∧
      last.step book settings = .halt (scan book settings text) ∧ last.cursor.atEnd = true ∧
      ¬ (settings.strict = true ∧ 1 < last.nesting.depth) ∧
      out = ⟨last.tokens.reverse, last.cursor.offset, last.nesting.active⟩ := by
  obtain ⟨moves, last, hlast, hstep⟩ | ⟨-, hscan⟩ := scan_cases book settings text
  · obtain ⟨hend, hopen, hscan⟩ | ⟨_, _, -, hscan⟩ := Machine.finished_or_fails_of_step hstep
    · rw [hscan] at h
      cases h
      exact ⟨moves, last, hlast, hstep, hend, hopen, rfl⟩
    · rw [hscan] at h
      cases h
  · rw [hscan] at h
    cases h

/-- A scan that fails has a start state without rules or comes to a step that fails. -/
theorem exists_fails_of_scan {f : ScanFault} (h : (scan book settings text).result = .error f) :
    (book.get? settings.startState = none ∧ f = .noSuchState .origin settings.startState) ∨
      ∃ moves last events, Reached book settings text moves last ∧
        last.step book settings = .halt (scan book settings text) ∧
        last.Fails book settings events f := by
  obtain ⟨moves, last, hlast, hstep⟩ | ⟨hrules, hscan⟩ := scan_cases book settings text
  · obtain ⟨-, -, hscan⟩ | ⟨events, f', hfails, hscan⟩ := Machine.finished_or_fails_of_step hstep
    · rw [hscan] at h
      cases h
    · rw [hscan] at h
      cases h
      exact .inr ⟨moves, last, events, hlast, hstep, hfails⟩
  · rw [hscan] at h
    cases h
    exact .inl ⟨hrules, rfl⟩

/-- Every move was made by a machine on the way. -/
theorem Reached.exists_of_mem {moves : List (Move κ)} {m : Machine κ} {v : Move κ}
    (h : Reached book settings text moves m) (hv : v ∈ moves) :
    ∃ moves' m', Reached book settings text moves' m' ∧ v.cursor = m'.cursor := by
  induction h with
  | start hstart => cases hv
  | @next moves m t rule found stalled hm happlies hfollows ih =>
    rcases List.mem_cons.1 hv with rfl | hv
    · exact ⟨moves, m, hm, rfl⟩
    · exact ih hv

/-- If some machine on the way stands where `p` holds, one of them is the first. -/
theorem Reached.exists_first {moves : List (Move κ)} {m : Machine κ} {p : Cursor → Prop}
    (h : Reached book settings text moves m) (hp : p m.cursor ∨ ∃ v ∈ moves, p v.cursor) :
    ∃ moves' m', Reached book settings text moves' m' ∧ p m'.cursor ∧
      ∀ v ∈ moves', ¬ p v.cursor := by
  induction h with
  | @start m hstart => exact ⟨[], m, .start hstart, by simpa using hp, by simp⟩
  | @next moves m t rule found stalled hm happlies hfollows ih =>
    by_cases hbefore : p m.cursor ∨ ∃ v ∈ moves, p v.cursor
    · exact ih hbefore
    · refine ⟨_, t, hm.next happlies hfollows, ?_, ?_⟩ <;> grind

/-! ## The invariant -/

/-- How many moves of length zero were made last. -/
def countStill (moves : List (Move κ)) : Nat := (moves.takeWhile (·.length = 0)).length

/-- What holds of every machine on the way of a scan. -/
structure Machine.Consistent (book : Rulebook κ) (settings : ScanSettings) (text : List Char)
    (moves : List (Move κ)) (m : Machine κ) : Prop where
  /-- The outermost state is the start state. -/
  outermost : m.nesting.toList.head? = some settings.startState
  limit : m.nesting.limit = max 1 settings.maxDepth
  depth_le : m.nesting.depth ≤ m.nesting.limit
  registered : ∀ state ∈ m.nesting.toList, book.contains state = true
  rules : book.get? m.nesting.active = some m.rules
  cursor : m.cursor.Within text
  stalled : m.stalled = countStill moves
  stalled_le : m.stalled ≤ m.stallLimit

namespace Machine

variable {m t : Machine κ} {moves : List (Move κ)} {rule : Rule κ} {found : Match κ}
  {stalled : Nat}

theorem Applies.moveBy (h : m.Applies rule found stalled) :
    m.cursor.moveBy found.length = .ok found.cursor :=
  moveBy_of_select? h.selected

/-- A match of length zero is applied only if it enters or leaves a state, and as long as the count
stays within its limit. -/
theorem Applies.still (h : m.Applies rule found stalled) (hz : found.length = 0) :
    found.directive ≠ .stay ∧ stalled = m.stalled + 1 ∧ stalled ≤ m.stallLimit := by
  have hcount := h.counted
  rw [countStalls?, if_pos hz] at hcount
  split at hcount
  · cases hcount
  · rename_i hpass
    cases hcount
    rw [not_or] at hpass
    exact ⟨hpass.1, rfl, Nat.le_of_not_lt hpass.2⟩

/-- A match of another length makes the count zero. -/
theorem Applies.moving (h : m.Applies rule found stalled) (hz : found.length ≠ 0) :
    stalled = 0 := by
  have hcount := h.counted
  rw [countStalls?, if_neg hz] at hcount
  cases hcount
  rfl

/-- What the count becomes, if the match is applied. -/
theorem Applies.stalled_eq (h : m.Applies rule found stalled) :
    stalled = if found.length = 0 then m.stalled + 1 else 0 := by
  by_cases hz : found.length = 0
  · rw [if_pos hz, (h.still hz).2.1]
  · rw [if_neg hz, h.moving hz]

namespace Follows

variable {d : Directive} (h : Follows book m d t)

include h

/-- Following a directive lets all but the states, the rules and the events alone. -/
theorem frame :
    t.cursor = m.cursor ∧ t.stalled = m.stalled ∧ t.tokens = m.tokens ∧
      t.nesting.limit = m.nesting.limit := by
  cases h <;> exact ⟨rfl, rfl, rfl, rfl⟩

theorem rules_eq (hm : book.get? m.nesting.active = some m.rules) :
    book.get? t.nesting.active = some t.rules := by
  cases h with
  | stay => exact hm
  | leave _ hrules => exact hrules
  | enter hrules _ => exact hrules

/-- Following a directive makes a call that does not fail, or none. -/
theorem exists_performAll (place : Position) :
    ∃ changes : List NestingChange, m.nesting.toStateList.performAll (d.call? place).toList =
      (changes.map .ok, t.nesting.toStateList) := by
  cases h with
  | stay => exact ⟨[], rfl⟩
  | @leave next around rules hup hrules =>
    have hleave : m.nesting.leave place = .ok (m.nesting.active, ⟨next, around, m.nesting.limit⟩) :=
      Nesting.leave_eq_ok_iff.2 ⟨rfl, next, around, hup, rfl⟩
    refine ⟨[.left m.nesting.active], Nesting.performAll_of_perform ?_⟩
    rw [Nesting.perform, hleave]
    rfl
  | @enter state rules hrules hroom =>
    have henter : m.nesting.enter state place =
        .ok ⟨state, m.nesting.active :: m.nesting.around, m.nesting.limit⟩ :=
      Nesting.enter_eq_ok_iff.2 ⟨hroom, rfl⟩
    refine ⟨[.entered state], Nesting.performAll_of_perform ?_⟩
    rw [Nesting.perform, henter]
    rfl

/-- Where a directive leads depends on the states only. -/
theorem exists_of_eq {n : Machine κ} (hnesting : n.nesting = m.nesting)
    (hrules : n.rules = m.rules) :
    ∃ u, Follows book n d u ∧ u.nesting = t.nesting ∧ u.rules = t.rules := by
  cases h with
  | stay => exact ⟨n, .stay, hnesting, hrules⟩
  | leave hup hrules' => exact ⟨_, .leave (hnesting ▸ hup) hrules', by rw [hnesting], rfl⟩
  | enter hrules' hroom => exact ⟨_, .enter hrules' (hnesting ▸ hroom), by rw [hnesting], rfl⟩

theorem depth_le (hm : m.nesting.depth ≤ m.nesting.limit) : t.nesting.depth ≤ t.nesting.limit := by
  cases h with
  | stay => exact hm
  | leave hup _ =>
    simp only [Nesting.depth, hup, List.length_cons] at hm ⊢
    omega
  | enter _ hroom => exact hroom

/-- The outermost state stays. -/
theorem head?_toList : t.nesting.toList.head? = m.nesting.toList.head? := by
  cases h with
  | stay => rfl
  | leave hup _ => simp [Nesting.toList, hup]
  | enter _ _ => simp [Nesting.toList]

/-- A state that is entered has rules. -/
theorem registered (hm : ∀ state ∈ m.nesting.toList, book.contains state = true) :
    ∀ state ∈ t.nesting.toList, book.contains state = true := by
  cases h with
  | stay => exact hm
  | leave hup _ =>
    intro state hstate
    simp only [Nesting.mem_toList, hup, List.mem_cons] at hm hstate
    exact hm state (.inr hstate)
  | enter hrules _ =>
    intro state hstate
    simp only [Nesting.mem_toList, List.mem_cons] at hm hstate
    rcases hstate with rfl | hstate
    · exact Rulebook.contains_iff.2 ⟨_, hrules⟩
    · exact hm state hstate

end Follows

/-! ### The invariant along a scan -/

/-- The only state is the start state. -/
theorem Consistent.toList_eq (hm : m.Consistent book settings text moves)
    (hup : m.nesting.around = []) : m.nesting.toList = [settings.startState] := by
  have hactive := hm.outermost
  simp only [Nesting.toList, hup, List.reverse_singleton, List.head?_cons] at hactive
  exact Nesting.toList_eq_singleton_iff.2 ⟨hup, Option.some.inj hactive⟩

/-- Of the list of states, the last one can be left unless it is the start state alone. -/
theorem Consistent.leave_toStateList (hm : m.Consistent book settings text moves)
    (place : Position) :
    m.nesting.toStateList.leave place =
      if m.nesting.toStateList.depth = 1 then
        (.error (.outermost place settings.startState), m.nesting.toStateList)
      else
        (.ok m.nesting.toStateList.active,
          { m.nesting.toStateList with states := m.nesting.toStateList.states.dropLast }) := by
  rw [StateList.leave_of_ne_nil (by simp [Nesting.toList])]
  split
  · rename_i hone
    have hup : m.nesting.around = [] := by simpa [Nesting.depth] using hone
    rw [Nesting.active_toStateList, (Nesting.toList_eq_singleton_iff.1 (hm.toList_eq hup)).2]
  · rfl

theorem countStill_cons (v : Move κ) (moves : List (Move κ)) :
    countStill (v :: moves) = if v.length = 0 then countStill moves + 1 else 0 := by
  by_cases hz : v.length = 0 <;> simp [countStill, hz]

theorem consistent_initial {rules : List (Rule κ)}
    (h : book.get? settings.startState = some rules) :
    (initial book settings text rules).Consistent book settings text [] where
  outermost := rfl
  limit := max_comm _ _
  depth_le := by simp [initial, Nesting.single, Nesting.depth]
  registered := by simpa [initial, Rulebook.contains_iff] using ⟨rules, h⟩
  rules := h
  cursor := Cursor.within_ofText text
  stalled := rfl
  stalled_le := Nat.zero_le _

theorem Consistent.next (hm : m.Consistent book settings text moves)
    (happlies : m.Applies rule found stalled)
    (hfollows : Follows book (m.moveOn rule found stalled) found.directive t) :
    t.Consistent book settings text (⟨m.cursor, rule, found⟩ :: moves) := by
  obtain ⟨hcursor, hstalled, -, hlimit⟩ := hfollows.frame
  have hlimit' : t.stallLimit = m.stallLimit := by
    rw [stallLimit, hlimit]
    rfl
  refine ⟨hfollows.head?_toList.trans hm.outermost, hlimit.trans hm.limit,
    hfollows.depth_le hm.depth_le, hfollows.registered hm.registered, hfollows.rules_eq hm.rules,
    ?_, ?_, ?_⟩
  · rw [hcursor]
    exact hm.cursor.moveBy happlies.moveBy
  · rw [hstalled, countStill_cons, ← hm.stalled]
    exact happlies.stalled_eq
  · rw [hstalled, hlimit']
    by_cases hz : found.length = 0
    · exact (happlies.still hz).2.2
    · exact (happlies.moving hz).trans_le (Nat.zero_le _)

end Machine

/-- The invariant holds on the whole way of a scan. -/
theorem Reached.consistent {moves : List (Move κ)} {m : Machine κ}
    (h : Reached book settings text moves m) : m.Consistent book settings text moves := by
  induction h with
  | start hstart =>
    obtain ⟨rules, hrules, rfl⟩ := Machine.eq_initial_of_start hstart
    exact Machine.consistent_initial hrules
  | next _ happlies hfollows ih => exact ih.next happlies hfollows

/-- The calls of the moves, made on a list of states that is passed on from each to the next one, do
not fail and lead to the list of the nested states. -/
theorem Reached.exists_performAll {moves : List (Move κ)} {m : Machine κ}
    (h : Reached book settings text moves m) :
    ∃ changes : List NestingChange,
      (StateList.single settings.startState settings.maxDepth).performAll
        (moves.reverse.filterMap Move.call?) = (changes.map .ok, m.nesting.toStateList) := by
  induction h with
  | start hstart =>
    obtain ⟨rules, -, rfl⟩ := Machine.eq_initial_of_start hstart
    exact ⟨[], rfl⟩
  | @next moves m t rule found stalled hm happlies hfollows ih =>
    obtain ⟨changes, hchanges⟩ := ih
    obtain ⟨more, hmore⟩ : ∃ more : List NestingChange, m.nesting.toStateList.performAll
        (Move.call? ⟨m.cursor, rule, found⟩).toList = (more.map .ok, t.nesting.toStateList) :=
      hfollows.exists_performAll found.cursor.place
    have hlast (v : Move κ) : [v].filterMap Move.call? = v.call?.toList := by
      cases hcall : v.call? <;> simp [hcall]
    refine ⟨changes ++ more, ?_⟩
    rw [List.reverse_cons, List.filterMap_append, hlast, StateList.performAll_append, hchanges]
    simp only [hmore, List.map_append]

/-! ## The invariant in full -/

/-- At every machine on the way of a scan: the states are the start state and the states nested in
it, as many as there may be and all with rules; the rules at hand are those of the active state; the
cursor stands between two characters and its place is that of its offset; the stall count is the
number of moves of length zero made last. So there always is a state on top, and leaving it leads
to a state with rules. A list of states that is passed on through the calls of the moves, none of
which fails, is the list of these states. Its defaults are not taken: it has a last state, which can
be left unless it is the start state at the bottom. -/
theorem reached_invariant {moves : List (Move κ)} {m : Machine κ}
    (h : Reached book settings text moves m) :
    m.nesting.toList.head? = some settings.startState ∧
      m.nesting.toList.getLast? = some m.nesting.active ∧
      m.nesting.toList.length = m.nesting.depth ∧
      1 ≤ m.nesting.depth ∧ m.nesting.depth ≤ max 1 settings.maxDepth ∧
      (∀ state ∈ m.nesting.toList, book.contains state = true) ∧
      book.get? m.nesting.active = some m.rules ∧
      (∃ passed, text = passed ++ m.cursor.rest ∧ m.cursor.offset = byteLength passed) ∧
      m.cursor.offset ≤ byteLength text ∧
      m.cursor.place = Position.ofOffset text m.cursor.offset ∧
      m.stalled = (moves.takeWhile (·.length = 0)).length ∧
      m.stalled ≤ min (2 * max 1 settings.maxDepth) maxWord ∧
      (∀ place left nesting, m.nesting.leave place = .ok (left, nesting) →
        m.nesting.toList.getLast? = some left ∧ nesting.toList = m.nesting.toList.dropLast ∧
          ∃ rules, book.lookUp nesting.active place = .ok rules) ∧
      ∃ (changes : List NestingChange) (s : StateList),
        (StateList.single settings.startState settings.maxDepth).performAll
          (moves.reverse.filterMap Move.call?) = (changes.map .ok, s) ∧
        s.states = m.nesting.toList ∧ s.states.getLast? = some s.active ∧
        ∀ place, s.leave place =
          if s.depth = 1 then (.error (.outermost place settings.startState), s)
          else (.ok s.active, { s with states := s.states.dropLast }) := by
  have hm := h.consistent
  have htop := m.nesting.getLast?_toList
  refine ⟨hm.outermost, htop, m.nesting.length_toList, Nat.le_add_left 1 _, hm.limit ▸ hm.depth_le,
    hm.registered, hm.rules, hm.cursor.boundary, hm.cursor.offset_le, hm.cursor.place_eq_ofOffset,
    hm.stalled, hm.limit ▸ hm.stalled_le, ?_, ?_⟩
  · intro place left nesting hleave
    have hlist := Nesting.toList_of_leave hleave
    obtain ⟨rfl, next, around, hup, rfl⟩ := Nesting.leave_eq_ok_iff.1 hleave
    refine ⟨htop, by simp [hlist], ?_⟩
    have hnext : book.contains next = true := by
      apply hm.registered
      simp [Nesting.mem_toList, hup]
    obtain ⟨rules, hrules⟩ := Rulebook.contains_iff.1 hnext
    exact ⟨rules, Rulebook.lookUp_eq_ok_iff.2 hrules⟩
  · obtain ⟨changes, hcalls⟩ := h.exists_performAll
    exact ⟨changes, m.nesting.toStateList, hcalls, rfl, by simp, hm.leave_toStateList⟩

/-- Rules for a word after brackets. Each bracket enters a state; in front of the word all of these
are left and another one is entered, without moving. -/
def brackets : Rulebook String where
  entries := [
    ("root", [
      ⟨"\\(", atCursor (.literal ['(']), .enter "inner", fun _ => none⟩,
      ⟨"", atCursor .empty, .enter "word", fun _ => none⟩]),
    ("inner", [
      ⟨"\\(", atCursor (.literal ['(']), .enter "inner", fun _ => none⟩,
      ⟨"", atCursor .empty, .leave, fun _ => none⟩]),
    ("word", [⟨"a", atCursor (.literal ['a']), .stay, some⟩])]

/-- Two brackets are passed, and three moves of length zero lead to the word. -/
theorem invariant_of_brackets :
    ∃ moves m, Reached brackets {} ['(', '(', 'a'] moves m ∧
      moves.map Move.length = [0, 0, 0, 1, 1] ∧ m.nesting.toList = ["root", "word"] ∧
      m.nesting.toList.getLast? = some m.nesting.active ∧
      m.cursor.place = Position.ofOffset ['(', '(', 'a'] m.cursor.offset ∧
      m.stalled = (moves.takeWhile (·.length = 0)).length ∧ m.stalled = 3 := by
  have start : Reached brackets {} ['(', '(', 'a'] [] _ := .start rfl
  have first := start.next ⟨rfl, rfl, rfl⟩ (.enter rfl (by decide))
  have second := first.next ⟨rfl, rfl, rfl⟩ (.enter rfl (by decide))
  have out := (second.next ⟨rfl, rfl, rfl⟩ (.leave rfl rfl)).next ⟨rfl, rfl, rfl⟩ (.leave rfl rfl)
  have word := out.next ⟨rfl, rfl, rfl⟩ (.enter rfl (by decide))
  obtain ⟨-, htop, -, -, -, -, -, -, -, hplace, hstalled, -⟩ := reached_invariant word
  exact ⟨_, _, word, rfl, rfl, htop, hplace, hstalled, rfl⟩

end PushdownLexer
