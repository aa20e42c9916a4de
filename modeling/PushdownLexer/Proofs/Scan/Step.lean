import PushdownLexer.Proofs.Scan.Selection

/-!
# What a step of a scan can do

A step applies a match and follows its directive, or it ends the scan. Every way to do so is written
down here once, so that what holds of all steps is proved by going through the ways.

## Main definitions

* `Machine.Applies`: the rule and the match that a step applies.
* `Machine.Follows`, `Machine.Blocked`: where following a directive leads, and why it leads nowhere.
* `Machine.Fails`: the faults that a step can end with.

## Main statements

* `Machine.applies_of_step`: the steps that lead on.
* `Machine.finished_or_fails_of_step`: the steps that end the scan.
-/

namespace PushdownLexer

variable {κ : Type} {book : Rulebook κ} {settings : ScanSettings} {place : Position}
  {state left : String} {rules : List (Rule κ)} {f : ScanFault}

/-! ## Looking up and nesting -/

namespace Rulebook

theorem lookUp_eq_ok_iff : book.lookUp state place = .ok rules ↔ book.get? state = some rules := by
  unfold lookUp
  cases book.get? state <;> simp

theorem lookUp_eq_error_iff :
    book.lookUp state place = .error f ↔
      book.get? state = none ∧ f = .noSuchState place state := by
  unfold lookUp
  cases book.get? state <;> simp [eq_comm]

theorem contains_iff : book.contains state = true ↔ ∃ rules, book.get? state = some rules := by
  simp [contains, Option.isSome_iff_exists]

end Rulebook

namespace Nesting

variable {n n' : Nesting}

theorem mem_toList : state ∈ n.toList ↔ state = n.active ∨ state ∈ n.around := by
  simp [toList, or_comm]

theorem toList_eq_singleton_iff : n.toList = [state] ↔ n.around = [] ∧ n.active = state := by
  rw [toList, List.reverse_eq_iff, List.reverse_singleton, List.cons.injEq, and_comm]

theorem leave_eq_ok_iff :
    n.leave place = .ok (left, n') ↔
      left = n.active ∧
        ∃ next around, n.around = next :: around ∧ n' = ⟨next, around, n.limit⟩ := by
  unfold leave
  cases n.around with
  | nil => simp
  | cons next around => simp [eq_comm]

theorem leave_eq_error_iff :
    n.leave place = .error f ↔ n.around = [] ∧ f = .outermost place n.active := by
  unfold leave
  cases n.around <;> simp [eq_comm]

theorem enter_eq_ok_iff :
    n.enter state place = .ok n' ↔
      n.depth < n.limit ∧ n' = ⟨state, n.active :: n.around, n.limit⟩ := by
  unfold enter
  split <;> simp <;> grind

theorem enter_eq_error_iff :
    n.enter state place = .error f ↔ n.limit ≤ n.depth ∧ f = .tooDeep place state n.limit := by
  unfold enter
  split <;> simp <;> grind

end Nesting

namespace Machine

variable {m t : Machine κ} {rule : Rule κ} {found : Match κ} {stalled : Nat} {d : Directive}
  {o : ScanOutcome κ}

/-! ## Directives -/

/-- Where following a directive leads. -/
inductive Follows (book : Rulebook κ) (m : Machine κ) : Directive → Machine κ → Prop where
  | stay : Follows book m .stay m
  | leave {next : String} {around : List String} {rules : List (Rule κ)}
      (hup : m.nesting.around = next :: around) (hrules : book.get? next = some rules) :
      Follows book m .leave
        { m with
          nesting := ⟨next, around, m.nesting.limit⟩
          rules
          events := .left m.nesting.active next :: m.events }
  | enter {state : String} {rules : List (Rule κ)}
      (hrules : book.get? state = some rules) (hroom : m.nesting.depth < m.nesting.limit) :
      Follows book m (.enter state)
        { m with
          nesting := ⟨state, m.nesting.active :: m.nesting.around, m.nesting.limit⟩
          rules
          events := .entered state (m.nesting.depth + 1) :: m.events }

/-- Why following a directive leads nowhere, with the events before. -/
inductive Blocked (book : Rulebook κ) (m : Machine κ) :
    Directive → List ScanEvent → ScanFault → Prop where
  | outermost (hup : m.nesting.around = []) :
      Blocked book m .leave m.events (.outermost m.cursor.place m.nesting.active)
  /-- The state that is left to has no rules. -/
  | nowhere {next : String} {around : List String}
      (hup : m.nesting.around = next :: around) (hrules : book.get? next = none) :
      Blocked book m .leave (.left m.nesting.active next :: m.events)
        (.noSuchState m.cursor.place next)
  | noSuchState {state : String} (hrules : book.get? state = none) :
      Blocked book m (.enter state) m.events (.noSuchState m.cursor.place state)
  | tooDeep {state : String} {rules : List (Rule κ)} (hrules : book.get? state = some rules)
      (hroom : m.nesting.limit ≤ m.nesting.depth) :
      Blocked book m (.enter state) m.events (.tooDeep m.cursor.place state m.nesting.limit)

theorem Follows.follow_eq (h : Follows book m d t) : m.follow book d = .goOn t := by
  cases h with
  | stay => rfl
  | @leave next around rules hup hrules =>
    have hleave : m.nesting.leave m.cursor.place =
        .ok (m.nesting.active, ⟨next, around, m.nesting.limit⟩) :=
      Nesting.leave_eq_ok_iff.2 ⟨rfl, next, around, hup, rfl⟩
    simp only [follow, Machine.leave, hleave, Rulebook.lookUp_eq_ok_iff.2 hrules]
  | @enter state rules hrules hroom =>
    have henter : m.nesting.enter state m.cursor.place =
        .ok ⟨state, m.nesting.active :: m.nesting.around, m.nesting.limit⟩ :=
      Nesting.enter_eq_ok_iff.2 ⟨hroom, rfl⟩
    simp only [follow, Machine.enter, henter, Rulebook.lookUp_eq_ok_iff.2 hrules]
    rfl

theorem Blocked.follow_eq {events : List ScanEvent} (h : Blocked book m d events f) :
    m.follow book d = .halt (failAfter events f) := by
  cases h with
  | outermost hup =>
    have hleave : m.nesting.leave m.cursor.place =
        .error (.outermost m.cursor.place m.nesting.active) :=
      Nesting.leave_eq_error_iff.2 ⟨hup, rfl⟩
    simp only [follow, Machine.leave, hleave, abort]
  | @nowhere next around hup hrules =>
    have hleave : m.nesting.leave m.cursor.place =
        .ok (m.nesting.active, ⟨next, around, m.nesting.limit⟩) :=
      Nesting.leave_eq_ok_iff.2 ⟨rfl, next, around, hup, rfl⟩
    simp only [follow, Machine.leave, hleave, Rulebook.lookUp_eq_error_iff.2 ⟨hrules, rfl⟩, abort]
  | noSuchState hrules =>
    simp only [follow, Machine.enter, Rulebook.lookUp_eq_error_iff.2 ⟨hrules, rfl⟩, abort]
  | @tooDeep state rules hrules hroom =>
    have henter : m.nesting.enter state m.cursor.place =
        .error (.tooDeep m.cursor.place state m.nesting.limit) :=
      Nesting.enter_eq_error_iff.2 ⟨hroom, rfl⟩
    simp only [follow, Machine.enter, henter, Rulebook.lookUp_eq_ok_iff.2 hrules, abort]

/-- Following a directive leads on or is blocked. -/
theorem follows_or_blocked (book : Rulebook κ) (m : Machine κ) (d : Directive) :
    (∃ t, Follows book m d t) ∨ ∃ events f, Blocked book m d events f := by
  cases d with
  | stay => exact .inl ⟨m, .stay⟩
  | leave =>
    cases hup : m.nesting.around with
    | nil => exact .inr ⟨_, _, .outermost hup⟩
    | cons next around =>
      cases hrules : book.get? next with
      | none => exact .inr ⟨_, _, .nowhere hup hrules⟩
      | some rules => exact .inl ⟨_, .leave hup hrules⟩
  | enter state =>
    cases hrules : book.get? state with
    | none => exact .inr ⟨_, _, .noSuchState hrules⟩
    | some rules =>
      rcases Nat.lt_or_ge m.nesting.depth m.nesting.limit with hroom | hroom
      · exact .inl ⟨_, .enter hrules hroom⟩
      · exact .inr ⟨_, _, .tooDeep hrules hroom⟩

theorem follow_eq_goOn_iff : m.follow book d = .goOn t ↔ Follows book m d t := by
  refine ⟨fun h => ?_, Follows.follow_eq⟩
  obtain ⟨u, hu⟩ | ⟨events, f, hblocked⟩ := follows_or_blocked book m d
  · cases h.symm.trans hu.follow_eq
    exact hu
  · cases h.symm.trans hblocked.follow_eq

/-! ## Steps -/

/-- The match that a step applies: it is the first one at the cursor, and the count of matches of
length zero, which becomes `stalled`, lets it pass. -/
structure Applies (m : Machine κ) (rule : Rule κ) (found : Match κ) (stalled : Nat) : Prop where
  more : m.cursor.atEnd = false
  selected : select? m.rules m.cursor = .ok (some (rule, found))
  counted : m.countStalls? found = some stalled

theorem countStalls?_eq_none_iff :
    m.countStalls? found = none ↔
      found.length = 0 ∧ (found.directive = .stay ∨ m.stallLimit ≤ m.stalled) := by
  unfold countStalls?
  by_cases hz : found.length = 0
  · rw [if_pos hz, ite_eq_left_iff]
    simp only [Nat.lt_add_one_iff, reduceCtorEq, imp_false, not_not, hz, true_and]
  · simp [hz]

/-- The faults that a step can end with, each with the events before it. -/
inductive Fails (book : Rulebook κ) (settings : ScanSettings) (m : Machine κ) :
    List ScanEvent → ScanFault → Prop where
  | noRule (hmore : m.cursor.atEnd = false) (hnone : select? m.rules m.cursor = .ok none) :
      Fails book settings m m.events
        (.noRule m.cursor.place m.nesting.active (m.cursor.preview settings.previewLength))
  | standstill {rule : Rule κ} {found : Match κ} (hmore : m.cursor.atEnd = false)
      (hselected : select? m.rules m.cursor = .ok (some (rule, found)))
      (hcount : m.countStalls? found = none) :
      Fails book settings m m.events (.standstill m.cursor.place m.nesting.active rule.source)
  | blocked {rule : Rule κ} {found : Match κ} {stalled : Nat} {events : List ScanEvent}
      {f : ScanFault} (happlies : m.Applies rule found stalled)
      (hblocked : Blocked book (m.moveOn rule found stalled) found.directive events f) :
      Fails book settings m events f
  | unclosed (hend : m.cursor.atEnd = true) (hstrict : settings.strict = true)
      (hdepth : 1 < m.nesting.depth) :
      Fails book settings m m.events
        (.unclosed m.cursor.place m.nesting.active m.nesting.depth)

/-- The outcome of a scan that comes to the end of its text. -/
def finished (m : Machine κ) : ScanOutcome κ :=
  ⟨.ok ⟨m.tokens.reverse, m.cursor.offset, m.nesting.active⟩,
    (.finished m.tokens.length m.cursor.offset m.nesting.active :: m.events).reverse⟩

theorem Applies.step_eq (h : m.Applies rule found stalled) :
    m.step book settings = (m.moveOn rule found stalled).follow book found.directive := by
  simp only [step, h.more, h.selected, h.counted, Bool.false_eq_true, if_false]

theorem Fails.step_eq {events : List ScanEvent} (h : Fails book settings m events f) :
    m.step book settings = .halt (failAfter events f) := by
  cases h with
  | noRule hmore hnone => simp only [step, hmore, hnone, Bool.false_eq_true, if_false, abort]
  | standstill hmore hselected hcount =>
    simp only [step, hmore, hselected, hcount, Bool.false_eq_true, if_false, abort]
  | blocked happlies hblocked => exact happlies.step_eq.trans hblocked.follow_eq
  | unclosed hend hstrict hdepth =>
    simp only [step, finish, hend, hstrict, hdepth, and_self, if_true, abort]

theorem step_eq_finished (hend : m.cursor.atEnd = true)
    (hopen : ¬ (settings.strict = true ∧ 1 < m.nesting.depth)) :
    m.step book settings = .halt m.finished := by
  rw [step, if_pos hend, finish, if_neg hopen]
  rfl

/-- A step applies a match, finishes the scan, or fails. -/
theorem step_cases (book : Rulebook κ) (settings : ScanSettings) (m : Machine κ) :
    (∃ rule found stalled t, m.Applies rule found stalled ∧
        Follows book (m.moveOn rule found stalled) found.directive t) ∨
      (m.cursor.atEnd = true ∧ ¬ (settings.strict = true ∧ 1 < m.nesting.depth)) ∨
      ∃ events f, Fails book settings m events f := by
  cases hend : m.cursor.atEnd with
  | true =>
    by_cases hopen : settings.strict = true ∧ 1 < m.nesting.depth
    · exact .inr (.inr ⟨_, _, .unclosed hend hopen.1 hopen.2⟩)
    · exact .inr (.inl ⟨rfl, hopen⟩)
  | false =>
    obtain hnone | ⟨rule, found, hselected⟩ := select?_cases m.rules m.cursor
    · exact .inr (.inr ⟨_, _, .noRule hend hnone⟩)
    · cases hcount : m.countStalls? found with
      | none => exact .inr (.inr ⟨_, _, .standstill hend hselected hcount⟩)
      | some stalled =>
        have happlies : m.Applies rule found stalled := ⟨hend, hselected, hcount⟩
        obtain ⟨t, hfollows⟩ | ⟨events, f, hblocked⟩ :=
          follows_or_blocked book (m.moveOn rule found stalled) found.directive
        · exact .inl ⟨rule, found, stalled, t, happlies, hfollows⟩
        · exact .inr (.inr ⟨events, f, .blocked happlies hblocked⟩)

/-- A step that leads on applies a match and follows its directive. -/
theorem applies_of_step (h : m.step book settings = .goOn t) :
    ∃ rule found stalled, m.Applies rule found stalled ∧
      Follows book (m.moveOn rule found stalled) found.directive t := by
  obtain ⟨rule, found, stalled, u, happlies, hfollows⟩ | ⟨hend, hopen⟩ | ⟨_, _, hfails⟩ :=
    step_cases book settings m
  · cases h.symm.trans (happlies.step_eq.trans hfollows.follow_eq)
    exact ⟨rule, found, stalled, happlies, hfollows⟩
  · cases h.symm.trans (step_eq_finished hend hopen)
  · cases h.symm.trans hfails.step_eq

/-- A step that ends the scan finishes it at the end of the text or fails. -/
theorem finished_or_fails_of_step (h : m.step book settings = .halt o) :
    (m.cursor.atEnd = true ∧ ¬ (settings.strict = true ∧ 1 < m.nesting.depth) ∧ o = m.finished) ∨
      ∃ events f, Fails book settings m events f ∧ o = failAfter events f := by
  obtain ⟨_, _, _, _, happlies, hfollows⟩ | ⟨hend, hopen⟩ | ⟨events, f, hfails⟩ :=
    step_cases book settings m
  · cases h.symm.trans (happlies.step_eq.trans hfollows.follow_eq)
  · cases h.symm.trans (step_eq_finished hend hopen)
    exact .inl ⟨hend, hopen, rfl⟩
  · cases h.symm.trans hfails.step_eq
    exact .inr ⟨events, f, hfails, rfl⟩

end Machine

end PushdownLexer
