import PushdownLexer.Scan.Event
import PushdownLexer.Scan.Nesting
import PushdownLexer.Scan.Rulebook
import PushdownLexer.Scan.Settings

/-!
# The scanning machine

The machine goes through a text from one match to the next. In each step it selects the first rule
of the active state that matches at the cursor, moves the cursor past the match, and enters or
leaves a state as the rule says.

A match of length zero leaves the cursor where it is. So that the machine cannot go on without end,
such a match must enter or leave a state, and no more than twice as many as there may be nested
states may follow each other.

## Main definitions

* `Machine`: the state of a scan between two steps.
* `Machine.step`: one step; `Machine.run`: all steps to the end.
* `scan`: scan a text, with the events of the scan.
-/

namespace PushdownLexer

variable {κ : Type}

/-- What a scan gives that came to the end of the text. -/
structure Scanned (κ : Type) where
  tokens : List (Token κ)
  /-- The number of bytes scanned. -/
  length : Nat
  /-- The active state at the end. -/
  state : String
  deriving DecidableEq, Repr, Inhabited

/-- The end of a scan: its result, and the events in the order in which they happened. -/
structure ScanOutcome (κ : Type) where
  result : Except ScanFault (Scanned κ)
  events : List ScanEvent

/-- The state of a scan between two steps. -/
structure Machine (κ : Type) where
  cursor : Cursor
  nesting : Nesting
  /-- The rules of the active state. -/
  rules : List (Rule κ)
  /-- How many matches of length zero have just followed each other. -/
  stalled : Nat
  /-- The tokens so far, the last one first. -/
  tokens : List (Token κ)
  /-- The events so far, the last one first. -/
  events : List ScanEvent

/-- A step leads on or ends the scan. -/
inductive StepResult (κ : Type) where
  | goOn (m : Machine κ)
  | halt (o : ScanOutcome κ)

/-- The first rule that matches at the cursor, with its match. -/
def select? : List (Rule κ) → Cursor → Except ScanFault (Option (Rule κ × Match κ))
  | [], _ => .ok none
  | rule :: rules, c =>
    match rule.apply c with
    | .error f => .error f
    | .ok (some m) => .ok (some (rule, m))
    | .ok none => select? rules c

/-- The outcome of a scan that fails after `events`, the last of them first. -/
def failAfter (events : List ScanEvent) (f : ScanFault) : ScanOutcome κ :=
  ⟨.error f, (.failed f :: events).reverse⟩

namespace Machine

/-- How many matches of length zero may follow each other: twice the largest number of nested
states, as far as a word can tell. -/
def stallLimit (m : Machine κ) : Nat := min (2 * m.nesting.limit) maxWord

/-- The scan fails. -/
def abort (m : Machine κ) (f : ScanFault) : StepResult κ := .halt (failAfter m.events f)

/-- The count of matches of length zero after one more match, or `none` if the scan would go on
without moving. -/
def countStalls? (m : Machine κ) (found : Match κ) : Option Nat :=
  if found.length = 0 then
    if found.directive = .stay ∨ m.stallLimit < m.stalled + 1 then none else some (m.stalled + 1)
  else some 0

/-- Move past a match. -/
def moveOn (m : Machine κ) (rule : Rule κ) (found : Match κ) (stalled : Nat) : Machine κ :=
  { m with
    cursor := found.cursor
    stalled
    tokens := found.token.toList ++ m.tokens
    events :=
      .matched m.nesting.active m.cursor.offset found.length rule.source found.token.isSome ::
        m.events }

/-- Leave the active state. -/
def leave (book : Rulebook κ) (m : Machine κ) : StepResult κ :=
  match m.nesting.leave m.cursor.place with
  | .error f => m.abort f
  | .ok (left, nesting) =>
    let m := { m with nesting, events := .left left nesting.active :: m.events }
    match book.lookUp nesting.active m.cursor.place with
    | .error f => m.abort f
    | .ok rules => .goOn { m with rules }

/-- Enter a state. That it has rules is seen to before there being room for it. -/
def enter (book : Rulebook κ) (m : Machine κ) (state : String) : StepResult κ :=
  match book.lookUp state m.cursor.place with
  | .error f => m.abort f
  | .ok rules =>
    match m.nesting.enter state m.cursor.place with
    | .error f => m.abort f
    | .ok nesting =>
      .goOn { m with nesting, rules, events := .entered nesting.active nesting.depth :: m.events }

/-- Enter or leave a state as a rule says. -/
def follow (book : Rulebook κ) (m : Machine κ) : Directive → StepResult κ
  | .stay => .goOn m
  | .leave => m.leave book
  | .enter state => m.enter book state

/-- End the scan at the end of the text. -/
def finish (settings : ScanSettings) (m : Machine κ) : StepResult κ :=
  if settings.strict ∧ 1 < m.nesting.depth then
    m.abort (.unclosed m.cursor.place m.nesting.active m.nesting.depth)
  else
    .halt ⟨.ok ⟨m.tokens.reverse, m.cursor.offset, m.nesting.active⟩,
      (.finished m.tokens.length m.cursor.offset m.nesting.active :: m.events).reverse⟩

/-- One step of a scan. -/
def step (book : Rulebook κ) (settings : ScanSettings) (m : Machine κ) : StepResult κ :=
  if m.cursor.atEnd then m.finish settings
  else
    match select? m.rules m.cursor with
    | .error f => m.abort f
    | .ok none =>
      m.abort (.noRule m.cursor.place m.nesting.active (m.cursor.preview settings.previewLength))
    | .ok (some (rule, found)) =>
      match m.countStalls? found with
      | none => m.abort (.standstill m.cursor.place m.nesting.active rule.source)
      | some stalled => (m.moveOn rule found stalled).follow book found.directive

end Machine

theorem moveBy_of_select? {rules : List (Rule κ)} {c : Cursor} {rule : Rule κ} {found : Match κ}
    (h : select? rules c = .ok (some (rule, found))) :
    c.moveBy found.length = .ok found.cursor := by
  induction rules with
  | nil => cases h
  | cons r rules ih =>
    unfold select? at h
    split at h
    · cases h
    · rename_i hm
      cases h
      exact Rule.moveBy_of_apply hm
    · exact ih h

namespace Machine

/-- Following a directive leaves the cursor, the stall count and the limit of the nesting alone. -/
theorem follow_goOn {book : Rulebook κ} {m t : Machine κ} {d : Directive}
    (h : m.follow book d = .goOn t) :
    t.cursor = m.cursor ∧ t.stalled = m.stalled ∧ t.nesting.limit = m.nesting.limit := by
  cases d with
  | stay => cases h; exact ⟨rfl, rfl, rfl⟩
  | leave =>
    change m.leave book = .goOn t at h
    unfold leave at h
    split at h
    · cases h
    · rename_i hp
      dsimp only at h
      split at h
      · cases h
      · cases h
        exact ⟨rfl, rfl, Nesting.limit_of_leave hp⟩
  | enter state =>
    change m.enter book state = .goOn t at h
    unfold enter at h
    split at h
    · cases h
    · split at h
      · cases h
      · rename_i hp
        cases h
        exact ⟨rfl, rfl, Nesting.limit_of_enter hp⟩

/-- Every step that leads on uses up text or stalls. -/
theorem step_goOn_lt {book : Rulebook κ} {settings : ScanSettings} {m t : Machine κ}
    (h : m.step book settings = .goOn t) :
    Prod.Lex (· < ·) (· < ·) (t.cursor.rest.length, t.stallLimit - t.stalled)
      (m.cursor.rest.length, m.stallLimit - m.stalled) := by
  unfold step at h
  split at h
  · unfold finish at h
    split at h <;> cases h
  split at h
  · cases h
  · cases h
  rename_i rule found hf
  split at h
  · cases h
  rename_i stalled hs
  obtain ⟨hcursor, hstalled, hlimit⟩ := follow_goOn h
  have hmove : t.cursor = found.cursor := hcursor
  have hcount : t.stalled = stalled := hstalled
  have hbound : t.stallLimit = m.stallLimit := by
    simp only [stallLimit, hlimit]; rfl
  obtain ⟨hle, hlt⟩ := Cursor.length_rest_of_moveBy (moveBy_of_select? hf)
  rw [hmove, hcount, hbound]
  unfold countStalls? at hs
  split at hs
  · split at hs
    · cases hs
    · rename_i hstay
      cases hs
      rcases Nat.lt_or_eq_of_le hle with hlt | heq
      · exact .left _ _ hlt
      · rw [heq]
        refine .right _ ?_
        have : ¬ m.stallLimit < m.stalled + 1 := fun hc => hstay (.inr hc)
        omega
  · rename_i hz
    exact .left _ _ (hlt hz)

/-- All steps to the end of the scan. -/
def run (book : Rulebook κ) (settings : ScanSettings) (m : Machine κ) : ScanOutcome κ :=
  match _h : m.step book settings with
  | .halt o => o
  | .goOn t => t.run book settings
termination_by (m.cursor.rest.length, m.stallLimit - m.stalled)
decreasing_by exact step_goOn_lt _h

/-- The machine at the start of a text, unless the start state has no rules. -/
def start (book : Rulebook κ) (settings : ScanSettings) (text : List Char) : StepResult κ :=
  let cursor := Cursor.ofText text
  let nesting := Nesting.single settings.startState settings.maxDepth
  let events := [.started (byteLength text) nesting.active book.size]
  match book.lookUp nesting.active cursor.place with
  | .error f => .halt (failAfter events f)
  | .ok rules => .goOn ⟨cursor, nesting, rules, 0, [], events⟩

end Machine

/-- Scan a text with the rules of a rulebook. -/
def scan (book : Rulebook κ) (settings : ScanSettings) (text : List Char) : ScanOutcome κ :=
  match Machine.start book settings text with
  | .halt o => o
  | .goOn m => m.run book settings

end PushdownLexer
