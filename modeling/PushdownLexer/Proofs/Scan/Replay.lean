import PushdownLexer.Log.Entry
import PushdownLexer.Proofs.Scan.Reached

/-!
# The log of a scan tells what happened

The events of a scan are written down while the cursor and the states change, some of them before
and some after. Still they can be followed: whoever knows the start state only, and takes one event
after the other, knows at each of them where the next match starts and in which states the scan is.
The first event says that the scan starts, the last one how it ends; a failure is told only there.

## Main definitions

* `Replay.follow?`: follow one event, if it is one that can happen where the replay stands.
* `Recorded`: events, the last one first, that can be followed.
* `Faithful`: what holds of the events of a scan.

## Main statements

* `Reached.recorded`: the events at hand lead to where the scan stands.
* `faithful_scan`: the events of a scan are faithful.
-/

namespace PushdownLexer

variable {κ : Type} {book : Rulebook κ} {settings : ScanSettings} {text : List Char}
  {events : List ScanEvent} {e : ScanEvent} {f : ScanFault} {n : Nat}

/-- Whether an event is a match that made a token. -/
def ScanEvent.makesToken : ScanEvent → Bool
  | matched _ _ _ _ hasToken => hasToken
  | _ => false

/-- Where a scan stands, as far as its events tell. -/
structure Replay where
  /-- The offset at which the next match starts. -/
  offset : Nat
  /-- The states, the active one first. -/
  states : List String
  deriving DecidableEq, Repr

namespace Replay

/-- Where a scan stands at its start. -/
def start (settings : ScanSettings) : Replay := ⟨0, [settings.startState]⟩

/-- Follow an event. A match has to start where the replay stands, in the active state; a state that
is left has to be the active one, and the one told to be active next has to be the one around it; the
number told of a state that is entered has to be that of all states then. -/
def follow? (r : Replay) : ScanEvent → Option Replay
  | .matched state offset length _ _ =>
    if r.states.head? = some state ∧ offset = r.offset then
      some { r with offset := offset + length }
    else none
  | .left state active =>
    match r.states with
    | top :: next :: around =>
      if state = top ∧ active = next then some { r with states := next :: around } else none
    | _ => none
  | .entered state depth =>
    if depth = r.states.length + 1 then some { r with states := state :: r.states } else none
  | .started .. | .failed _ | .finished .. => none

/-- Follow events, one after the other. -/
def followAll? (r : Replay) (events : List ScanEvent) : Option Replay := events.foldlM follow? r

theorem followAll?_concat {r r' : Replay} (h : r.followAll? events = some r') (e : ScanEvent) :
    r.followAll? (events ++ [e]) = r'.follow? e := by
  rw [followAll?] at h
  simp [followAll?, List.foldlM_append, h]

/-- An event that can be followed is neither a failure nor the end. -/
theorem plain_of_follow? {r r' : Replay} (h : r.follow? e = some r') :
    (LogEntry.scan e).level ≠ .warn ∧ ∀ tokens length state, e ≠ .finished tokens length state := by
  cases e <;> simp_all [follow?, LogEntry.level]

end Replay

/-- Events of a scan of `text`, the last one first, that can be followed to where the replay stands,
with the number of tokens made. -/
inductive Recorded (book : Rulebook κ) (settings : ScanSettings) (text : List Char) :
    List ScanEvent → Replay → Nat → Prop where
  | start : Recorded book settings text
      [.started (byteLength text) settings.startState book.size] (.start settings) 0
  | next {events : List ScanEvent} {r r' : Replay} {e : ScanEvent} {n : Nat}
      (h : Recorded book settings text events r n) (hfollow : r.follow? e = some r') :
      Recorded book settings text (e :: events) r' (e.makesToken.toNat + n)

namespace Recorded

variable {r : Replay} (h : Recorded book settings text events r n)

include h

theorem exists_followAll? :
    ∃ steps, events.reverse =
        .started (byteLength text) settings.startState book.size :: steps ∧
      (Replay.start settings).followAll? steps = some r ∧ steps.countP (·.makesToken) = n := by
  induction h with
  | start => exact ⟨[], rfl, rfl, rfl⟩
  | @next events r r' e n _ hfollow ih =>
    obtain ⟨steps, hevents, hsteps, hcount⟩ := ih
    refine ⟨steps ++ [e], by simp [hevents], ?_, ?_⟩
    · rw [Replay.followAll?_concat hsteps, hfollow]
    · cases hmakes : e.makesToken <;> simp [hcount, hmakes, Nat.add_comm]

theorem plain :
    ∀ e ∈ events, (LogEntry.scan e).level ≠ .warn ∧
      ∀ tokens length state, e ≠ .finished tokens length state := by
  induction h with
  | start => simp [LogEntry.level]
  | next _ hfollow ih => exact List.forall_mem_cons.2 ⟨Replay.plain_of_follow? hfollow, ih⟩

end Recorded

/-! ## The events along a scan -/

namespace Machine

variable {m t : Machine κ} {rule : Rule κ} {found : Match κ} {stalled : Nat} {d : Directive}

/-- Where a machine stands. -/
def replay (m : Machine κ) : Replay := ⟨m.cursor.offset, m.nesting.active :: m.nesting.around⟩

/-- The events at hand lead to where the machine stands. -/
def Records (book : Rulebook κ) (settings : ScanSettings) (text : List Char) (m : Machine κ) :
    Prop :=
  Recorded book settings text m.events m.replay m.tokens.length

theorem Records.moveOn (h : m.Records book settings text) (happlies : m.Applies rule found stalled) :
    (m.moveOn rule found stalled).Records book settings text := by
  have hoffset : m.cursor.offset + found.length = found.cursor.offset :=
    (Cursor.offset_of_moveBy happlies.moveBy).symm
  have hmatched : m.replay.follow?
      (.matched m.nesting.active m.cursor.offset found.length rule.source found.token.isSome) =
        some (m.moveOn rule found stalled).replay := by
    simp [Replay.follow?, replay, Machine.moveOn, hoffset]
  have hnext := Recorded.next h hmatched
  cases htoken : found.token <;> simp_all [Records, Machine.moveOn, ScanEvent.makesToken, Nat.add_comm]

theorem Records.follows (h : m.Records book settings text) (hfollows : Follows book m d t) :
    t.Records book settings text := by
  cases hfollows with
  | stay => exact h
  | @leave next around rules hup _ =>
    have hleft : m.replay.follow? (.left m.nesting.active next) =
        some ⟨m.cursor.offset, next :: around⟩ := by
      simp [Replay.follow?, replay, hup]
    simpa [Records, replay, ScanEvent.makesToken] using Recorded.next h hleft
  | @enter state rules _ _ =>
    have hentered : m.replay.follow? (.entered state (m.nesting.depth + 1)) =
        some ⟨m.cursor.offset, state :: m.nesting.active :: m.nesting.around⟩ := by
      simp [Replay.follow?, replay, Nesting.depth]
    simpa [Records, replay, ScanEvent.makesToken] using Recorded.next h hentered

theorem Records.blocked (h : m.Records book settings text) (hblocked : Blocked book m d events f) :
    ∃ r n, Recorded book settings text events r n := by
  cases hblocked with
  | @nowhere next around hup _ =>
    have hleft : m.replay.follow? (.left m.nesting.active next) =
        some ⟨m.cursor.offset, next :: around⟩ := by
      simp [Replay.follow?, replay, hup]
    exact ⟨_, _, h.next hleft⟩
  | _ => exact ⟨_, _, h⟩

theorem Records.fails (h : m.Records book settings text) (hfails : m.Fails book settings events f) :
    ∃ r n, Recorded book settings text events r n := by
  cases hfails with
  | blocked happlies hblocked => exact (h.moveOn happlies).blocked hblocked
  | _ => exact ⟨_, _, h⟩

end Machine

theorem Reached.recorded {moves : List (Move κ)} {m : Machine κ}
    (h : Reached book settings text moves m) : m.Records book settings text := by
  induction h with
  | start hstart =>
    obtain ⟨rules, -, rfl⟩ := Machine.eq_initial_of_start hstart
    exact .start
  | next _ happlies hfollows ih => exact (ih.moveOn happlies).follows hfollows

/-! ## The events of a whole scan -/

/-- What holds of the events of a scan of `text`. -/
structure Faithful (book : Rulebook κ) (settings : ScanSettings) (text : List Char)
    (o : ScanOutcome κ) : Prop where
  /-- The first event says that the scan starts. The others but the last one can be followed from
  there. -/
  followed : ∃ steps last r, o.events =
      .started (byteLength text) settings.startState book.size :: (steps ++ [last]) ∧
    (Replay.start settings).followAll? steps = some r ∧
    ∀ out, o.result = .ok out → r.offset = out.length ∧ r.states.head? = some out.state
  /-- A scan that succeeds says so last and gives no warning, and the matches that made a token are as
  many as its tokens. -/
  succeeds : ∀ out, o.result = .ok out →
    (∀ e ∈ o.events, (LogEntry.scan e).level ≠ .warn) ∧
    o.events.getLast? = some (.finished out.tokens.length out.length out.state) ∧
    o.events.countP (·.makesToken) = out.tokens.length
  /-- A scan that fails says so last, and this is its only warning. -/
  fails : ∀ f, o.result = .error f →
    o.events.filter (fun e => (LogEntry.scan e).level = .warn) = [.failed f] ∧
    o.events.getLast? = some (.failed f) ∧
    ∀ tokens length state, ScanEvent.finished tokens length state ∉ o.events

theorem Recorded.faithful_failAfter {r : Replay} (h : Recorded book settings text events r n)
    (f : ScanFault) : Faithful (κ := κ) book settings text (failAfter events f) where
  followed := by
    obtain ⟨steps, hevents, hsteps, -⟩ := h.exists_followAll?
    exact ⟨steps, .failed f, r, by simp [failAfter, hevents], hsteps, by simp [failAfter]⟩
  succeeds := by simp [failAfter]
  fails := by
    rintro g ⟨⟩
    refine ⟨?_, by simp [failAfter], ?_⟩
    · have hnone : events.filter (fun e => (LogEntry.scan e).level = .warn) = [] := by
        simpa using fun e he => (h.plain e he).1
      rw [failAfter, List.filter_reverse, List.filter_cons_of_pos (by simp [LogEntry.level]), hnone]
      rfl
    · intro tokens length state hmem
      simp only [failAfter, List.mem_reverse, List.mem_cons, reduceCtorEq, false_or] at hmem
      exact (h.plain _ hmem).2 _ _ _ rfl

theorem Machine.Records.faithful_finished {m : Machine κ} (h : m.Records book settings text) :
    Faithful book settings text m.finished where
  followed := by
    obtain ⟨steps, hevents, hsteps, -⟩ := Recorded.exists_followAll? h
    refine ⟨steps, .finished m.tokens.length m.cursor.offset m.nesting.active, m.replay,
      by simp [finished, hevents], hsteps, ?_⟩
    rintro out ⟨⟩
    exact ⟨rfl, rfl⟩
  succeeds := by
    rintro out ⟨⟩
    obtain ⟨steps, hevents, -, hcount⟩ := Recorded.exists_followAll? h
    refine ⟨fun e he => ?_, by simp [finished], ?_⟩
    · simp only [finished, List.mem_reverse, List.mem_cons] at he
      obtain rfl | he := he
      · simp [LogEntry.level]
      · exact (Recorded.plain h e he).1
    · rw [finished, List.reverse_cons, hevents, List.cons_append, List.countP_cons_of_neg
        (by simp [ScanEvent.makesToken]), List.countP_append, hcount]
      simp [ScanEvent.makesToken]
  fails := by simp [finished]

theorem faithful_scan (book : Rulebook κ) (settings : ScanSettings) (text : List Char) :
    Faithful book settings text (scan book settings text) := by
  obtain ⟨moves, last, hlast, hstep⟩ | ⟨-, hscan⟩ := scan_cases book settings text
  · obtain ⟨-, -, hscan⟩ | ⟨events, f, hfails, hscan⟩ := Machine.finished_or_fails_of_step hstep
    · rw [hscan]
      exact hlast.recorded.faithful_finished
    · obtain ⟨r, n, hrecorded⟩ := hlast.recorded.fails hfails
      rw [hscan]
      exact hrecorded.faithful_failAfter f
  · rw [hscan]
    exact Recorded.start.faithful_failAfter _

end PushdownLexer
