import PushdownLexer.Proofs.Scan.Certificate

/-!
# A text without the matches of a rule

The matches of a rule can be cut out of a text after it has been scanned: the events of the scan
tell the ranges of bytes that they have. What is left is also found along the way of the scan. Each
step that applies the rule leaves its match out, each other step keeps its own, and what no step has
passed stays.

## Main definitions

* `cutOut`: a text without the characters in some ranges.
* `matchRanges`: the ranges of the matches of a pattern, by the events of a scan.
* `Machine.Keeps`: what is left of the rest of a text, told along the steps.

## Main statements

* `Machine.keeps_of_scan`: cutting out the ranges leaves what the steps keep.
-/

namespace PushdownLexer

variable {ranges : List (Nat × Nat)} {range : Nat × Nat} {offset : Nat} {x y : List Char}

/-! ## Ranges of a text -/

/-- A text that starts after `offset` bytes, without the characters that are in one of the ranges. A
range reaches from its first number up to its second one. -/
def cutOut (ranges : List (Nat × Nat)) : Nat → List Char → List Char
  | _, [] => []
  | offset, c :: text =>
    let rest := cutOut ranges (offset + c.utf8Size) text
    if ∃ r ∈ ranges, r.1 ≤ offset ∧ offset < r.2 then rest else c :: rest

theorem cutOut_append (ranges : List (Nat × Nat)) (offset : Nat) (x y : List Char) :
    cutOut ranges offset (x ++ y) =
      cutOut ranges offset x ++ cutOut ranges (offset + byteLength x) y := by
  induction x generalizing offset with
  | nil => rfl
  | cons c x ih =>
    simp only [List.cons_append, cutOut, ih, byteLength_cons, ← Nat.add_assoc]
    split_ifs <;> rfl

/-- Ranges that start after a text leave it alone. -/
theorem cutOut_eq_self (h : ∀ r ∈ ranges, offset + byteLength x ≤ r.1) :
    cutOut ranges offset x = x := by
  induction x generalizing offset with
  | nil => rfl
  | cons c x ih =>
    have hc := c.utf8Size_pos
    simp only [byteLength_cons] at h
    rw [cutOut, if_neg, ih fun r hr => by have := h r hr; omega]
    rintro ⟨r, hr, hle, -⟩
    have := h r hr
    omega

/-- A range around a text leaves nothing of it. -/
theorem cutOut_eq_nil (hmem : range ∈ ranges) (hstart : range.1 ≤ offset)
    (hstop : offset + byteLength x ≤ range.2) : cutOut ranges offset x = [] := by
  induction x generalizing offset with
  | nil => rfl
  | cons c x ih =>
    have hc := c.utf8Size_pos
    rw [byteLength_cons] at hstop
    rw [cutOut, if_pos ⟨range, hmem, hstart, by omega⟩]
    exact ih (by omega) (by omega)

/-- A range in front of a text leaves it alone. -/
theorem cutOut_cons_of_le (h : range.2 ≤ offset) :
    cutOut (range :: ranges) offset x = cutOut ranges offset x := by
  induction x generalizing offset with
  | nil => rfl
  | cons c x ih =>
    have hrange : ¬ (range.1 ≤ offset ∧ offset < range.2) := by omega
    have hlater : range.2 ≤ offset + c.utf8Size := by omega
    simp only [cutOut, List.exists_mem_cons_iff, hrange, false_or, ih hlater]

/-! ## Ranges of matches -/

/-- The range of a match of the pattern `source`, if this is what an event tells of. -/
def ScanEvent.range? (source : String) : ScanEvent → Option (Nat × Nat)
  | matched _ offset length pattern _ =>
    if pattern = source then some (offset, offset + length) else none
  | _ => none

/-- The ranges of the matches of the pattern `source`. -/
def matchRanges (source : String) (events : List ScanEvent) : List (Nat × Nat) :=
  events.filterMap (ScanEvent.range? source)

theorem matchRanges_matched (source state : String) (offset length : Nat) (pattern : String)
    (hasToken : Bool) (events : List ScanEvent) :
    matchRanges source (.matched state offset length pattern hasToken :: events) =
      if pattern = source then (offset, offset + length) :: matchRanges source events
      else matchRanges source events := by
  by_cases h : pattern = source <;> simp [matchRanges, ScanEvent.range?, h]

theorem matchRanges_append (source : String) (events more : List ScanEvent) :
    matchRanges source (events ++ more) = matchRanges source events ++ matchRanges source more :=
  List.filterMap_append

theorem matchRanges_reverse (source : String) (events : List ScanEvent) :
    matchRanges source events.reverse = (matchRanges source events).reverse :=
  List.filterMap_reverse

namespace Machine

variable {κ : Type} {book : Rulebook κ} {settings : ScanSettings} {source : String}
  {m t : Machine κ} {d : Directive} {events : List ScanEvent} {f : ScanFault} {o : ScanOutcome κ}
  {text : List Char}

/-- What is left of the rest of a text if the matches of the pattern `source` are left out, from a
machine on. -/
inductive Keeps (book : Rulebook κ) (settings : ScanSettings) (source : String) :
    Machine κ → List Char → Prop where
  | halt {m : Machine κ} {o : ScanOutcome κ} (hstep : m.step book settings = .halt o) :
      Keeps book settings source m m.cursor.rest
  | leaveOut {m t : Machine κ} {rule : Rule κ} {found : Match κ} {stalled : Nat} {text : List Char}
      (happlies : m.Applies rule found stalled)
      (hfollows : Follows book (m.moveOn rule found stalled) found.directive t)
      (hrule : rule.source = source) (ht : Keeps book settings source t text) :
      Keeps book settings source m text
  | keep {m t : Machine κ} {rule : Rule κ} {found : Match κ} {stalled : Nat}
      {passed text : List Char} (happlies : m.Applies rule found stalled)
      (hfollows : Follows book (m.moveOn rule found stalled) found.directive t)
      (hrule : rule.source ≠ source) (hpassed : m.cursor.rest = passed ++ t.cursor.rest)
      (ht : Keeps book settings source t text) :
      Keeps book settings source m (passed ++ text)

/-! ## Events -/

/-- Following a directive adds no match to the events. -/
theorem Follows.exists_events (source : String) (h : Follows book m d t) :
    ∃ more, t.events = more ++ m.events ∧ matchRanges source more = [] := by
  cases h with
  | stay => exact ⟨[], rfl, rfl⟩
  | leave => exact ⟨[_], rfl, rfl⟩
  | enter => exact ⟨[_], rfl, rfl⟩

theorem Blocked.exists_events (source : String) (h : Blocked book m d events f) :
    ∃ more, events = more ++ m.events ∧ matchRanges source more = [] := by
  cases h with
  | nowhere => exact ⟨[_], rfl, rfl⟩
  | _ => exact ⟨[], rfl, rfl⟩

/-- A rule with the pattern `source` is blocked in no state. -/
def Stays (book : Rulebook κ) (source : String) : Prop :=
  ∀ state rules, book.get? state = some rules →
    ∀ r ∈ rules, r.source = source → r.directive = .stay

/-- A step that ends the scan adds no match of the pattern to the events. -/
theorem exists_events_of_halt (hstays : Stays book source)
    (hrules : book.get? m.nesting.active = some m.rules) (h : m.step book settings = .halt o) :
    ∃ more, o.events = m.events.reverse ++ more ∧ matchRanges source more = [] := by
  obtain ⟨-, -, rfl⟩ | ⟨events, f, hfails, rfl⟩ := finished_or_fails_of_step h
  · exact ⟨[_], List.reverse_cons, rfl⟩
  · have hevents : ∃ more, events = more ++ m.events ∧ matchRanges source more = [] := by
      cases hfails with
      | @blocked rule found stalled events f happlies hblocked =>
        have hsource : rule.source ≠ source := by
          intro hsource
          obtain ⟨-, before, after, hselected, -⟩ := select?_eq_some_iff.1 happlies.selected
          have hstay := hstays _ _ hrules rule (by simp [hselected]) hsource
          rw [happlies.directive_eq, hstay] at hblocked
          cases hblocked
        obtain ⟨more, hmore, hnone⟩ := hblocked.exists_events source
        refine ⟨more ++ [_], by rw [hmore, List.append_assoc]; rfl, ?_⟩
        rw [matchRanges_append, hnone]
        simp [matchRanges, ScanEvent.range?, hsource]
      | _ => exact ⟨[], rfl, rfl⟩
    obtain ⟨more, rfl, hnone⟩ := hevents
    refine ⟨more.reverse ++ [.failed f], by simp [failAfter], ?_⟩
    rw [matchRanges_append, matchRanges_reverse, hnone]
    rfl

/-- A step that applies another rule adds no match of the pattern to the events. -/
theorem matchRanges_of_follows {rule : Rule κ} {found : Match κ} {stalled : Nat}
    (h : Follows book (m.moveOn rule found stalled) d t) (hrule : rule.source ≠ source) :
    matchRanges source t.events = matchRanges source m.events := by
  obtain ⟨more, hmore, hnone⟩ := h.exists_events source
  rw [hmore, matchRanges_append, hnone, List.nil_append, moveOn, matchRanges_matched, if_neg hrule]

theorem matchRanges_of_halt (hstays : Stays book source)
    (hrules : book.get? m.nesting.active = some m.rules) (h : m.step book settings = .halt o) :
    matchRanges source o.events = (matchRanges source m.events).reverse := by
  obtain ⟨more, hevents, hnone⟩ := exists_events_of_halt hstays hrules h
  rw [hevents, matchRanges_append, hnone, List.append_nil, matchRanges_reverse]

/-! ## What is left -/

/-- A run from a machine adds events whose matches all lie in the rest of the text, and cutting
these out leaves what the steps keep. -/
theorem exists_keeps (settings : ScanSettings) (m : Machine κ) (hstays : Stays book source)
    (hrules : book.get? m.nesting.active = some m.rules) :
    ∃ events, (m.run book settings).events = m.events.reverse ++ events ∧
      (∀ r ∈ matchRanges source events, m.cursor.offset ≤ r.1) ∧
      m.Keeps book settings source
        (cutOut (matchRanges source events) m.cursor.offset m.cursor.rest) := by
  induction m using Machine.run.induct book settings with
  | case1 m o hstep =>
    obtain ⟨events, hevents, hnone⟩ := exists_events_of_halt hstays hrules hstep
    refine ⟨events, by rw [run_of_halt hstep, hevents], by simp [hnone], ?_⟩
    rw [hnone, cutOut_eq_self (by simp)]
    exact .halt hstep
  | case2 m t hstep ih =>
    obtain ⟨rule, found, stalled, happlies, hfollows⟩ := applies_of_step hstep
    obtain ⟨later, hlater, hafter, hkeeps⟩ := ih (hfollows.rules_eq hrules)
    obtain ⟨more, hmore, hnone⟩ := hfollows.exists_events source
    obtain ⟨hcursor, -, -, -⟩ := hfollows.frame
    obtain ⟨passed, hlength, hrest, -⟩ := Cursor.rest_of_moveBy happlies.moveBy
    have hoffset : t.cursor.offset = m.cursor.offset + byteLength passed := by
      rw [hcursor, hlength]
      exact Cursor.offset_of_moveBy happlies.moveBy
    have hpassed : m.cursor.rest = passed ++ t.cursor.rest := hcursor ▸ hrest
    refine ⟨.matched m.nesting.active m.cursor.offset found.length rule.source
      found.token.isSome :: (more.reverse ++ later), ?_, ?_⟩
    · rw [run_of_goOn hstep, hlater, hmore]
      simp [moveOn]
    have hlaterRanges : matchRanges source (more.reverse ++ later) = matchRanges source later := by
      rw [matchRanges_append, matchRanges_reverse, hnone]
      rfl
    rw [matchRanges_matched, hlaterRanges, hpassed, cutOut_append, ← hoffset]
    by_cases hrule : rule.source = source
    · rw [if_pos hrule]
      refine ⟨?_, ?_⟩
      · rw [List.forall_mem_cons]
        exact ⟨le_rfl, fun r hr => by have := hafter r hr; omega⟩
      · rw [cutOut_eq_nil List.mem_cons_self le_rfl (by rw [hlength]), List.nil_append,
          cutOut_cons_of_le (by rw [hoffset, hlength])]
        exact .leaveOut happlies hfollows hrule hkeeps
    · rw [if_neg hrule]
      refine ⟨fun r hr => by have := hafter r hr; omega, ?_⟩
      rw [cutOut_eq_self fun r hr => hoffset ▸ hafter r hr]
      exact .keep happlies hfollows hrule hpassed hkeeps

/-- Cutting the matches of a pattern out of a text leaves what the steps of its scan keep. -/
theorem keeps_of_scan {rules : List (Rule κ)} (hstays : Stays book source)
    (hrules : book.get? settings.startState = some rules) (text : List Char) :
    (initial book settings text rules).Keeps book settings source
      (cutOut (matchRanges source (scan book settings text).events) 0 text) := by
  have start : Reached book settings text [] _ := .start (start_eq_initial hrules)
  obtain ⟨events, hevents, -, hkeeps⟩ :=
    exists_keeps settings (initial book settings text rules) hstays hrules
  rwa [start.scan_eq, hevents, matchRanges_append]

end Machine

end PushdownLexer
