import PushdownLexer.Proofs.Scan.Reached

/-!
# Faults say what went wrong

A fault of a scan is a certificate: there is a machine on the way of the scan at which what the
fault says is the case. The other way round, a scan that comes to such a machine fails with this
very fault. So it is also settled which one of two faults is given where both might be: a state
without rules comes before a lack of room, and a match that does not move comes before what it
would do to the states.

## Main definitions

* `Certified`: what has to be the case for each fault.

## Main statements

* `Machine.Fails.certified`, `Certified.result_eq`: both directions.
* `result_eq_error_iff`: a scan fails exactly with the faults that are certified.
-/

namespace PushdownLexer

variable {κ : Type} {book : Rulebook κ} {settings : ScanSettings} {text : List Char}
  {moves : List (Move κ)} {m : Machine κ} {rule : Rule κ} {found : Match κ} {stalled : Nat}
  {events : List ScanEvent} {f : ScanFault}

/-- What has to be the case for a scan of `text` to fail with a fault. -/
inductive Certified (book : Rulebook κ) (settings : ScanSettings) (text : List Char) :
    ScanFault → Prop where
  /-- Text is left, of which no rule of the active state matches a beginning. -/
  | noRule {moves : List (Move κ)} {m : Machine κ} {rules : List (Rule κ)}
      {passed rest : List Char} (hm : Reached book settings text moves m)
      (htext : text = passed ++ rest) (hoffset : m.cursor.offset = byteLength passed)
      (hleft : rest ≠ []) (hrules : book.get? m.nesting.active = some rules)
      (hnone : ∀ rule ∈ rules, rule.pattern.find? rest = none) :
      Certified book settings text
        (.noRule (Position.ofOffset text m.cursor.offset) m.nesting.active
          (String.ofList (rest.take settings.previewLength)))
  /-- The start state has no rules. -/
  | noStart (hrules : book.get? settings.startState = none) :
      Certified book settings text (.noSuchState ⟨1, 1, 0⟩ settings.startState)
  /-- A match was applied whose rule enters a state without rules. -/
  | noSuchState {moves : List (Move κ)} {m : Machine κ} {rule : Rule κ} {found : Match κ}
      {stalled : Nat} {state : String} (hm : Reached book settings text moves m)
      (happlies : m.Applies rule found stalled) (hdirective : rule.directive = .enter state)
      (hrules : book.get? state = none) :
      Certified book settings text
        (.noSuchState (Position.ofOffset text (m.cursor.offset + found.length)) state)
  /-- A match was applied whose rule leaves a state, in the start state alone. -/
  | outermost {moves : List (Move κ)} {m : Machine κ} {rule : Rule κ} {found : Match κ}
      {stalled : Nat} (hm : Reached book settings text moves m)
      (happlies : m.Applies rule found stalled) (hdirective : rule.directive = .leave)
      (hstates : m.nesting.toList = [settings.startState]) :
      Certified book settings text
        (.outermost (Position.ofOffset text (m.cursor.offset + found.length))
          settings.startState)
  /-- A match was applied whose rule enters a state with rules, in as many states as there may
  be. -/
  | tooDeep {moves : List (Move κ)} {m : Machine κ} {rule : Rule κ} {found : Match κ}
      {stalled : Nat} {state : String} (hm : Reached book settings text moves m)
      (happlies : m.Applies rule found stalled) (hdirective : rule.directive = .enter state)
      (hrules : book.contains state = true)
      (hstates : m.nesting.toList.length = max 1 settings.maxDepth) :
      Certified book settings text
        (.tooDeep (Position.ofOffset text (m.cursor.offset + found.length)) state
          (max 1 settings.maxDepth))
  /-- The first rule that matches has a match of length zero, which stays in its state or comes
  after as many others as there may be. -/
  | standstill {moves : List (Move κ)} {m : Machine κ} {before after : List (Rule κ)}
      {rule : Rule κ} {found : Match κ} (hm : Reached book settings text moves m)
      (hleft : m.cursor.offset < byteLength text)
      (hrules : book.get? m.nesting.active = some (before ++ rule :: after))
      (hbefore : ∀ r ∈ before, r.pattern.find? m.cursor.rest = none)
      (happly : rule.apply m.cursor = .ok (some found)) (hlength : found.length = 0)
      (hstill : rule.directive = .stay ∨ m.stalled = m.stallLimit) :
      Certified book settings text
        (.standstill (Position.ofOffset text m.cursor.offset) m.nesting.active rule.source)
  /-- The text ended in a nested state, which is asked to be left. -/
  | unclosed {moves : List (Move κ)} {m : Machine κ} (hm : Reached book settings text moves m)
      (hend : m.cursor.offset = byteLength text) (hstrict : settings.strict = true)
      (hdepth : 2 ≤ m.nesting.toList.length) :
      Certified book settings text
        (.unclosed (Position.ofOffset text (byteLength text)) m.nesting.active
          m.nesting.toList.length)

namespace Machine

theorem Applies.directive_eq (h : m.Applies rule found stalled) :
    found.directive = rule.directive :=
  Rule.directive_of_apply (select?_eq_some_iff.1 h.selected).1

/-- The place after a match is that of the offset after it. -/
theorem Applies.place_eq (h : m.Applies rule found stalled) (hm : m.cursor.Within text) :
    found.cursor.place = Position.ofOffset text (m.cursor.offset + found.length) := by
  rw [(hm.moveBy h.moveBy).place_eq_ofOffset, Cursor.offset_of_moveBy h.moveBy]

/-- The faults that a step on the way of a scan can end with are certified. -/
theorem Fails.certified (h : m.Fails book settings events f)
    (hm : Reached book settings text moves m) : Certified book settings text f := by
  have hcursor := hm.consistent.cursor
  have hplace := hcursor.place_eq_ofOffset
  cases h with
  | noRule hmore hnone =>
    obtain ⟨passed, htext, hoffset⟩ := hcursor.boundary
    have hleft : m.cursor.rest ≠ [] := by simpa [Cursor.atEnd] using hmore
    rw [hplace]
    exact .noRule hm htext hoffset hleft hm.consistent.rules (select?_eq_none_iff.1 hnone)
  | standstill hmore hselected hcount =>
    obtain ⟨happly, before, after, hrules, hbefore⟩ := select?_eq_some_iff.1 hselected
    obtain ⟨hlength, hstill⟩ := countStalls?_eq_none_iff.1 hcount
    rw [Rule.directive_of_apply happly] at hstill
    rw [hplace]
    refine .standstill hm (hcursor.offset_lt_iff.2 hmore) (hrules ▸ hm.consistent.rules) hbefore
      happly hlength (hstill.imp_right fun hle => ?_)
    exact le_antisymm hm.consistent.stalled_le hle
  | @blocked rule found stalled events f happlies hblocked =>
    rw [happlies.directive_eq] at hblocked
    generalize hdirective : Rule.directive _ = d at hblocked
    have hmoved := happlies.place_eq hcursor
    cases hblocked with
    | outermost hup =>
      have hstates := hm.consistent.toList_eq hup
      have hactive := (Nesting.toList_eq_singleton_iff.1 hstates).2
      change Certified book settings text (.outermost found.cursor.place m.nesting.active)
      rw [hmoved, hactive]
      exact .outermost hm happlies hdirective hstates
    | @nowhere next around hup hrules =>
      -- All states around the active one have rules, so this is not the case.
      have hnext : book.contains next = true := by
        refine hm.consistent.registered next (Nesting.mem_toList.2 (.inr ?_))
        rw [show m.nesting.around = next :: around from hup]
        exact List.mem_cons_self
      obtain ⟨rules, hsome⟩ := Rulebook.contains_iff.1 hnext
      cases hrules.symm.trans hsome
    | @noSuchState state hrules =>
      change Certified book settings text (.noSuchState found.cursor.place state)
      rw [hmoved]
      exact .noSuchState hm happlies hdirective hrules
    | @tooDeep state rules hrules hroom =>
      have hlimit := hm.consistent.limit
      have hdepth : m.nesting.depth = max 1 settings.maxDepth :=
        hlimit ▸ le_antisymm hm.consistent.depth_le hroom
      change Certified book settings text (.tooDeep found.cursor.place state m.nesting.limit)
      rw [hmoved, hlimit]
      exact .tooDeep hm happlies hdirective (Rulebook.contains_iff.2 ⟨rules, hrules⟩)
        (m.nesting.length_toList.trans hdepth)
  | unclosed hend hstrict hdepth =>
    rw [hplace, hcursor.offset_eq_iff_atEnd.2 hend, ← m.nesting.length_toList]
    exact .unclosed hm (hcursor.offset_eq_iff_atEnd.2 hend) hstrict
      (m.nesting.length_toList ▸ hdepth)

end Machine

/-- A scan fails with a fault that is certified. -/
theorem Certified.result_eq (h : Certified book settings text f) :
    (scan book settings text).result = .error f := by
  cases h with
  | noRule hm htext hoffset hleft hrules hnone =>
    have hcursor := hm.consistent.cursor
    obtain rfl := Option.some.inj (hm.consistent.rules.symm.trans hrules)
    obtain rfl := hcursor.rest_eq htext hoffset
    rw [← hcursor.place_eq_ofOffset]
    exact hm.result_eq_of_fails
      (.noRule (by simpa [Cursor.atEnd] using hleft) (select?_eq_none_iff.2 hnone))
  | noStart hrules =>
    rw [scan_of_get?_eq_none hrules]
    rfl
  | @noSuchState _ m rule found stalled state hm happlies hdirective hrules =>
    rw [← happlies.place_eq hm.consistent.cursor]
    apply hm.result_eq_of_fails
    apply Machine.Fails.blocked happlies
    rw [happlies.directive_eq, hdirective]
    exact .noSuchState hrules
  | @outermost _ m rule found stalled hm happlies hdirective hstates =>
    obtain ⟨hup, hactive⟩ := Nesting.toList_eq_singleton_iff.1 hstates
    rw [← happlies.place_eq hm.consistent.cursor, ← hactive]
    apply hm.result_eq_of_fails
    apply Machine.Fails.blocked happlies
    rw [happlies.directive_eq, hdirective]
    exact .outermost hup
  | @tooDeep _ m rule found stalled state hm happlies hdirective hrules hstates =>
    have hlimit := hm.consistent.limit
    obtain ⟨rules, hsome⟩ := Rulebook.contains_iff.1 hrules
    rw [← happlies.place_eq hm.consistent.cursor, ← hlimit]
    apply hm.result_eq_of_fails
    apply Machine.Fails.blocked happlies
    rw [happlies.directive_eq, hdirective]
    exact .tooDeep hsome (hlimit.trans (hstates.symm.trans m.nesting.length_toList)).le
  | @standstill _ m before after rule found hm hleft hrules hbefore happly hlength hstill =>
    have hcursor := hm.consistent.cursor
    have hsame := Option.some.inj (hm.consistent.rules.symm.trans hrules)
    rw [← hcursor.place_eq_ofOffset]
    refine hm.result_eq_of_fails (.standstill (hcursor.offset_lt_iff.1 hleft)
      (select?_eq_some_iff.2 ⟨happly, before, after, hsame, hbefore⟩)
      (Machine.countStalls?_eq_none_iff.2 ⟨hlength, ?_⟩))
    rw [Rule.directive_of_apply happly]
    exact hstill.imp_right fun h => h.ge
  | @unclosed _ m hm hend hstrict hdepth =>
    have hcursor := hm.consistent.cursor
    rw [← hend, ← hcursor.place_eq_ofOffset, m.nesting.length_toList]
    exact hm.result_eq_of_fails (.unclosed (hcursor.offset_eq_iff_atEnd.1 hend) hstrict
      (m.nesting.length_toList ▸ hdepth))

/-- A fault that is certified has a place, which is that of its offset. -/
theorem Certified.place_eq (h : Certified book settings text f) :
    ∃ place, f.place? = some place ∧ place = Position.ofOffset text place.offset := by
  cases h with
  | noStart _ => exact ⟨_, rfl, (Position.ofOffset_append [] text).symm⟩
  | _ => exact ⟨_, rfl, (Position.ofOffset_offset text _).symm⟩

/-- A scan fails exactly with the faults that are certified. These have a place, which is that of
its offset in the text, and are neither moves out of the text nor invalid patterns. -/
theorem result_eq_error_iff (book : Rulebook κ) (settings : ScanSettings) (text : List Char)
    (f : ScanFault) :
    (scan book settings text).result = .error f ↔
      Certified book settings text f ∧
        (∃ place, f.place? = some place ∧ place = Position.ofOffset text place.offset) ∧
        f.kind ≠ "OutOfRange" ∧ f.kind ≠ "InvalidPattern" := by
  constructor
  · intro h
    have hcertified : Certified book settings text f := by
      obtain ⟨hrules, rfl⟩ | ⟨moves, last, events, hlast, -, hfails⟩ := exists_fails_of_scan h
      · exact .noStart hrules
      · exact hfails.certified hlast
    refine ⟨hcertified, hcertified.place_eq, ?_⟩
    cases hcertified <;> simp [ScanFault.kind]
  · intro h
    exact h.1.result_eq

/-- After two brackets a letter is left that the rules for words do not match. -/
theorem brackets_noRule :
    (scan brackets {} ['(', '(', 'b']).result = .error (.noRule ⟨1, 3, 2⟩ "word" "b") ∧
      Certified brackets {} ['(', '(', 'b'] (.noRule ⟨1, 3, 2⟩ "word" "b") := by
  have hscan : (scan brackets {} ['(', '(', 'b']).result =
      .error (.noRule ⟨1, 3, 2⟩ "word" "b") := by
    have start : Reached brackets {} ['(', '(', 'b'] [] _ := .start rfl
    rw [start.scan_eq, Machine.run_of_iterate (n := 6) rfl]
    rfl
  exact ⟨hscan, ((result_eq_error_iff _ _ _ _).1 hscan).1⟩

end PushdownLexer
