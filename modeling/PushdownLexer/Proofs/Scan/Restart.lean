import PushdownLexer.Proofs.Scan.Coverage
import PushdownLexer.Proofs.Text.Shift

/-!
# Starting a scan again

What is left of a text can be scanned on its own. If a scan has just moved, and is in its start
state with no other state around it, then it goes on as a new scan of the rest does, with all places
counted on from the cursor. It does so because matching looks at nothing before the cursor, because
a move clears the count of matches of length zero, and because counting lines and columns on from
the cursor gives the same places as counting them from the start of the text.

## Main definitions

* `Machine.Resumes`: a machine in a text and one in the rest of the text go on in the same way.
* `continued`: the result of a scan of the rest, told for the whole text.

## Main statements

* `Machine.Resumes.result_run`: both machines come to the same result.
* `scan_restart`: a scan goes on like one that starts where it stands.
-/

namespace PushdownLexer

variable {κ : Type} {book : Rulebook κ} {settings : ScanSettings} {text : List Char}
  {base : Position} {before : List (Token κ)}

/-- The result of a scan of the part of a text that starts at `base`, told for the whole text, from
which `before` was made up to there. -/
def continued (base : Position) (before : List (Token κ)) :
    Except ScanFault (Scanned κ) → Except ScanFault (Scanned κ)
  | .ok out =>
    .ok ⟨before ++ out.tokens.map (Token.shift base), out.length + base.offset, out.state⟩
  | .error f => .error (f.shift base)

/-! ## Matches -/

/-- The selection looks only at what is left. -/
theorem select?_of_rest_eq {rules : List (Rule κ)} {rule : Rule κ} {found : Match κ} {c d : Cursor}
    (hrest : c.rest = d.rest) (h : select? rules d = .ok (some (rule, found))) :
    ∃ skipped count, found = rule.matchAt d skipped count ∧
      select? rules c = .ok (some (rule, rule.matchAt c skipped count)) := by
  obtain ⟨happly, hfirst⟩ := select?_eq_some_iff.1 h
  obtain ⟨skipped, count, hfind, rfl⟩ := Rule.apply_eq_some_iff.1 happly
  rw [← hrest] at hfind hfirst
  exact ⟨skipped, count, rfl, select?_eq_some_iff.2
    ⟨Rule.apply_eq_some_iff.2 ⟨skipped, count, hfind, rfl⟩, hfirst⟩⟩

namespace Machine

/-- The machine `m`, whose text has been cut at `base` after the tokens `before` were made, goes on
as `n` does, whose text is the part after the cut. -/
structure Resumes (base : Position) (before : List (Token κ)) (part : List Char)
    (m n : Machine κ) : Prop where
  within : n.cursor.Within part
  rest : m.cursor.rest = n.cursor.rest
  place : m.cursor.place = base.shift n.cursor.place
  nesting : m.nesting = n.nesting
  rules : m.rules = n.rules
  stalled : m.stalled = n.stalled
  tokens : m.tokens.reverse = before ++ n.tokens.reverse.map (Token.shift base)

namespace Resumes

variable {part : List Char} {m n : Machine κ} {rule : Rule κ} {found : Match κ} {stalled : Nat}
  {d : Directive} {t : Machine κ} {f : ScanFault} {events : List ScanEvent}
  (h : Resumes base before part m n)

include h

theorem atEnd_eq : m.cursor.atEnd = n.cursor.atEnd := by simp [Cursor.atEnd, h.rest]

theorem place_afterAll (passed : List Char) :
    m.cursor.place.afterAll passed = base.shift (n.cursor.place.afterAll passed) := by
  obtain ⟨start, -, hplace⟩ := h.within.passed
  rw [h.place, hplace, ← Position.afterAll_append, Position.shift_afterAll_origin,
    Position.shift_afterAll_origin, Position.afterAll_append]

theorem countStalls?_matchAt (rule : Rule κ) (skipped count : Nat) :
    m.countStalls? (rule.matchAt m.cursor skipped count) =
      n.countStalls? (rule.matchAt n.cursor skipped count) := by
  have hlimit : m.stallLimit = n.stallLimit := by rw [stallLimit, stallLimit, h.nesting]
  have hlength : (rule.matchAt m.cursor skipped count).length =
      (rule.matchAt n.cursor skipped count).length := by rw [Rule.matchAt, Rule.matchAt, h.rest]
  rw [countStalls?, countStalls?, hlimit, hlength, h.stalled]
  rfl

theorem token_matchAt (rule : Rule κ) (skipped count : Nat) :
    (rule.matchAt m.cursor skipped count).token =
      (rule.matchAt n.cursor skipped count).token.map (Token.shift base) := by
  simp only [Rule.matchAt, h.rest, h.place_afterAll]
  simp only [h.place, Option.map_map]
  rfl

/-- Where the machine in the part applies a match, the other one applies the same match there. -/
theorem applies (happlies : n.Applies rule found stalled) :
    ∃ found', m.Applies rule found' stalled ∧ found'.directive = found.directive ∧
      Resumes base before part (m.moveOn rule found' stalled) (n.moveOn rule found stalled) := by
  obtain ⟨skipped, count, rfl, hselect⟩ := select?_of_rest_eq h.rest happlies.selected
  refine ⟨rule.matchAt m.cursor skipped count, ⟨?_, ?_, ?_⟩, rfl, ?_⟩
  · rw [h.atEnd_eq, happlies.more]
  · rw [h.rules, hselect]
  · rw [h.countStalls?_matchAt, happlies.counted]
  · refine ⟨h.within.moveBy happlies.moveBy, ?_, ?_, h.nesting, h.rules, rfl, ?_⟩
    · simp [moveOn, Rule.matchAt, h.rest]
    · simp only [moveOn, Rule.matchAt, h.rest, h.place_afterAll]
    · rw [moveOn, moveOn, h.token_matchAt]
      cases (rule.matchAt n.cursor skipped count).token <;> simp [h.tokens]

theorem follows (hfollows : Follows book n d t) :
    ∃ t', Follows book m d t' ∧ Resumes base before part t' t := by
  obtain ⟨t', hfollows', hnesting, hrules⟩ := hfollows.exists_of_eq h.nesting h.rules
  obtain ⟨hcursor, hstalled, htokens, -⟩ := hfollows.frame
  obtain ⟨hcursor', hstalled', htokens', -⟩ := hfollows'.frame
  refine ⟨t', hfollows', ?_, ?_, ?_, hnesting, hrules, ?_, ?_⟩
  · rw [hcursor]
    exact h.within
  · rw [hcursor, hcursor', h.rest]
  · rw [hcursor, hcursor', h.place]
  · rw [hstalled, hstalled', h.stalled]
  · rw [htokens, htokens', h.tokens]

theorem blocked (hblocked : Blocked book n d events f) :
    ∃ events', Blocked book m d events' (f.shift base) := by
  cases hblocked with
  | outermost hup =>
    have hm : Blocked book m .leave m.events _ := .outermost (h.nesting ▸ hup)
    rw [h.nesting, h.place] at hm
    exact ⟨_, hm⟩
  | nowhere hup hrules =>
    have hm : Blocked book m .leave _ _ := .nowhere (h.nesting ▸ hup) hrules
    rw [h.place] at hm
    exact ⟨_, hm⟩
  | noSuchState hrules =>
    have hm : Blocked book m _ m.events _ := .noSuchState hrules
    rw [h.place] at hm
    exact ⟨_, hm⟩
  | tooDeep hrules hroom =>
    have hm : Blocked book m _ m.events _ := .tooDeep hrules (h.nesting ▸ hroom)
    rw [h.place, h.nesting] at hm
    exact ⟨_, hm⟩

theorem fails (hfails : Fails book settings n events f) :
    ∃ events', Fails book settings m events' (f.shift base) := by
  cases hfails with
  | noRule hmore hnone =>
    have hm : Fails book settings m m.events _ := .noRule (h.atEnd_eq.trans hmore) (by
      rw [select?_eq_none_iff, h.rules, h.rest]
      exact select?_eq_none_iff.1 hnone)
    rw [h.nesting, h.place, Cursor.preview, h.rest] at hm
    exact ⟨_, hm⟩
  | @standstill rule found hmore hselected hcount =>
    obtain ⟨skipped, count, rfl, hselect⟩ := select?_of_rest_eq h.rest hselected
    have hm : Fails book settings m m.events _ :=
      .standstill (h.atEnd_eq.trans hmore) (h.rules.symm ▸ hselect) (by
        rw [← hcount, h.countStalls?_matchAt])
    rw [h.nesting, h.place] at hm
    exact ⟨_, hm⟩
  | @blocked rule found stalled events f happlies hblocked =>
    obtain ⟨found', happlies', hdirective, hmoved⟩ := h.applies happlies
    obtain ⟨events', hblocked'⟩ := hmoved.blocked hblocked
    exact ⟨events', .blocked happlies' (hdirective ▸ hblocked')⟩
  | unclosed hend hstrict hdepth =>
    have hm : Fails book settings m m.events _ :=
      .unclosed (h.atEnd_eq.trans hend) hstrict (h.nesting ▸ hdepth)
    rw [h.nesting, h.place] at hm
    exact ⟨_, hm⟩

end Resumes

/-- Both machines come to the same result. -/
theorem Resumes.result_run {part : List Char} {m n : Machine κ}
    (h : Resumes base before part m n) :
    (m.run book settings).result = continued base before (n.run book settings).result := by
  -- By induction on the run in the part; each of its steps is one of the other run.
  induction n using Machine.run.induct book settings generalizing m with
  | case1 n o hstep =>
    rw [run_of_halt hstep]
    obtain ⟨hend, hopen, rfl⟩ | ⟨events, f, hfails, rfl⟩ := finished_or_fails_of_step hstep
    · have hm : m.step book settings = .halt m.finished :=
        step_eq_finished (h.atEnd_eq.trans hend) (h.nesting.symm ▸ hopen)
      rw [run_of_halt hm, finished, Cursor.offset, h.place, h.nesting, h.tokens]
      rfl
    · obtain ⟨events', hfails'⟩ := h.fails hfails
      rw [run_of_halt hfails'.step_eq]
      rfl
  | case2 n t hstep ih =>
    obtain ⟨rule, found, stalled, happlies, hfollows⟩ := applies_of_step hstep
    obtain ⟨found', happlies', hdirective, hmoved⟩ := h.applies happlies
    obtain ⟨t', hfollows', ht⟩ := hmoved.follows hfollows
    rw [← hdirective] at hfollows'
    rw [run_of_goOn hstep, run_of_goOn (happlies'.step_eq.trans hfollows'.follow_eq)]
    exact ih ht

end Machine

/-- A machine that has just moved and is in the start state only goes on as the first machine of a
scan of the rest. -/
theorem Reached.resumes {v : Move κ} {moves : List (Move κ)} {m : Machine κ}
    (h : Reached book settings text (v :: moves) m) (hmoved : v.length ≠ 0)
    (hstart : m.nesting.toList = [settings.startState]) :
    m.Resumes m.cursor.place m.tokens.reverse m.cursor.rest
      (Machine.initial book settings m.cursor.rest m.rules) where
  within := Cursor.within_ofText _
  rest := rfl
  place := (Position.shift_origin _).symm
  nesting := by
    obtain ⟨hup, hactive⟩ := Nesting.toList_eq_singleton_iff.1 hstart
    have hlimit := h.consistent.limit
    rw [max_comm] at hlimit
    cases hnesting : m.nesting
    simp_all [Machine.initial, Nesting.single]
  rules := rfl
  stalled := by rw [h.consistent.stalled, Machine.countStill_cons, if_neg hmoved]; rfl
  tokens := by simp [Machine.initial]

/-- A scan goes on from such a machine as a scan of the rest. -/
theorem Reached.result_eq_continued {v : Move κ} {moves : List (Move κ)} {m : Machine κ}
    (h : Reached book settings text (v :: moves) m) (hmoved : v.length ≠ 0)
    (hstart : m.nesting.toList = [settings.startState]) :
    (scan book settings text).result =
      continued m.cursor.place m.tokens.reverse (scan book settings m.cursor.rest).result := by
  have hrules := h.consistent.rules
  rw [(Nesting.toList_eq_singleton_iff.1 hstart).2] at hrules
  have hinitial : Reached book settings m.cursor.rest [] _ :=
    .start (Machine.start_eq_initial hrules)
  rw [h.scan_eq, hinitial.scan_eq, (h.resumes hmoved hstart).result_run]

/-- A scan that has just moved, and is in its start state with no other state around it, goes on as
a scan that starts there; if it fails, then with the same fault at the place in the whole text. -/
theorem scan_restart {v : Move κ} {moves : List (Move κ)} {m : Machine κ}
    (h : Reached book settings text (v :: moves) m) (hmoved : v.length ≠ 0)
    (hstart : m.nesting.toList = [settings.startState]) :
    (∃ passed, text = passed ++ m.cursor.rest ∧ m.cursor.offset = byteLength passed) ∧
      (scan book settings text).result =
        continued (Position.ofOffset text m.cursor.offset)
          ((v :: moves).reverse.filterMap Move.token?)
          (scan book settings m.cursor.rest).result ∧
      ∀ f, (scan book settings m.cursor.rest).result = .error f →
        ∃ f', (scan book settings text).result = .error f' ∧ f'.kind = f.kind ∧
          f'.state? = f.state? ∧ f'.description = f.description ∧
          f'.place? = f.place?.map (Position.ofOffset text m.cursor.offset).shift := by
  have hresult := h.result_eq_continued hmoved hstart
  rw [h.tokens_eq, h.consistent.cursor.place_eq_ofOffset, ← List.filterMap_reverse] at hresult
  refine ⟨h.consistent.cursor.boundary, hresult, fun f hf => ?_⟩
  obtain ⟨hkind, hstate, hdescription⟩ :=
    f.description_shift (Position.ofOffset text m.cursor.offset)
  exact ⟨_, by rw [hresult, hf, continued], hkind, hstate, hdescription, f.place?_shift _⟩

/-- Rules for letters, and for brackets around nothing. -/
def emptyBrackets : Rulebook String where
  entries := [
    ("root", [
      ⟨"\\(", atCursor (.literal ['(']), .enter "inner", fun _ => none⟩,
      ⟨"a", atCursor (.literal ['a']), .stay, some⟩]),
    ("inner", [⟨"\\)", atCursor (.literal [')']), .leave, fun _ => none⟩])]

/-- After the brackets, the letter is scanned as if it stood alone. -/
theorem emptyBrackets_restarted :
    ∃ v moves m, Reached emptyBrackets {} ['(', ')', 'a'] (v :: moves) m ∧ v.length = 1 ∧
      m.nesting.toList = ["root"] ∧ m.cursor.rest = ['a'] ∧
      (scan emptyBrackets {} ['(', ')', 'a']).result =
        continued ⟨1, 3, 2⟩ [] (scan emptyBrackets {} ['a']).result := by
  have start : Reached emptyBrackets {} ['(', ')', 'a'] [] _ := .start rfl
  have inside := start.next ⟨rfl, rfl, rfl⟩ (.enter rfl (by decide))
  have outside := inside.next ⟨rfl, rfl, rfl⟩ (.leave rfl rfl)
  obtain ⟨-, hresult, -⟩ := scan_restart outside (by decide) rfl
  exact ⟨_, _, _, outside, rfl, rfl, rfl, hresult⟩

end PushdownLexer
