import PushdownLexer.Proofs.Assembly.Step

/-!
# The dialect without patterns

A text of the dialect can be read character by character: lexeme after lexeme, in one of two modes.
A scan with the settings by default gives just what this reading gives.

## Main definitions

* `Assembly.readFrom`: read the rest of a text, in a mode.
* `Assembly.read`: read a text.

## Main statements

* `Assembly.result_scanSource`: a scan gives what reading gives.
-/

namespace PushdownLexer.Assembly

open Machine

/-- Put tokens in front of those of a scan. -/
def prepend (tokens : List (Token Kind)) (out : Scanned Kind) : Scanned Kind :=
  { out with tokens := tokens ++ out.tokens }

/-- Read the rest of a text, which starts at `place`. -/
def readFrom (mode : Mode) (place : Position) (text : List Char) :
    Except ScanFault (Scanned Kind) :=
  match _h : front? mode text with
  | some l =>
    (readFrom (mode.after l.directive) (l.stop place text) (text.drop l.length)).map
      (prepend (l.token? place text).toList)
  | none =>
    if text = [] then .ok ⟨[], place.offset, mode.state⟩
    else .error (.noRule place mode.state (String.ofList (text.take 20)))
termination_by text.length
decreasing_by
  have hl := begins_of_front? _h
  have := hl.pos
  have := hl.le
  rw [List.length_drop]
  omega

/-- Read a text. -/
def read (text : List Char) : Except ScanFault (Scanned Kind) :=
  readFrom .instructions .origin text

variable {mode : Mode} {place : Position} {text : List Char} {l : Lexeme}

theorem readFrom_of_eq_some (h : front? mode text = some l) :
    readFrom mode place text =
      (readFrom (mode.after l.directive) (l.stop place text) (text.drop l.length)).map
        (prepend (l.token? place text).toList) := by
  rw [readFrom]
  split
  · rename_i l' hl'
    cases h.symm.trans hl'
    rfl
  · rename_i hnone
    cases h.symm.trans hnone

theorem readFrom_of_eq_none (h : front? mode text = none) :
    readFrom mode place text =
      if text = [] then .ok ⟨[], place.offset, mode.state⟩
      else .error (.noRule place mode.state (String.ofList (text.take 20))) := by
  rw [readFrom]
  split
  · rename_i l hl
    cases h.symm.trans hl
  · rfl

/-- What reading succeeds with is the token at the front and what the rest succeeds with. -/
theorem exists_of_readFrom_eq_ok {out : Scanned Kind} (hl : front? mode text = some l)
    (h : readFrom mode place text = .ok out) :
    ∃ out', readFrom (mode.after l.directive) (l.stop place text) (text.drop l.length) = .ok out' ∧
      out = prepend (l.token? place text).toList out' := by
  rw [readFrom_of_eq_some hl] at h
  cases hrest : readFrom (mode.after l.directive) (l.stop place text) (text.drop l.length) with
  | error f => simp [hrest, Except.map] at h
  | ok out' =>
    rw [hrest] at h
    exact ⟨out', rfl, (Except.ok.inj h).symm⟩

theorem map_prepend (tokens tokens' : List (Token Kind)) (out : Except ScanFault (Scanned Kind)) :
    (out.map (prepend tokens')).map (prepend tokens) = out.map (prepend (tokens ++ tokens')) := by
  cases out <;> simp [Except.map, prepend]

/-- A run gives what reading gives, after the tokens that are there already. -/
theorem result_run {m : Machine Kind} (hm : InMode m mode) (hlimit : 2 ≤ m.nesting.limit)
    (houter : m.nesting.toList.head? = some "root") (hplace : m.cursor.place = place)
    (hrest : m.cursor.rest = text) :
    (m.run dialect {}).result = (readFrom mode place text).map (prepend m.tokens.reverse) := by
  -- The reading is followed lexeme by lexeme; each is one step of the machine.
  induction mode, place, text using readFrom.induct generalizing m with
  | case1 mode place text l hl ih =>
    subst hplace hrest
    obtain ⟨rule, happlies⟩ := hm.applies hl
    obtain ⟨t, hfollows⟩ := hm.exists_follows houter (fun _ => hlimit) happlies
    obtain ⟨hcursor, -, htokens, hlimit'⟩ := hfollows.frame
    have ht := ih (hm.next happlies hfollows) (hlimit'.symm ▸ hlimit)
      (hfollows.head?_toList.trans houter) (by rw [hcursor]; rfl) (by rw [hcursor]; rfl)
    have hreverse : t.tokens.reverse =
        m.tokens.reverse ++ (l.token? m.cursor.place m.cursor.rest).toList := by
      rw [htokens]
      cases htoken : l.token? m.cursor.place m.cursor.rest <;> simp [moveOn, Lexeme.matchAt, htoken]
    rw [run_of_goOn (happlies.step_eq.trans hfollows.follow_eq), ht, readFrom_of_eq_some hl,
      map_prepend, hreverse]
  | case2 mode place hnone =>
    have hend : m.cursor.atEnd = true := Cursor.atEnd_iff.2 hrest
    rw [run_of_halt (step_eq_finished hend (by simp)), readFrom_of_eq_none hnone, if_pos rfl,
      ← hplace]
    simp [finished, Except.map, prepend, Cursor.offset, hm.active]
  | case3 mode place text hnone htext =>
    subst hplace hrest
    have hfails : m.Fails dialect {} m.events _ :=
      .noRule (Cursor.atEnd_eq_false_iff.2 htext) (hm.select?_eq_none_iff.2 hnone)
    rw [run_of_halt hfails.step_eq, readFrom_of_eq_none hnone, if_neg htext, hm.active]
    rfl

/-- A scan by the rules of the dialect gives what reading gives. -/
theorem result_scan (text : List Char) : (scan dialect {} text).result = read text := by
  have hstart : Reached dialect {} text [] (initial dialect {} text instructionTable) := .start rfl
  have hm : InMode (initial dialect {} text instructionTable) .instructions := ⟨rfl, rfl, .inl rfl⟩
  have hlimit : (initial dialect {} text instructionTable).nesting.limit = 64 := rfl
  rw [hstart.scan_eq, result_run hm (by omega) rfl rfl rfl, read]
  exact congrFun Except.map_id _

/-- Scanning a text with the settings by default is reading it. -/
theorem result_scanSource (text : List Char) : (scanSource {} text).result = read text := by
  rw [scanSource_eq, result_scan]

end PushdownLexer.Assembly
