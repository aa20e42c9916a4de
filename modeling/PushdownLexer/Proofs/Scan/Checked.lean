import PushdownLexer.Proofs.Scan.Coverage
import PushdownLexer.Proofs.Scan.Duration
import PushdownLexer.Proofs.Text.Moves

/-!
# Scans whose operations are checked

A scan cuts parts out of its text and counts lines, columns, bytes and matches of length zero in
words. A part cannot be cut out if one of its ends is outside of the text or inside of a character,
a count cannot be larger than a word, and the action of a rule may refuse a text. The checked
operations find this out each time, and give nothing then: what is left after the cursor is cut out
of the text whenever it is looked at, and each number is compared with the largest word.

## Main definitions

* `Checked.scan`: the scan that gives nothing as soon as one of its operations fails.
* `Checked.Accepts`: an action that refuses no text that its rule matches.

## Main statements

* `Position.le_afterAll_origin`: lines and columns are bounded by the offset.
* `Checked.step_eq`: no operation of a step fails, on texts and with nestings of limited size.
* `Checked.exists_scan_eq`: none of a scan does.
-/

namespace PushdownLexer

variable {κ : Type} {text before passed left : List Char}

namespace Position

/-- Each line and each column costs a byte. -/
theorem le_afterAll_origin (text : List Char) :
    (origin.afterAll text).line + (origin.afterAll text).column ≤
      (origin.afterAll text).offset + 2 := by
  induction text using List.reverseRecOn with
  | nil => decide
  | append_singleton text c ih =>
    have hcolumn := (one_le_afterAll_origin text).2
    have hsize := c.utf8Size_pos
    rw [afterAll_append, afterAll_cons, afterAll_nil, after]
    split <;> grind

theorem fits_afterAll_origin (h : byteLength text + 2 ≤ maxWord) :
    (origin.afterAll text).fits := by
  have hbound := le_afterAll_origin text
  rw [offset_afterAll_origin] at hbound
  simp only [fits, Bool.and_eq_true, decide_eq_true_eq, offset_afterAll_origin]
  omega

/-- Counting on from a place of a text never passes the largest word, if the text is short enough
for that. -/
theorem afterAll?_origin (h : byteLength (before ++ passed) + 2 ≤ maxWord) :
    (origin.afterAll before).afterAll? passed = some (origin.afterAll (before ++ passed)) := by
  induction passed generalizing before with
  | nil => simp [afterAll?]
  | cons c passed ih =>
    have hnext : (origin.afterAll before).after c = origin.afterAll (before ++ [c]) := by
      rw [afterAll_append, afterAll_cons, afterAll_nil]
    have hfits : (origin.afterAll (before ++ [c])).fits := by
      apply fits_afterAll_origin
      simp only [byteLength_append, byteLength_cons, byteLength_nil] at h ⊢
      omega
    have hrest : (origin.afterAll (before ++ [c])).afterAll? passed =
        some (origin.afterAll (before ++ [c] ++ passed)) := ih (by simpa using h)
    rw [afterAll?, List.foldlM_cons, after?, hnext, if_pos hfits]
    simpa [afterAll?] using hrest

end Position

namespace Cursor.Within

variable {c : Cursor} (hc : c.Within text) (hrest : c.rest = passed ++ left)

include hc hrest

/-- What a cursor has passed and what it passes next make up a beginning of the text. -/
theorem exists_passed :
    ∃ before, c.place = Position.origin.afterAll before ∧
      byteLength (before ++ passed) ≤ byteLength text := by
  obtain ⟨before, hbefore, hplace⟩ := hc.passed
  refine ⟨before, hplace, ?_⟩
  rw [hbefore, hrest, ← List.append_assoc, byteLength_append (before ++ passed)]
  omega

/-- The places that a cursor passes are words, lines and columns being bounded by the offset. -/
theorem place_le (htext : byteLength text + 2 ≤ maxWord) :
    (c.place.afterAll passed).fits ∧
      (c.place.afterAll passed).line + (c.place.afterAll passed).column ≤
        (c.place.afterAll passed).offset + 2 := by
  obtain ⟨before, hplace, hlength⟩ := hc.exists_passed hrest
  rw [hplace, ← Position.afterAll_append]
  exact ⟨Position.fits_afterAll_origin (by omega), Position.le_afterAll_origin _⟩

/-- Counting on over what is left passes no number that is larger than a word. -/
theorem afterAll?_eq (htext : byteLength text + 2 ≤ maxWord) :
    c.place.afterAll? passed = some (c.place.afterAll passed) := by
  obtain ⟨before, hplace, hlength⟩ := hc.exists_passed hrest
  rw [hplace, Position.afterAll?_origin (by omega), Position.afterAll_append]

end Cursor.Within

namespace Checked

/-! ## The operations -/

/-- A number that is counted up to, if it is a word. -/
def word? (n : Nat) : Option Nat := if n ≤ maxWord then some n else none

/-- What is left after a cursor. -/
def rest (c : Cursor) : Option (List Char) := slice? c.text c.offset (byteLength c.text)

/-- Move a cursor by `n` bytes. -/
def moveBy (c : Cursor) (n : Nat) : Option (Except ScanFault Cursor) := do
  let left ← rest c
  if n ≤ byteLength left ∧ IsBoundary left n then
    let passed ← slice? left 0 n
    let place ← c.place.afterAll? passed
    let _ ← word? (c.offset + n)
    return .ok ⟨c.text, left.drop passed.length, place⟩
  else return .error (.outOfText c.place n (byteLength left))

/-- The first `n` characters after a cursor. -/
def preview (c : Cursor) (n : Nat) : Option String := do
  let left ← rest c
  return String.ofList (← slice? left 0 (byteLength (left.take n)))

variable (act : Rule κ → String → Option (Option κ))

/-- Apply a rule at a cursor; its action is that of `act`, which may refuse the matched text. -/
def apply (r : Rule κ) (c : Cursor) : Option (Except ScanFault (Option (Match κ))) := do
  let left ← rest c
  match r.pattern.find? left with
  | none => return .ok none
  | some (skipped, count) =>
    let start := byteLength (left.take skipped)
    let stop := byteLength (left.take (skipped + count))
    match ← moveBy c stop with
    | .error f => return .error f
    | .ok moved =>
      let matched ← slice? left start stop
      let kind? ← act r (String.ofList matched)
      return .ok (some ⟨moved, kind?.map (⟨·, ⟨c.place, moved.place⟩⟩), r.directive, stop⟩)

/-- The first rule that matches at a cursor, with its match. -/
def select : List (Rule κ) → Cursor → Option (Except ScanFault (Option (Rule κ × Match κ)))
  | [], _ => some (.ok none)
  | rule :: rules, c => do
    match ← apply act rule c with
    | .error f => return .error f
    | .ok (some m) => return .ok (some (rule, m))
    | .ok none => select rules c

/-- The count of matches of length zero after one more match. It is counted up before it is compared
with its limit. -/
def countStalls (m : Machine κ) (found : Match κ) : Option (Option Nat) := do
  if found.length = 0 then
    let stalled ← word? (m.stalled + 1)
    return if found.directive = .stay ∨ m.stallLimit < stalled then none else some stalled
  else return some 0

/-- One step of a scan. -/
def step (book : Rulebook κ) (settings : ScanSettings) (m : Machine κ) :
    Option (StepResult κ) := do
  if m.cursor.offset = byteLength m.cursor.text then return m.finish settings
  else
    match ← select act m.rules m.cursor with
    | .error f => return m.abort f
    | .ok none =>
      let ahead ← preview m.cursor settings.previewLength
      return m.abort (.noRule m.cursor.place m.nesting.active ahead)
    | .ok (some (rule, found)) =>
      match ← countStalls m found with
      | none => return m.abort (.standstill m.cursor.place m.nesting.active rule.source)
      | some stalled => return (m.moveOn rule found stalled).follow book found.directive

/-- All steps to the end of a scan, if no more than `n` are needed. -/
def run (book : Rulebook κ) (settings : ScanSettings) :
    Nat → Machine κ → Option (ScanOutcome κ)
  | 0, _ => none
  | n + 1, m => do
    match ← step act book settings m with
    | .halt o => return o
    | .goOn t => run book settings n t

/-- Scan a text, in no more than `n` steps. -/
def scan (book : Rulebook κ) (settings : ScanSettings) (n : Nat) (text : List Char) :
    Option (ScanOutcome κ) :=
  match Machine.start book settings text with
  | .halt o => some o
  | .goOn m => run act book settings n m

/-! ## None of them fails -/

/-- The action of a rule refuses no text that the rule matches. -/
def Accepts (r : Rule κ) : Prop :=
  ∀ left skipped count, r.pattern.find? left = some (skipped, count) →
    act r (String.ofList ((left.drop skipped).take count)) =
      some (r.kind? (String.ofList ((left.drop skipped).take count)))

variable {act} {book : Rulebook κ} {settings : ScanSettings} {c : Cursor} {r : Rule κ}
  {rules : List (Rule κ)} {m : Machine κ} {moves : List (Move κ)} {found : Match κ} {n : Nat}

theorem word?_eq_some (h : n ≤ maxWord) : word? n = some n := if_pos h

theorem rest_eq (hc : c.Within text) : rest c = some c.rest := by
  rw [rest, hc.text_eq]
  exact hc.slice?_eq

-- Nothing can be cut out after a cursor that stands inside of a character.
example : rest ⟨['é'], [], ⟨1, 1, 1⟩⟩ = none := rfl

theorem preview_eq (hc : c.Within text) (n : Nat) : preview c n = some (c.preview n) := by
  simp [preview, rest_eq hc, slice?_take, Cursor.preview]

section

variable (hc : c.Within text) (htext : byteLength text + 2 ≤ maxWord)

include hc htext

theorem moveBy_eq (n : Nat) : moveBy c n = some (c.moveBy n) := by
  by_cases hn : IsBoundary c.rest n
  · obtain ⟨passed, left, hrest, rfl⟩ := hn
    have hmoved : c.moveBy (byteLength passed) = .ok ⟨c.text, left, c.place.afterAll passed⟩ := by
      rw [Cursor.moveBy, hrest, splitAtByte?_append]
    have hslice : slice? c.rest 0 (byteLength passed) = some passed := by
      simpa [hrest] using slice?_append [] passed left
    have hdrop : c.rest.drop passed.length = left := by rw [hrest, List.drop_left]
    have hboundary : IsBoundary c.rest (byteLength passed) := ⟨passed, left, hrest, rfl⟩
    have hword : c.offset + byteLength passed ≤ maxWord := by
      have hsum := hc.offset_add
      have hle := hboundary.le
      omega
    simp [moveBy, rest_eq hc, hboundary, hboundary.le, hslice, hc.afterAll?_eq hrest htext,
      word?_eq_some hword, hdrop, hmoved]
  · have hsplit : splitAtByte? n c.rest = none := by
      rwa [isBoundary_iff, Option.not_isSome_iff_eq_none] at hn
    have hmoved : c.moveBy n = .error (.outOfText c.place n (byteLength c.rest)) := by
      rw [Cursor.moveBy, hsplit]
    simp [moveBy, rest_eq hc, hn, hmoved]

theorem apply_eq (hr : Accepts act r) : apply act r c = some (r.apply c) := by
  rw [apply, rest_eq hc, Option.bind_eq_bind, Option.bind_some, Rule.apply_eq]
  cases hfind : r.pattern.find? c.rest with
  | none => rfl
  | some p =>
    obtain ⟨skipped, count⟩ := p
    simp [moveBy_eq hc htext, Cursor.moveBy_take, slice?_drop_take, hr c.rest skipped count hfind,
      Rule.matchAt]

theorem select_eq (hrules : ∀ r ∈ rules, Accepts act r) :
    select act rules c = some (select? rules c) := by
  induction rules with
  | nil => rfl
  | cons r rules ih =>
    obtain ⟨hr, hrules⟩ := List.forall_mem_cons.1 hrules
    rw [select, select?, apply_eq hc htext hr, Option.bind_eq_bind, Option.bind_some]
    cases r.apply c with
    | error f => rfl
    | ok found =>
      cases found with
      | none => exact ih hrules
      | some found => rfl

end

theorem countStalls_eq (h : m.stalled < maxWord) (found : Match κ) :
    countStalls m found = some (m.countStalls? found) := by
  by_cases hz : found.length = 0
  · simp [countStalls, Machine.countStalls?, hz, word?_eq_some (Nat.succ_le_of_lt h)]
  · simp [countStalls, Machine.countStalls?, hz]

section

variable (hbook : ∀ state rules, book.get? state = some rules → ∀ r ∈ rules, Accepts act r)
  (htext : byteLength text + 2 ≤ maxWord) (hdepth : settings.mostStalls < maxWord)

include hbook htext hdepth

theorem step_eq (hm : Reached book settings text moves m) :
    step act book settings m = some (m.step book settings) := by
  have hc := hm.consistent.cursor
  have hrules := hbook _ _ hm.consistent.rules
  have hstalled : m.stalled < maxWord := hm.stalled_le.trans_lt hdepth
  have hend : m.cursor.offset = byteLength m.cursor.text ↔ m.cursor.atEnd = true := by
    rw [hc.text_eq]
    exact hc.offset_eq_iff_atEnd
  unfold step Machine.step
  simp only [hend]
  split
  · rfl
  · rw [select_eq hc htext hrules, Option.bind_eq_bind, Option.bind_some]
    cases select? m.rules m.cursor with
    | error f => rfl
    | ok selected =>
      cases selected with
      | none => simp [preview_eq hc]
      | some p =>
        obtain ⟨rule, found⟩ := p
        simp only [countStalls_eq hstalled, Option.bind_eq_bind, Option.bind_some]
        cases m.countStalls? found <;> rfl

theorem exists_run_eq (hm : Reached book settings text moves m) :
    ∃ n, run act book settings n m = some (m.run book settings) := by
  induction m using Machine.run.induct book settings generalizing moves with
  | case1 m o hstep =>
    refine ⟨1, ?_⟩
    rw [run, step_eq hbook htext hdepth hm, hstep, Machine.run_of_halt hstep]
    rfl
  | case2 m t hstep ih =>
    obtain ⟨rule, found, stalled, happlies, hfollows⟩ := Machine.applies_of_step hstep
    obtain ⟨n, hn⟩ := ih (hm.next happlies hfollows)
    refine ⟨n + 1, ?_⟩
    rw [run, step_eq hbook htext hdepth hm, hstep, Machine.run_of_goOn hstep]
    exact hn

/-- No operation of a scan fails. -/
theorem exists_scan_eq :
    ∃ n, scan act book settings n text = some (PushdownLexer.scan book settings text) := by
  unfold scan PushdownLexer.scan
  cases hstart : Machine.start book settings text with
  | halt o => exact ⟨0, rfl⟩
  | goOn m => exact exists_run_eq hbook htext hdepth (.start hstart)

end

end Checked

/-! ## Tokens -/

variable {book : Rulebook κ} {settings : ScanSettings}

/-- The range of a token does not end before it starts, and is a part of the text that the token was
found in. -/
theorem lexeme?_of_mem {out : Scanned κ} {token : Token κ}
    (h : (scan book settings text).result = .ok out) (htoken : token ∈ out.tokens) :
    token.span.length? = some token.span.length ∧
      ∃ lexeme, token.lexeme? text = some lexeme ∧ byteLength lexeme = token.span.length := by
  obtain ⟨moves, last, hlast, -, -, -, rfl⟩ := exists_finished_of_scan h
  have hmem : token ∈ moves.filterMap Move.token? := by
    rw [← hlast.tokens_eq]
    exact List.mem_reverse.1 htoken
  obtain ⟨v, hv, ht⟩ := List.mem_filterMap.1 hmem
  obtain ⟨hc, happly⟩ := hlast.moves_applied v hv
  have hmove := Rule.moveBy_of_apply happly
  have hoffset : v.stop = v.start + v.length := Cursor.offset_of_moveBy hmove
  obtain ⟨-, hstart, hstop⟩ := hlast.span_of_token hv ht
  have hlength : token.span.length = v.length := by
    rw [Span.length, hstart, hstop]
    omega
  obtain ⟨lexeme, hslice, hbytes⟩ := hc.slice?_of_moveBy hmove
  refine ⟨?_, lexeme, ?_, hbytes.trans hlength.symm⟩
  · rw [Span.length?, if_neg (by omega), Span.length]
  · rw [Token.lexeme?, Span.text?, hstart, hstop]
    exact hslice

end PushdownLexer
