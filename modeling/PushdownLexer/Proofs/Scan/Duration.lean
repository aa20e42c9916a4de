import PushdownLexer.Proofs.Scan.Reached

/-!
# How many rules a scan selects

In each step with text left, a scan selects a rule. It uses up text or stalls then, so the number of
selections so far is bounded by what is used up and by the stall count: each byte pays for the
selection that passes over it and for the matches of length zero that may come before it. So every
scan ends, after no more selections than the bytes of its text pay for.

## Main definitions

* `scanWithin`: a scan that may make a given number of selections.

## Main statements

* `Reached.length_le`: the moves made are paid for.
* `scanWithin_eq_scan`: a scan ends within the bound.
-/

namespace PushdownLexer

variable {κ : Type} {book : Rulebook κ} {settings : ScanSettings} {text : List Char}
  {moves : List (Move κ)} {m : Machine κ} {n : Nat}

/-- The run from a machine, if it ends with at most `n` selections of a rule. A step makes one
unless the machine is at the end of the text. -/
def Machine.runWithin (book : Rulebook κ) (settings : ScanSettings) :
    Nat → Machine κ → Option (ScanOutcome κ)
  | 0, m =>
    match m.cursor.atEnd, m.step book settings with
    | true, .halt o => some o
    | _, _ => none
  | n + 1, m =>
    match m.step book settings with
    | .halt o => some o
    | .goOn t => runWithin book settings n t

/-- The scan of a text, if it ends with at most `n` selections of a rule. -/
def scanWithin (book : Rulebook κ) (settings : ScanSettings) (text : List Char) (n : Nat) :
    Option (ScanOutcome κ) :=
  match Machine.start book settings text with
  | .halt o => some o
  | .goOn m => m.runWithin book settings n

/-- How many matches of length zero may be made at one place. -/
def ScanSettings.mostStalls (settings : ScanSettings) : Nat := 2 * max 1 settings.maxDepth

namespace Reached

theorem stalled_le (h : Reached book settings text moves m) : m.stalled ≤ settings.mostStalls := by
  have hlimit := h.consistent.limit
  have hstalled := h.consistent.stalled_le
  rw [Machine.stallLimit, hlimit] at hstalled
  exact hstalled.trans (min_le_left _ _)

/-- The bytes passed and the stall count pay for the moves made. -/
theorem length_le (h : Reached book settings text moves m) :
    moves.length ≤ m.cursor.offset * (settings.mostStalls + 1) + m.stalled := by
  induction h with
  | start _ => exact Nat.zero_le _
  | @next moves m t rule found stalled hm happlies hfollows ih =>
    have hoffset := Cursor.offset_of_moveBy happlies.moveBy
    obtain ⟨hcursor, hstalled, -, -⟩ := hfollows.frame
    rw [hcursor, hstalled, List.length_cons]
    change _ ≤ found.cursor.offset * (settings.mostStalls + 1) + stalled
    by_cases hz : found.length = 0
    · have hsame : found.cursor.offset = m.cursor.offset := by omega
      rw [hsame, (happlies.still hz).2.1]
      omega
    · calc
        moves.length + 1
        _ ≤ m.cursor.offset * (settings.mostStalls + 1) + m.stalled + 1 := by omega
        _ ≤ (m.cursor.offset + 1) * (settings.mostStalls + 1) := by
          have := hm.stalled_le
          rw [Nat.succ_mul]
          omega
        _ ≤ found.cursor.offset * (settings.mostStalls + 1) :=
          Nat.mul_le_mul_right _ (by omega)
        _ ≤ _ := Nat.le_add_right _ _

/-- As long as text is left, another selection is paid for. -/
theorem length_lt (h : Reached book settings text moves m) (hmore : m.cursor.atEnd = false) :
    moves.length < byteLength text * (settings.mostStalls + 1) := by
  have hoffset : m.cursor.offset < byteLength text := h.consistent.cursor.offset_lt_iff.2 hmore
  calc
    moves.length
    _ ≤ m.cursor.offset * (settings.mostStalls + 1) + m.stalled := h.length_le
    _ < (m.cursor.offset + 1) * (settings.mostStalls + 1) := by
      have := h.stalled_le
      rw [Nat.succ_mul]
      omega
    _ ≤ byteLength text * (settings.mostStalls + 1) := Nat.mul_le_mul_right _ hoffset

theorem runWithin_eq (h : Reached book settings text moves m)
    (hn : byteLength text * (settings.mostStalls + 1) ≤ moves.length + n) :
    m.runWithin book settings n = some (m.run book settings) := by
  induction n generalizing moves m with
  | zero =>
    cases hend : m.cursor.atEnd with
    | false =>
      have := h.length_lt hend
      omega
    | true =>
      cases hstep : m.step book settings with
      | halt o => rw [Machine.runWithin, hend, hstep, Machine.run_of_halt hstep]
      | goOn t =>
        obtain ⟨_, _, _, happlies, -⟩ := Machine.applies_of_step hstep
        cases hend.symm.trans happlies.more
  | succ n ih =>
    cases hstep : m.step book settings with
    | halt o => rw [Machine.runWithin, hstep, Machine.run_of_halt hstep]
    | goOn t =>
      obtain ⟨rule, found, stalled, happlies, hfollows⟩ := Machine.applies_of_step hstep
      rw [Machine.runWithin, hstep, Machine.run_of_goOn hstep]
      refine ih (h.next happlies hfollows) ?_
      rw [List.length_cons]
      omega

end Reached

/-- A scan ends with at most as many selections of a rule as its bytes pay for: each one for a
selection, and for one more for each match of length zero that may come before it. On the empty text
no rule is selected. -/
theorem scanWithin_eq_scan (book : Rulebook κ) (settings : ScanSettings) (text : List Char) :
    scanWithin book settings text (byteLength text * (2 * max 1 settings.maxDepth + 1)) =
        some (scan book settings text) ∧
      scanWithin book settings [] 0 = some (scan book settings []) := by
  have hends : ∀ text n, byteLength text * (settings.mostStalls + 1) ≤ n →
      scanWithin book settings text n = some (scan book settings text) := by
    intro text n hn
    cases hstart : Machine.start book settings text with
    | halt o => rw [scanWithin, scan, hstart]
    | goOn m =>
      rw [scanWithin, scan, hstart]
      exact (Reached.start hstart).runWithin_eq (by simpa using hn)
  exact ⟨hends text _ le_rfl, hends [] 0 (by simp)⟩

-- With room for two states, the bound for a single byte is five, and going to and fro meets it.
example :
    (scanWithin
      ⟨[("root", [⟨"", atCursor .empty, .enter "other", fun _ => (none : Option Unit)⟩]),
        ("other", [⟨"", atCursor .empty, .leave, fun _ => none⟩])]⟩
      { maxDepth := 2 } ['a'] 4).isNone = true := rfl

end PushdownLexer
