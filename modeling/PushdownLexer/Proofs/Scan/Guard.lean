import PushdownLexer.Proofs.Scan.Reached

/-!
# The limit on matches of length zero is exact

A scan gives up when more matches of length zero follow each other than twice the number of states
there may be. Without this limit it would either end all the same, and in the same way, or go on for
ever at the cursor where it gave up.

The reason is that entering a state and leaving it, both without moving, leads back to where the
scan was, so that it goes round from then on. Matches of length zero that do not go round leave
states first and enter states after, and of both there are fewer than states there may be.

## Main definitions

* `Machine.freeStep`, `freeScan`: a step, and the first steps of a scan, without the limit.
* `Machine.Loops`: the steps without the limit go on for ever without moving.
* `Machine.Alternates`: they do so by going to and fro between two spots.
* `Machine.Paced`: as long as the machine does not go round, its stall count is small.

## Main statements

* `Reached.paced`: all machines on the way of a scan are paced.
* `alternates_of_countStalls?_eq_none`: where a scan gives up it would go to and fro for ever.
* `scan_eq_freeScan`: the limit is exact.
-/

namespace PushdownLexer

variable {κ : Type} {book : Rulebook κ} {settings : ScanSettings} {text : List Char}

namespace Machine

/-- A step that applies every match, however many matches of length zero there were. They are still
counted, but nothing depends on the count. -/
def freeStep (book : Rulebook κ) (settings : ScanSettings) (m : Machine κ) : StepResult κ :=
  if m.cursor.atEnd then m.finish settings
  else
    match select? m.rules m.cursor with
    | .error f => m.abort f
    | .ok none =>
      m.abort (.noRule m.cursor.place m.nesting.active (m.cursor.preview settings.previewLength))
    | .ok (some (rule, found)) =>
      let stalled := if found.length = 0 then m.stalled + 1 else 0
      (m.moveOn rule found stalled).follow book found.directive

end Machine

/-- What a scan without the limit has come to after `n` steps. -/
def freeScan (book : Rulebook κ) (settings : ScanSettings) (text : List Char) (n : Nat) :
    StepResult κ :=
  match Machine.start book settings text with
  | .halt o => .halt o
  | .goOn m => Machine.iterate (Machine.freeStep book settings) n m

namespace Machine

variable {m m' t u : Machine κ} {rule : Rule κ} {found : Match κ} {stalled n : Nat}

/-! ## Iterating -/

/-- An end stays. -/
theorem iterate_add_of_halt {next : Machine κ → StepResult κ} {o : ScanOutcome κ}
    (h : iterate next n m = .halt o) (k : Nat) :
    iterate next (n + k) m = .halt o := by
  induction n generalizing m with
  | zero => cases h
  | succ n ih =>
    rw [Nat.succ_add]
    cases hnext : next m with
    | goOn u =>
      rw [iterate_of_goOn hnext] at h ⊢
      exact ih h
    | halt o' =>
      rw [iterate_of_halt hnext] at h ⊢
      exact h

/-! ## Steps with and without the limit -/

theorem freeStep_of_selected (hmore : m.cursor.atEnd = false)
    (hselected : select? m.rules m.cursor = .ok (some (rule, found))) :
    m.freeStep book settings =
      (m.moveOn rule found (if found.length = 0 then m.stalled + 1 else 0)).follow book
        found.directive := by
  simp only [freeStep, hmore, hselected, Bool.false_eq_true, if_false]

/-- The limit changes a step only by ending the scan. -/
theorem step_eq_freeStep_or (book : Rulebook κ) (settings : ScanSettings) (m : Machine κ) :
    m.step book settings = m.freeStep book settings ∨
      ∃ rule found, m.cursor.atEnd = false ∧
        select? m.rules m.cursor = .ok (some (rule, found)) ∧ m.countStalls? found = none := by
  cases hend : m.cursor.atEnd with
  | true =>
    left
    simp only [step, freeStep, hend, if_true]
  | false =>
    obtain hnone | ⟨rule, found, hselected⟩ := select?_cases m.rules m.cursor
    · left
      simp only [step, freeStep, hend, hnone]
    · cases hcount : m.countStalls? found with
      | none => exact .inr ⟨rule, found, rfl, hselected, hcount⟩
      | some stalled =>
        have happlies : m.Applies rule found stalled := ⟨hend, hselected, hcount⟩
        left
        rw [happlies.step_eq, freeStep_of_selected hend hselected, happlies.stalled_eq]

/-! ## Steps that do not move -/

/-- What a machine does depends on where it stands, the states it is in and their rules. -/
def spot (m : Machine κ) : Cursor × Nesting × List (Rule κ) := (m.cursor, m.nesting, m.rules)

theorem spot_eq_iff :
    m'.spot = m.spot ↔
      m'.cursor = m.cursor ∧ m'.nesting = m.nesting ∧ m'.rules = m.rules := by
  simp [spot]

/-- A step without the limit leads on and does not move. -/
def Idles (book : Rulebook κ) (settings : ScanSettings) (m t : Machine κ) : Prop :=
  m.freeStep book settings = .goOn t ∧ t.cursor = m.cursor

/-- The steps without the limit go on for ever and never move. -/
def Loops (book : Rulebook κ) (settings : ScanSettings) (m : Machine κ) : Prop :=
  ∀ n, ∃ t, iterate (freeStep book settings) n m = .goOn t ∧ t.cursor = m.cursor

/-- Two steps without the limit lead back to the same spot, and neither of them moves. -/
def Alternates (book : Rulebook κ) (settings : ScanSettings) (m : Machine κ) : Prop :=
  ∃ t u, m.Idles book settings t ∧ t.Idles book settings u ∧ u.spot = m.spot

theorem selected_of_freeStep (h : m.freeStep book settings = .goOn t) :
    ∃ rule found, m.cursor.atEnd = false ∧
      select? m.rules m.cursor = .ok (some (rule, found)) ∧
      Follows book (m.moveOn rule found (if found.length = 0 then m.stalled + 1 else 0))
        found.directive t := by
  cases hend : m.cursor.atEnd with
  | true =>
    rw [freeStep, if_pos hend, finish] at h
    split at h <;> cases h
  | false =>
    obtain hnone | ⟨rule, found, hselected⟩ := select?_cases m.rules m.cursor
    · simp only [freeStep, hend, hnone, Bool.false_eq_true, if_false] at h
      cases h
    · rw [freeStep_of_selected hend hselected] at h
      exact ⟨rule, found, rfl, hselected, follow_eq_goOn_iff.1 h⟩

theorem Follows.of_spot_eq {d : Directive} (h : Follows book m d t) (hspot : m'.spot = m.spot) :
    ∃ t', Follows book m' d t' ∧ t'.spot = t.spot := by
  obtain ⟨hcursor, hnesting, hrules⟩ := spot_eq_iff.1 hspot
  cases h with
  | stay => exact ⟨m', .stay, hspot⟩
  | leave hup hnext =>
    exact ⟨_, .leave (hnesting ▸ hup) hnext, by simp [spot_eq_iff, hcursor, hnesting]⟩
  | enter hstate hroom =>
    exact ⟨_, .enter hstate (hnesting ▸ hroom), by simp [spot_eq_iff, hcursor, hnesting]⟩

/-- Machines at the same spot do the same. -/
theorem Idles.of_spot_eq (h : m.Idles book settings t) (hspot : m'.spot = m.spot) :
    ∃ t', m'.Idles book settings t' ∧ t'.spot = t.spot := by
  obtain ⟨hcursor, hnesting, hrules⟩ := spot_eq_iff.1 hspot
  obtain ⟨rule, found, hmore, hselected, hfollows⟩ := selected_of_freeStep h.1
  have hmoved : (m'.moveOn rule found (if found.length = 0 then m'.stalled + 1 else 0)).spot =
      (m.moveOn rule found (if found.length = 0 then m.stalled + 1 else 0)).spot :=
    spot_eq_iff.2 ⟨rfl, hnesting, hrules⟩
  obtain ⟨t', hfollows', hspot'⟩ := hfollows.of_spot_eq hmoved
  rw [← hcursor] at hmore hselected
  rw [← hrules] at hselected
  refine ⟨t', ⟨(freeStep_of_selected hmore hselected).trans hfollows'.follow_eq, ?_⟩, hspot'⟩
  rw [(spot_eq_iff.1 hspot').1, h.2, hcursor]

/-- Two steps that lead back to the same spot are made again and again. -/
theorem Alternates.loops (h : m.Alternates book settings) : m.Loops book settings := by
  obtain ⟨t, u, hmt, htu, hspot⟩ := h
  -- Each machine to come stands at the spot of one of the two.
  have hall : ∀ n x, x.spot = m.spot ∨ x.spot = t.spot →
      ∃ y, iterate (freeStep book settings) n x = .goOn y ∧ y.cursor = x.cursor := by
    intro n
    induction n with
    | zero => exact fun x _ => ⟨x, rfl, rfl⟩
    | succ n ih =>
      intro x hx
      obtain ⟨y, ⟨hstep, hcursor⟩, hy⟩ : ∃ y, x.Idles book settings y ∧
          (y.spot = m.spot ∨ y.spot = t.spot) := by
        rcases hx with hx | hx
        · obtain ⟨y, hidles, hy⟩ := hmt.of_spot_eq hx
          exact ⟨y, hidles, .inr hy⟩
        · obtain ⟨y, hidles, hy⟩ := htu.of_spot_eq hx
          exact ⟨y, hidles, .inl (hy.trans hspot)⟩
      obtain ⟨z, hz, hsame⟩ := ih y hy
      exact ⟨z, (iterate_of_goOn hstep n).trans hz, hsame.trans hcursor⟩
  exact fun n => hall n m (.inl rfl)

theorem Alternates.of_freeStep (hm : m.Alternates book settings)
    (h : m.freeStep book settings = .goOn t) : t.Alternates book settings := by
  obtain ⟨t', u, hmt, htu, hspot⟩ := hm
  cases h.symm.trans hmt.1
  obtain ⟨x, hx, hspot'⟩ := hmt.of_spot_eq hspot
  exact ⟨u, x, htu, hx, hspot'⟩

theorem Applies.freeStep_eq (h : m.Applies rule found stalled) :
    m.freeStep book settings = m.step book settings := by
  rw [h.step_eq, freeStep_of_selected h.more h.selected, h.stalled_eq]

theorem Applies.idles (h : m.Applies rule found stalled) (hz : found.length = 0)
    (hfollows : Follows book (m.moveOn rule found stalled) found.directive t) :
    m.Idles book settings t := by
  have hmove := h.moveBy
  rw [hz] at hmove
  refine ⟨h.freeStep_eq.trans (h.step_eq.trans hfollows.follow_eq), ?_⟩
  rw [hfollows.frame.1]
  exact Cursor.eq_of_moveBy_zero hmove

/-! ## The pace of a scan -/

/-- The last step entered a state without moving, from a machine with the rules of its state. -/
def Entered (book : Rulebook κ) (settings : ScanSettings) (m : Machine κ) : Prop :=
  ∃ u : Machine κ, u.Idles book settings m ∧ book.get? u.nesting.active = some u.rules ∧
    m.nesting = ⟨m.nesting.active, u.nesting.active :: u.nesting.around, u.nesting.limit⟩

/-- To leave a state just entered, again without moving, is to go round. -/
theorem Entered.alternates {next : String} {around : List String} (hm : m.Entered book settings)
    (hidles : m.Idles book settings t) (hup : m.nesting.around = next :: around)
    (hnesting : t.nesting = ⟨next, around, m.nesting.limit⟩)
    (hrules : book.get? next = some t.rules) : m.Alternates book settings := by
  obtain ⟨u, hu, hactive, hentered⟩ := hm
  have hback : t.nesting = u.nesting := by
    rw [hentered] at hup hnesting
    cases hup
    exact hnesting
  have hsame : t.rules = u.rules := by
    have hnext : next = u.nesting.active := by rw [← hback, hnesting]
    rw [hnext, hactive] at hrules
    exact (Option.some.inj hrules).symm
  have hspot : t.spot = u.spot := spot_eq_iff.2 ⟨hidles.2.trans hu.2, hback, hsame⟩
  obtain ⟨x, hx, hspot'⟩ := hu.of_spot_eq hspot
  exact ⟨t, x, hidles, hx, hspot'⟩

/-- A machine goes round, or its stall count is that of leaving states down to `base` many and
then entering states. -/
inductive Paced (book : Rulebook κ) (settings : ScanSettings) (m : Machine κ) : Prop where
  | alternates (h : m.Alternates book settings)
  | bounded (base : Nat) (hbase : 1 ≤ base) (hdepth : base ≤ m.nesting.depth)
      (hstalled : m.stalled + 2 * base ≤ m.nesting.limit + m.nesting.depth)
      (hentered : base < m.nesting.depth → m.Entered book settings)

/-- As long as states were only left, the stall count is that of the states left. -/
theorem Paced.of_stalled_add_le (h : m.stalled + m.nesting.depth ≤ m.nesting.limit) :
    m.Paced book settings :=
  .bounded m.nesting.depth (Nat.le_add_left 1 _) le_rfl (by omega) fun h => absurd h (lt_irrefl _)

theorem Paced.next (hpaced : m.Paced book settings)
    (hrules : book.get? m.nesting.active = some m.rules)
    (hdepth : m.nesting.depth ≤ m.nesting.limit) (happlies : m.Applies rule found stalled)
    (hfollows : Follows book (m.moveOn rule found stalled) found.directive t) :
    t.Paced book settings := by
  by_cases hz : found.length = 0
  · have hidles : m.Idles book settings t := happlies.idles hz hfollows
    cases hpaced with
    | alternates h => exact .alternates (h.of_freeStep hidles.1)
    | bounded base hbase hle hstalled hentered =>
      obtain ⟨hstay, hcount, -⟩ := happlies.still hz
      generalize found.directive = d at hfollows hstay
      cases hfollows with
      | stay => exact absurd rfl hstay
      | @leave next around rules hup hnext =>
        by_cases hlt : base < m.nesting.depth
        · have halternates := (hentered hlt).alternates hidles hup rfl hnext
          exact .alternates (halternates.of_freeStep hidles.1)
        · -- All states but the first `base` had been left, and now one more is.
          have hdown : m.nesting.depth = around.length + 2 := by
            rw [Nesting.depth, show m.nesting.around = next :: around from hup, List.length_cons]
          apply Paced.of_stalled_add_le
          simp only [Nesting.depth, moveOn, hcount]
          omega
      | @enter state rules hnext hroom =>
        refine .bounded base hbase ?_ ?_ fun _ => ⟨m, hidles, hrules, rfl⟩
        · simp only [Nesting.depth, moveOn, List.length_cons] at hle ⊢
          omega
        · simp only [Nesting.depth, moveOn, List.length_cons, hcount] at hstalled ⊢
          omega
  · have hzero : t.stalled = 0 := hfollows.frame.2.1.trans (happlies.moving hz)
    apply Paced.of_stalled_add_le
    rw [hzero, Nat.zero_add]
    exact hfollows.depth_le hdepth

end Machine

/-- All machines on the way of a scan are paced. -/
theorem Reached.paced {moves : List (Move κ)} {m : Machine κ}
    (h : Reached book settings text moves m) : m.Paced book settings := by
  induction h with
  | start hstart =>
    obtain ⟨rules, -, rfl⟩ := Machine.eq_initial_of_start hstart
    apply Machine.Paced.of_stalled_add_le
    simp only [Machine.initial, Nesting.single, Nesting.depth, List.length_nil]
    omega
  | next hm happlies hfollows ih =>
    exact ih.next hm.consistent.rules hm.consistent.depth_le happlies hfollows

/-- Where a scan gives up it would go to and fro for ever. The bound on the number of states makes
twice this number fit into a word. -/
theorem alternates_of_countStalls?_eq_none {moves : List (Move κ)} {m : Machine κ} {rule : Rule κ}
    {found : Match κ} (hdepth : settings.maxDepth < 2 ^ 63)
    (hm : Reached book settings text moves m) (hmore : m.cursor.atEnd = false)
    (hselected : select? m.rules m.cursor = .ok (some (rule, found)))
    (hcount : m.countStalls? found = none) : m.Alternates book settings := by
  obtain ⟨hz, hstill⟩ := Machine.countStalls?_eq_none_iff.1 hcount
  rcases hstill with hstay | hfull
  · -- The state stays too, so each step is like the one before.
    have hsame : found.cursor = m.cursor := by
      have hmove := moveBy_of_select? hselected
      rw [hz] at hmove
      exact Cursor.eq_of_moveBy_zero hmove
    have hidles : m.Idles book settings (m.moveOn rule found (m.stalled + 1)) := by
      refine ⟨?_, hsame⟩
      rw [Machine.freeStep_of_selected hmore hselected, hstay, if_pos hz]
      rfl
    have hspot : (m.moveOn rule found (m.stalled + 1)).spot = m.spot :=
      Machine.spot_eq_iff.2 ⟨hsame, rfl, rfl⟩
    obtain ⟨x, hx, hspot'⟩ := hidles.of_spot_eq hspot
    exact ⟨_, x, hidles, hx, hspot'.trans hspot⟩
  · cases hm.paced with
    | alternates h => exact h
    | bounded base hbase _ hstalled _ =>
      have hle := hm.consistent.depth_le
      have hlimit := hm.consistent.limit
      norm_num only [Machine.stallLimit, maxWord] at hfull hdepth
      omega

/-! ## Scanning without the limit -/

/-- The moves of a scan are made without the limit too. -/
theorem Reached.freeScan_add {moves : List (Move κ)} {m : Machine κ}
    (h : Reached book settings text moves m) (n : Nat) :
    freeScan book settings text (moves.length + n) =
      Machine.iterate (Machine.freeStep book settings) n m := by
  induction h generalizing n with
  | start hstart => rw [freeScan, hstart, List.length_nil, Nat.zero_add]
  | @next moves m t rule found stalled hm happlies hfollows ih =>
    have hstep : m.freeStep book settings = .goOn t :=
      happlies.freeStep_eq.trans (happlies.step_eq.trans hfollows.follow_eq)
    rw [List.length_cons, Nat.succ_add_eq_add_succ, ih, Machine.iterate_of_goOn hstep]

/-- The end of a scan without the limit stays. -/
theorem freeScan_add_of_halt {n : Nat} {o : ScanOutcome κ}
    (h : freeScan book settings text n = .halt o) (k : Nat) :
    freeScan book settings text (n + k) = .halt o := by
  unfold freeScan at h ⊢
  split at h
  · exact h
  · exact Machine.iterate_add_of_halt h k

/-- A scan that gives up would go on for ever without the limit, at the place that it reports. -/
theorem freeScan_of_standstill (hdepth : settings.maxDepth < 2 ^ 63) {place : Position}
    {state pattern : String}
    (h : (scan book settings text).result = .error (.standstill place state pattern)) :
    ∃ k, ∀ n, ∃ m, freeScan book settings text (k + n) = .goOn m ∧ m.cursor.place = place := by
  obtain ⟨-, hf⟩ | ⟨moves, last, events, hlast, -, hfails⟩ := exists_fails_of_scan h
  · cases hf
  · cases hfails with
    | standstill hmore hselected hcount =>
      have halternates := alternates_of_countStalls?_eq_none hdepth hlast hmore hselected hcount
      refine ⟨moves.length, fun n => ?_⟩
      obtain ⟨m, hm, hcursor⟩ := halternates.loops n
      exact ⟨m, (hlast.freeScan_add n).trans hm, by rw [hcursor]⟩
    | blocked _ hblocked =>
      generalize Match.directive _ = d at hblocked
      cases hblocked

/-- A scan ends as it would without the limit, or it gives up. -/
theorem freeScan_or_standstill (book : Rulebook κ) (settings : ScanSettings) (text : List Char) :
    (∃ n, freeScan book settings text n = .halt (scan book settings text)) ∨
      ∃ place state pattern,
        (scan book settings text).result = .error (.standstill place state pattern) := by
  obtain ⟨moves, last, hlast, hstep⟩ | ⟨hrules, hscan⟩ := scan_cases book settings text
  · obtain hfree | ⟨rule, found, hmore, hselected, hcount⟩ :=
      Machine.step_eq_freeStep_or book settings last
    · refine .inl ⟨moves.length + 1, ?_⟩
      rw [hlast.freeScan_add, Machine.iterate_of_halt (hfree.symm.trans hstep)]
    · exact .inr ⟨_, _, _, hlast.result_eq_of_fails (.standstill hmore hselected hcount)⟩
  · refine .inl ⟨0, ?_⟩
    obtain ⟨rules, hsome, -⟩ | ⟨-, hstart⟩ := Machine.start_cases book settings text
    · cases hrules.symm.trans hsome
    · rw [freeScan, hstart, hscan]

/-- The limit on matches of length zero is exact, if it fits into a word. If the scan without it
ends, the scan ends in the same way. If the scan without it goes on for ever, the scan gives up. And
it gives up only then, at the place that the scan without the limit never leaves again. -/
theorem scan_eq_freeScan (book : Rulebook κ) (settings : ScanSettings) (text : List Char)
    (hdepth : settings.maxDepth < 2 ^ 63) :
    (∀ n o, freeScan book settings text n = .halt o → scan book settings text = o) ∧
      ((∀ n, ∃ m, freeScan book settings text n = .goOn m) →
        ∃ place state pattern,
          (scan book settings text).result = .error (.standstill place state pattern)) ∧
      ∀ place state pattern,
        (scan book settings text).result = .error (.standstill place state pattern) →
          ∃ k, ∀ n, ∃ m,
            freeScan book settings text (k + n) = .goOn m ∧ m.cursor.place = place := by
  refine ⟨fun n o hn => ?_, fun hall => ?_, fun _ _ _ => freeScan_of_standstill hdepth⟩
  · obtain ⟨k, hk⟩ | ⟨_, _, _, hstill⟩ := freeScan_or_standstill book settings text
    · have hscan := freeScan_add_of_halt hk n
      rw [Nat.add_comm, freeScan_add_of_halt hn k] at hscan
      cases hscan
      rfl
    · obtain ⟨k, hk⟩ := freeScan_of_standstill hdepth hstill
      obtain ⟨m, hm, -⟩ := hk n
      rw [Nat.add_comm, freeScan_add_of_halt hn k] at hm
      cases hm
  · obtain ⟨k, hk⟩ | hstill := freeScan_or_standstill book settings text
    · obtain ⟨m, hm⟩ := hall k
      cases hm.symm.trans hk
    · exact hstill

/-- Without the limit the scan of two brackets and a word, in at most three states, ends after seven
steps, so the scan ends in this way too, although three moves of length zero follow each other. -/
theorem brackets_eq_freeScan :
    freeScan brackets { maxDepth := 3 } ['(', '(', 'a'] 7 =
        .halt (scan brackets { maxDepth := 3 } ['(', '(', 'a']) ∧
      (scan brackets { maxDepth := 3 } ['(', '(', 'a']).result =
        .ok ⟨[⟨"a", ⟨⟨1, 3, 2⟩, ⟨1, 4, 3⟩⟩⟩], 3, "word"⟩ := by
  have hends : freeScan brackets { maxDepth := 3 } ['(', '(', 'a'] 7 = .halt _ := rfl
  have hscan :=
    (scan_eq_freeScan brackets { maxDepth := 3 } ['(', '(', 'a'] (by decide)).1 _ _ hends
  refine ⟨?_, ?_⟩
  · rw [hscan]
    exact hends
  · rw [hscan]
    rfl

end PushdownLexer
