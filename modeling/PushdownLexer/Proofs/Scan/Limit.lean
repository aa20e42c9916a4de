import PushdownLexer.Proofs.Scan.Guard

/-!
# Room for more states

A scan that has room for all states that it enters goes the same way with more room. Only the limit
on matches of length zero grows too, so a scan that goes to and fro without moving gives up later.
It still gives the same fault: both limits are even, and to and fro are two steps, so it gives up in
the same state and with the same rule.

## Main definitions

* `Machine.withLimit`: a machine with room for another number of states.
* `Machine.Swings`: a machine goes to and fro between two states.

## Main statements

* `Reached.withLimit`: the way of a scan with more room.
* `Reached.exists_swung`: a machine that goes to and fro comes back as often as the limit allows.
* `result_of_maxDepth_le`: a scan that does not lack room gives the same result with more room.
-/

namespace PushdownLexer

variable {κ : Type} {book : Rulebook κ} {settings settings' : ScanSettings} {text : List Char}
  {moves : List (Move κ)} {m m' t : Machine κ} {rule : Rule κ} {found : Match κ}
  {stalled limit : Nat} {d : Directive} {events : List ScanEvent} {f : ScanFault}

namespace Machine

/-- The machine with room for another number of states. -/
def withLimit (m : Machine κ) (limit : Nat) : Machine κ :=
  { m with nesting := { m.nesting with limit } }

theorem Applies.withLimit (h : m.Applies rule found stalled) (hz : found.length ≠ 0) :
    (m.withLimit limit).Applies rule found stalled := by
  refine ⟨h.more, h.selected, ?_⟩
  rw [countStalls?, if_neg hz, h.moving hz]

theorem Follows.withLimit (h : Follows book m d t)
    (hroom : ∀ state, d = .enter state → m.nesting.depth < limit) :
    Follows book (m.withLimit limit) d (t.withLimit limit) := by
  cases h with
  | stay => exact .stay
  | leave hup hrules => exact .leave hup hrules
  | enter hrules _ => exact .enter hrules (hroom _ rfl)

/-! ## More room -/

theorem stallLimit_le_withLimit (hle : m.nesting.limit ≤ limit) :
    m.stallLimit ≤ (m.withLimit limit).stallLimit := by
  simp only [stallLimit, Machine.withLimit]
  omega

/-- A match of length zero that enters or leaves a state is counted, if the limit allows it. -/
theorem countStalls?_of_still (hz : found.length = 0) (hstay : found.directive ≠ .stay)
    (hroom : m.stalled < m.stallLimit) : m.countStalls? found = some (m.stalled + 1) := by
  rw [countStalls?, if_pos hz, if_neg (not_or.2 ⟨hstay, by omega⟩)]

theorem Applies.withLimit_of_le (h : m.Applies rule found stalled)
    (hle : m.nesting.limit ≤ limit) : (m.withLimit limit).Applies rule found stalled := by
  by_cases hz : found.length = 0
  · obtain ⟨hstay, rfl, hcount⟩ := h.still hz
    have hmore := hcount.trans (stallLimit_le_withLimit hle)
    exact ⟨h.more, h.selected, countStalls?_of_still hz hstay hmore⟩
  · exact h.withLimit hz

theorem Follows.withLimit_of_le (h : Follows book m d t) (hle : m.nesting.limit ≤ limit) :
    Follows book (m.withLimit limit) d (t.withLimit limit) := by
  refine h.withLimit fun state hstate => ?_
  subst hstate
  cases h with
  | enter _ hroom => exact hroom.trans_le hle

/-- What leads nowhere for another reason than a lack of room still does. -/
theorem Blocked.withLimit (h : Blocked book m d events f)
    (hroom : ∀ place state depth, f ≠ .tooDeep place state depth) :
    Blocked book (m.withLimit limit) d events f := by
  cases h with
  | outermost hup => exact .outermost hup
  | nowhere hup hrules => exact .nowhere hup hrules
  | noSuchState hrules => exact .noSuchState hrules
  | tooDeep _ _ => exact absurd rfl (hroom _ _ _)

theorem Idles.withLimit (h : m.Idles book settings t) (hle : m.nesting.limit ≤ limit) :
    (m.withLimit limit).Idles book settings' (t.withLimit limit) := by
  obtain ⟨rule, found, hmore, hselected, hfollows⟩ := selected_of_freeStep h.1
  have hstep : (m.withLimit limit).freeStep book settings' = _ :=
    freeStep_of_selected hmore hselected
  exact ⟨hstep.trans (hfollows.withLimit_of_le hle).follow_eq, h.2⟩

/-! ## To and fro -/

/-- The machine goes to another state and back, without moving. -/
def Swings (book : Rulebook κ) (settings : ScanSettings) (m : Machine κ) : Prop :=
  ∃ t u, m.Idles book settings t ∧ t.Idles book settings u ∧ u.spot = m.spot ∧
    t.nesting ≠ m.nesting

theorem Follows.nesting_ne (h : Follows book m d t) (hd : d ≠ .stay) : t.nesting ≠ m.nesting := by
  intro hsame
  have hdepth := congrArg Nesting.depth hsame
  cases h with
  | stay => exact hd rfl
  | leave hup _ => simp [Nesting.depth, hup] at hdepth
  | enter _ _ => simp [Nesting.depth] at hdepth

theorem Alternates.swings (h : m.Alternates book settings)
    (hselected : select? m.rules m.cursor = .ok (some (rule, found)))
    (hstay : found.directive ≠ .stay) : m.Swings book settings := by
  obtain ⟨t, u, hmt, htu, hspot⟩ := h
  obtain ⟨rule', found', -, hselected', hfollows⟩ := selected_of_freeStep hmt.1
  cases hselected.symm.trans hselected'
  exact ⟨t, u, hmt, htu, hspot, hfollows.nesting_ne hstay⟩

theorem Swings.of_spot_eq (h : m.Swings book settings) (hspot : m'.spot = m.spot) :
    m'.Swings book settings := by
  obtain ⟨t, u, hmt, htu, hback, hne⟩ := h
  obtain ⟨t', hmt', ht⟩ := hmt.of_spot_eq hspot
  obtain ⟨u', htu', hu⟩ := htu.of_spot_eq ht
  refine ⟨t', u', hmt', htu', hu.trans (hback.trans hspot.symm), ?_⟩
  rwa [(spot_eq_iff.1 ht).2.1, (spot_eq_iff.1 hspot).2.1]

theorem Swings.withLimit (h : m.Swings book settings) (hle : m.nesting.limit ≤ limit) :
    (m.withLimit limit).Swings book settings' := by
  obtain ⟨t, u, hmt, htu, hspot, hne⟩ := h
  obtain ⟨hcursor, hnesting, hrules⟩ := spot_eq_iff.1 hspot
  have hlimit : t.nesting.limit = m.nesting.limit := by
    obtain ⟨_, _, -, -, hfollows⟩ := selected_of_freeStep hmt.1
    exact hfollows.frame.2.2.2
  refine ⟨_, _, hmt.withLimit hle, htu.withLimit (hlimit.trans_le hle), ?_, fun hsame => hne ?_⟩
  · exact spot_eq_iff.2 ⟨hcursor, by simp only [Machine.withLimit, hnesting], hrules⟩
  · cases ht : t.nesting
    cases hm : m.nesting
    simp_all [Machine.withLimit]

/-- A step that goes to another state without moving is made as long as the stall count allows. -/
theorem Idles.applies (h : m.Idles book settings t) (hne : t.nesting ≠ m.nesting)
    (hroom : m.stalled < m.stallLimit) :
    ∃ rule found, m.Applies rule found (m.stalled + 1) ∧
      Follows book (m.moveOn rule found (m.stalled + 1)) found.directive t := by
  obtain ⟨rule, found, hmore, hselected, hfollows⟩ := selected_of_freeStep h.1
  have hcursor : t.cursor = found.cursor := hfollows.frame.1
  have hz : found.length = 0 := by
    have hoffset := Cursor.offset_of_moveBy (moveBy_of_select? hselected)
    rw [← hcursor, h.2] at hoffset
    omega
  rw [if_pos hz] at hfollows
  have hstay : found.directive ≠ .stay := by
    intro hstay
    rw [hstay] at hfollows
    cases hfollows
    exact hne rfl
  exact ⟨rule, found, ⟨hmore, hselected, countStalls?_of_still hz hstay hroom⟩, hfollows⟩

end Machine

/-- A scan with more room goes the same way. -/
theorem Reached.withLimit {deep : Nat} (hle : settings.maxDepth ≤ deep)
    (h : Reached book settings text moves m) :
    Reached book { settings with maxDepth := deep } text moves (m.withLimit (max deep 1)) := by
  induction h with
  | @start m hstart =>
    obtain ⟨rules, hrules, rfl⟩ := Machine.eq_initial_of_start hstart
    exact .start (Machine.start_eq_initial hrules)
  | next hm happlies hfollows ih =>
    have hlimit := hm.consistent.limit
    have hroom : _ ≤ max deep 1 := hlimit.trans_le (by omega)
    exact ih.next (happlies.withLimit_of_le hroom) (hfollows.withLimit_of_le hroom)

theorem Reached.exists_next (h : Reached book settings text moves m)
    (hidles : m.Idles book settings t) (hne : t.nesting ≠ m.nesting)
    (hroom : m.stalled < m.stallLimit) :
    ∃ moves', Reached book settings text moves' t ∧ t.stalled = m.stalled + 1 ∧
      t.stallLimit = m.stallLimit := by
  obtain ⟨rule, found, happlies, hfollows⟩ := hidles.applies hne hroom
  obtain ⟨-, hstalled, -, hlimit⟩ := hfollows.frame
  exact ⟨_, h.next happlies hfollows, hstalled, by rw [Machine.stallLimit, hlimit]; rfl⟩

/-- A machine that goes to and fro comes back to its spot as often as the stall count allows. -/
theorem Reached.exists_swung (h : Reached book settings text moves m)
    (hswings : m.Swings book settings) (k : Nat) (hk : m.stalled + 2 * k ≤ m.stallLimit) :
    ∃ moves' m', Reached book settings text moves' m' ∧ m'.spot = m.spot ∧
      m'.stalled = m.stalled + 2 * k := by
  induction k with
  | zero => exact ⟨moves, m, h, rfl, rfl⟩
  | succ k ih =>
    obtain ⟨moves', m', hm', hspot, hstalled⟩ := ih (by omega)
    obtain ⟨t, u, hmt, htu, hback, hne⟩ := hswings.of_spot_eq hspot
    have hlimit : m'.stallLimit = m.stallLimit := by
      rw [Machine.stallLimit, (Machine.spot_eq_iff.1 hspot).2.1, Machine.stallLimit]
    have hne' : u.nesting ≠ t.nesting := by
      rw [(Machine.spot_eq_iff.1 hback).2.1]
      exact hne.symm
    obtain ⟨moves₁, ht, hto, hlimit₁⟩ := hm'.exists_next hmt hne (by omega)
    obtain ⟨moves₂, hu, hfro, -⟩ := ht.exists_next htu hne' (by omega)
    exact ⟨moves₂, u, hu, hback.trans hspot, by omega⟩

/-- A scan that gives up gives the same fault with more room. -/
theorem Reached.standstill_withLimit {deep : Nat} (hle : settings.maxDepth ≤ deep)
    (hdeep : deep < 2 ^ 63) (h : Reached book settings text moves m)
    (hmore : m.cursor.atEnd = false)
    (hselected : select? m.rules m.cursor = .ok (some (rule, found)))
    (hcount : m.countStalls? found = none) :
    (scan book { settings with maxDepth := deep } text).result =
      .error (.standstill m.cursor.place m.nesting.active rule.source) := by
  have hreached := h.withLimit hle
  obtain ⟨hz, hstill⟩ := Machine.countStalls?_eq_none_iff.1 hcount
  by_cases hstay : found.directive = .stay
  · exact hreached.result_eq_of_fails
      (.standstill hmore hselected (Machine.countStalls?_eq_none_iff.2 ⟨hz, .inl hstay⟩))
  · have hfull : m.stalled = m.stallLimit :=
      le_antisymm h.consistent.stalled_le (hstill.resolve_left hstay)
    have hlimit := h.consistent.limit
    have hroom : m.nesting.limit ≤ max deep 1 := hlimit.trans_le (by omega)
    have halternates := alternates_of_countStalls?_eq_none (hle.trans_lt hdeep) h hmore hselected
      hcount
    have hswings : (m.withLimit (max deep 1)).Swings book { settings with maxDepth := deep } :=
      (halternates.swings hselected hstay).withLimit hroom
    have hlow : m.stallLimit = 2 * m.nesting.limit := by
      norm_num only [Machine.stallLimit, maxWord] at hdeep ⊢
      omega
    have hhigh : (m.withLimit (max deep 1)).stallLimit = 2 * max deep 1 := by
      norm_num only [Machine.stallLimit, Machine.withLimit, maxWord] at hdeep ⊢
      omega
    have hstalled : (m.withLimit (max deep 1)).stalled = 2 * m.nesting.limit := hfull.trans hlow
    -- Both limits are even, so the machine is at the same spot when it comes to the larger one.
    obtain ⟨moves', m', hm', hspot, hcount'⟩ :=
      hreached.exists_swung hswings (max deep 1 - m.nesting.limit) (by omega)
    obtain ⟨hcursor, hnesting, hrules⟩ := Machine.spot_eq_iff.1 hspot
    have hlimit' : m'.stallLimit = 2 * max deep 1 := by
      rw [← hhigh, Machine.stallLimit, hnesting, Machine.stallLimit]
    have hfails : m'.Fails book { settings with maxDepth := deep } m'.events
        (.standstill m'.cursor.place m'.nesting.active rule.source) := by
      refine .standstill (hcursor ▸ hmore) ?_
        (Machine.countStalls?_eq_none_iff.2 ⟨hz, .inr (by omega)⟩)
      rw [hcursor, hrules]
      exact hselected
    rw [hm'.result_eq_of_fails hfails, hcursor, hnesting]
    rfl

/-- A scan that does not lack room for a state gives the same result with more room. -/
theorem result_of_maxDepth_le (book : Rulebook κ) (settings : ScanSettings) (text : List Char)
    {deep : Nat} (hle : settings.maxDepth ≤ deep) (hdeep : deep < 2 ^ 63)
    (hroom : ∀ place state depth,
      (scan book settings text).result ≠ .error (.tooDeep place state depth)) :
    (scan book { settings with maxDepth := deep } text).result =
      (scan book settings text).result := by
  obtain ⟨moves, last, hlast, hstep⟩ | ⟨hrules, hscan⟩ := scan_cases book settings text
  · have hreached := hlast.withLimit hle
    obtain ⟨hend, hopen, hscan⟩ | ⟨events, f, hfails, hscan⟩ :=
      Machine.finished_or_fails_of_step hstep
    · have hhalt : (last.withLimit (max deep 1)).step book { settings with maxDepth := deep } = _ :=
        Machine.step_eq_finished hend hopen
      rw [hscan, hreached.scan_eq, Machine.run_of_halt hhalt]
      rfl
    · rw [hscan] at hroom ⊢
      cases hfails with
      | noRule hmore hnone => exact hreached.result_eq_of_fails (.noRule hmore hnone)
      | standstill hmore hselected hcount =>
        exact hlast.standstill_withLimit hle hdeep hmore hselected hcount
      | blocked happlies hblocked =>
        have hlimit := hlast.consistent.limit
        refine hreached.result_eq_of_fails
          (.blocked (happlies.withLimit_of_le (hlimit.trans_le (by omega))) (hblocked.withLimit ?_))
        rintro place state depth rfl
        exact hroom place state depth rfl
      | unclosed hend hstrict hdepth =>
        exact hreached.result_eq_of_fails (.unclosed hend hstrict hdepth)
  · have hscan' : scan book { settings with maxDepth := deep } text = _ :=
      scan_of_get?_eq_none hrules
    rw [hscan', hscan]

/-- Rules for a bracket, which enters a state and leaves it at once; from then on the scan goes to
and fro without moving. -/
def unsettled : Rulebook String where
  entries := [
    ("root", [
      ⟨"\\(", atCursor (.literal ['(']), .enter "inner", fun _ => none⟩,
      ⟨"", atCursor .empty, .enter "other", fun _ => none⟩]),
    ("inner", [⟨"", atCursor .empty, .leave, fun _ => none⟩]),
    ("other", [⟨"(?:)", atCursor .empty, .leave, fun _ => none⟩])]

/-- With room for two states the scan gives up after four moves of length zero, and with room for
five after ten; both times it has just entered the other state. -/
theorem unsettled_deep :
    (scan unsettled { maxDepth := 2 } ['(', 'a']).result =
        .error (.standstill ⟨1, 2, 1⟩ "other" "(?:)") ∧
      (scan unsettled { maxDepth := 5 } ['(', 'a']).result =
        .error (.standstill ⟨1, 2, 1⟩ "other" "(?:)") := by
  have hscan : (scan unsettled { maxDepth := 2 } ['(', 'a']).result =
      .error (.standstill ⟨1, 2, 1⟩ "other" "(?:)") := by
    have start : Reached unsettled { maxDepth := 2 } ['(', 'a'] [] _ := .start rfl
    rw [start.scan_eq, Machine.run_of_iterate (n := 6) rfl]
    rfl
  refine ⟨hscan, ?_⟩
  rw [← hscan]
  refine result_of_maxDepth_le unsettled { maxDepth := 2 } ['(', 'a'] (by decide) (by decide) ?_
  simp [hscan]

end PushdownLexer
