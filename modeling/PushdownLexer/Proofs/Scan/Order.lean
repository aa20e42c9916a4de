import PushdownLexer.Proofs.Scan.Reached

/-!
# When the order of rules does not matter

Of the rules whose patterns are found at the cursor the first one is selected. So the order of two
rules matters only where both patterns are found. If no text has both, the rules may be exchanged,
and if some text has, it suffices that the two keep their order.

A scan looks at its rules only to select one. Rulebooks that select the same rules therefore give
the same scans, with the same events.

## Main definitions

* `Rule.Apart`: two rules whose patterns are found in no common text.
* `Rulebook.SelectsAlike`: rulebooks that select the same rules.

## Main statements

* `select?_of_perm`: rules may be reordered if those that are not apart keep their order.
* `scan_of_selectsAlike`: a scan depends only on which rules are selected.
-/

namespace PushdownLexer

variable {κ : Type} {book book' : Rulebook κ} {settings : ScanSettings} {text : List Char}
  {rules rules' : List (Rule κ)} {c : Cursor}

/-! ## Selection -/

namespace Rule

/-- Whether the pattern of a rule is found in a text. -/
def isFound (text : List Char) (r : Rule κ) : Bool := (r.pattern.find? text).isSome

/-- The patterns of two rules are found in no common text. -/
def Apart (r r' : Rule κ) : Prop := ∀ text, r.isFound text → ¬ r'.isFound text

end Rule

/-- The first rule that is found is selected. -/
theorem select?_eq_find? (rules : List (Rule κ)) (c : Cursor) :
    select? rules c = .ok ((rules.find? (·.isFound c.rest)).bind fun r =>
      (r.pattern.find? c.rest).map fun p => (r, r.matchAt c p.1 p.2)) := by
  rw [select?_eq]
  congr 1
  induction rules with
  | nil => rfl
  | cons r rules ih =>
    cases hr : r.pattern.find? c.rest with
    | none => simpa [Rule.isFound, hr] using ih
    | some p => simp [Rule.isFound, hr]

/-- Of two lists with the same elements and without repetitions, the one begins as the other does if
what comes after the first element of the other one comes after it in the one, too. -/
theorem head?_eq_of_perm {α : Type} {l l' : List α} (hperm : l'.Perm l) (hnodup : l.Nodup)
    (h : ∀ a t, l = a :: t → ∀ b ∈ t, [a, b].Sublist l') : l'.head? = l.head? := by
  cases l with
  | nil => rw [hperm.eq_nil]
  | cons a t =>
    cases l' with
    | nil => exact absurd hperm.symm.eq_nil (List.cons_ne_nil a t)
    | cons b t' =>
      rw [List.head?_cons, List.head?_cons, Option.some.injEq]
      refine (List.mem_cons.1 (hperm.subset List.mem_cons_self)).resolve_right fun hb => ?_
      -- Then `b` comes after `a`, so it comes once more in what is left.
      have hnodup' := hperm.symm.nodup hnodup
      have hsublist := h a t rfl b hb
      have hmem : b ∈ t' := by
        cases hsublist with
        | cons _ hsublist => exact hsublist.subset (by simp)
        | cons_cons _ hsublist => exact hsublist.subset (by simp)
      exact (List.nodup_cons.1 hnodup').1 hmem

/-- Rules may be reordered if those that are not apart keep their order. -/
theorem select?_of_perm (hperm : rules'.Perm rules) (hnodup : rules.Nodup)
    (horder : rules.Pairwise fun r r' => r.Apart r' ∨ [r, r'].Sublist rules') (c : Cursor) :
    select? rules' c = select? rules c := by
  rw [select?_eq_find?, select?_eq_find?, ← List.head?_filter, ← List.head?_filter]
  congr 2
  refine head?_eq_of_perm (hperm.filter _) (hnodup.filter _) fun r others hothers r' hr' => ?_
  have hpairwise := horder.filter (·.isFound c.rest)
  have hfound : ∀ s ∈ r :: others, s.isFound c.rest := fun s hs =>
    (List.mem_filter.1 (hothers ▸ hs)).2
  have hr := hfound r List.mem_cons_self
  have hr'' := hfound r' (List.mem_cons_of_mem _ hr')
  rw [hothers] at hpairwise
  have hkept := (List.rel_of_pairwise_cons hpairwise hr').resolve_left fun hapart =>
    hapart c.rest hr hr''
  simpa [hr, hr''] using hkept.filter (·.isFound c.rest)

/-! ## Scans -/

/-- The same rules are selected, wherever the cursor is. -/
def SelectAlike (rules rules' : List (Rule κ)) : Prop := ∀ c, select? rules' c = select? rules c

/-- The same states have rules in both rulebooks, and these select alike. -/
def Rulebook.SelectsAlike (book book' : Rulebook κ) : Prop :=
  ∀ state, Option.Rel SelectAlike (book.get? state) (book'.get? state)

namespace Rulebook.SelectsAlike

variable {state : String} (h : SelectsAlike book book')

include h

theorem exists_rules (hrules : book.get? state = some rules) :
    ∃ rules', book'.get? state = some rules' ∧ SelectAlike rules rules' := by
  have hstate := h state
  rw [hrules] at hstate
  generalize book'.get? state = rules' at hstate
  cases hstate with
  | some hselect => exact ⟨_, rfl, hselect⟩

theorem get?_eq_none (hnone : book.get? state = none) : book'.get? state = none := by
  have hstate := h state
  rw [hnone] at hstate
  generalize book'.get? state = rules' at hstate
  cases hstate
  rfl

end Rulebook.SelectsAlike

namespace Machine

variable {m t : Machine κ} {rule : Rule κ} {found : Match κ} {stalled : Nat} {d : Directive}
  {events : List ScanEvent} {f : ScanFault}

/-- The machine with other rules at hand. -/
def withRules (m : Machine κ) (rules : List (Rule κ)) : Machine κ := { m with rules }

theorem Applies.withRules (h : m.Applies rule found stalled)
    (hselect : SelectAlike m.rules rules') :
    (m.withRules rules').Applies rule found stalled :=
  ⟨h.more, (hselect m.cursor).trans h.selected, h.counted⟩

theorem Follows.withRules (h : Follows book m d t) (hbook : book.SelectsAlike book')
    (hselect : SelectAlike m.rules rules') :
    ∃ rules'', Follows book' (m.withRules rules') d (t.withRules rules'') ∧
      SelectAlike t.rules rules'' := by
  cases h with
  | stay => exact ⟨rules', .stay, hselect⟩
  | leave hup hrules =>
    obtain ⟨rules'', hrules', hselect'⟩ := hbook.exists_rules hrules
    exact ⟨rules'', .leave hup hrules', hselect'⟩
  | enter hrules hroom =>
    obtain ⟨rules'', hrules', hselect'⟩ := hbook.exists_rules hrules
    exact ⟨rules'', .enter hrules' hroom, hselect'⟩

theorem Blocked.withRules (h : Blocked book m d events f) (hbook : book.SelectsAlike book') :
    Blocked book' (m.withRules rules') d events f := by
  cases h with
  | outermost hup => exact .outermost hup
  | nowhere hup hrules => exact .nowhere hup (hbook.get?_eq_none hrules)
  | noSuchState hrules => exact .noSuchState (hbook.get?_eq_none hrules)
  | tooDeep hrules hroom =>
    obtain ⟨rules'', hrules', -⟩ := hbook.exists_rules hrules
    exact .tooDeep hrules' hroom

theorem Fails.withRules (h : Fails book settings m events f) (hbook : book.SelectsAlike book')
    (hselect : SelectAlike m.rules rules') :
    Fails book' settings (m.withRules rules') events f := by
  cases h with
  | noRule hmore hnone => exact .noRule hmore ((hselect m.cursor).trans hnone)
  | standstill hmore hselected hcount =>
    exact .standstill hmore ((hselect m.cursor).trans hselected) hcount
  | blocked happlies hblocked =>
    exact .blocked (happlies.withRules hselect) (hblocked.withRules hbook)
  | unclosed hend hstrict hdepth => exact .unclosed hend hstrict hdepth

/-- A run depends only on which rules are selected. -/
theorem run_withRules (hbook : book.SelectsAlike book') (hselect : SelectAlike m.rules rules') :
    (m.withRules rules').run book' settings = m.run book settings := by
  induction m using Machine.run.induct book settings generalizing rules' with
  | case1 m o hstep =>
    rw [run_of_halt hstep]
    obtain ⟨hend, hopen, rfl⟩ | ⟨events, f, hfails, rfl⟩ := finished_or_fails_of_step hstep
    · exact run_of_halt (step_eq_finished hend hopen)
    · exact run_of_halt (hfails.withRules hbook hselect).step_eq
  | case2 m t hstep ih =>
    obtain ⟨rule, found, stalled, happlies, hfollows⟩ := applies_of_step hstep
    have happlies' := happlies.withRules hselect
    have hmoved : SelectAlike (m.moveOn rule found stalled).rules rules' := hselect
    obtain ⟨rules'', hfollows', ht⟩ := hfollows.withRules hbook hmoved
    rw [run_of_goOn hstep, run_of_goOn (happlies'.step_eq.trans hfollows'.follow_eq), ih ht]

/-- A run keeps the tokens that are there already. -/
theorem prefix_of_run {out : Scanned κ} (h : (m.run book settings).result = .ok out) :
    m.tokens.reverse <+: out.tokens := by
  induction m using Machine.run.induct book settings with
  | case1 m o hstep =>
    rw [run_of_halt hstep] at h
    obtain ⟨-, -, rfl⟩ | ⟨events, f, -, rfl⟩ := finished_or_fails_of_step hstep
    · cases h
      exact List.prefix_rfl
    · cases h
  | case2 m t hstep ih =>
    obtain ⟨rule, found, stalled, -, hfollows⟩ := applies_of_step hstep
    rw [run_of_goOn hstep] at h
    have ht := ih h
    rw [hfollows.frame.2.2.1, moveOn, List.reverse_append] at ht
    exact (List.prefix_append _ _).trans ht

end Machine

/-- A scan depends only on which rules are selected. -/
theorem scan_of_selectsAlike (h : book.SelectsAlike book') (hsize : book'.size = book.size) :
    scan book' settings text = scan book settings text := by
  cases hstart : book.get? settings.startState with
  | none =>
    rw [scan_of_get?_eq_none hstart, scan_of_get?_eq_none (h.get?_eq_none hstart), hsize]
  | some rules =>
    obtain ⟨rules', hstart', hselect⟩ := h.exists_rules hstart
    have hinitial : Reached book settings text [] _ := .start (Machine.start_eq_initial hstart)
    have hinitial' : Reached book' settings text [] _ := .start (Machine.start_eq_initial hstart')
    have hmachine : Machine.initial book' settings text rules' =
        (Machine.initial book settings text rules).withRules rules' := by
      rw [Machine.initial, hsize]
      rfl
    rw [hinitial.scan_eq, hinitial'.scan_eq, hmachine]
    exact Machine.run_withRules h hselect

end PushdownLexer
