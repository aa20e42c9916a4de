import Mathlib.Data.List.Forall2
import PushdownLexer.Proofs.Scan.Coverage

/-!
# Two scans of one text

Two rulebooks may be so related that the scan with the second one follows the scan with the first
one, move by move. It suffices that wherever the first scan comes, the rules that the second
rulebook has for the active state begin with rules like those of the first: the selection stops at
the first rule that matches, so rules after it are not looked at. The scans then part only where
rules are missing in the first rulebook. If the second one has no others, they do not part at all.

Rules are alike if they match the same texts and do the same to the states. Which kinds their tokens
have, and whether they make tokens, may differ, so the rulebooks may be for tokens of different
types.

## Main definitions

* `Rule.Alike`, `Move.Alike`: rules and moves that differ in their tokens only.
* `Machine.Abreast`: machines that stand at the same place, in the same states.
* `Rulebook.Suffices`, `Rulebook.Mirrors`: the second rulebook has the rules that the scan with the
  first one needs; it has no others.
* `ResultsAlike`: how the results are related.

## Main statements

* `Rulebook.Suffices.reached`: the second scan follows the first one.
* `Rulebook.Suffices.resultsAlike`: it comes to the same result.
-/

namespace PushdownLexer

variable {κ κ' : Type} {P : Rule κ → Rule κ' → Prop} {book : Rulebook κ} {book' : Rulebook κ'}
  {settings : ScanSettings} {text : List Char}

/-! ## Rules and moves -/

/-- Two rules that match the same texts and do the same to the states. -/
structure Rule.Alike (r : Rule κ) (r' : Rule κ') : Prop where
  source : r'.source = r.source
  pattern : r'.pattern = r.pattern
  directive : r'.directive = r.directive

theorem Rule.alike_of_eq {r r' : Rule κ} (h : r = r') : r.Alike r' := by
  subst h
  exact ⟨rfl, rfl, rfl⟩

/-- The rules `rules'` begin with rules that are related to `rules`, one by one. -/
def Begins (P : Rule κ → Rule κ' → Prop) (rules : List (Rule κ)) (rules' : List (Rule κ')) : Prop :=
  ∃ front, front <+: rules' ∧ List.Forall₂ P rules front

/-- Two moves over the same piece of text by rules that are related. -/
structure Move.Alike (P : Rule κ → Rule κ' → Prop) (v : Move κ) (v' : Move κ') : Prop where
  cursor : v'.cursor = v.cursor
  rule : P v.rule v'.rule
  alike : v.rule.Alike v'.rule
  found : ∃ skipped count, v.found = v.rule.matchAt v.cursor skipped count ∧
    v'.found = v'.rule.matchAt v.cursor skipped count

/-- Moves that are alike lead to the same place and do the same to the states. -/
theorem Move.Alike.found_eq {v : Move κ} {v' : Move κ'} (h : Move.Alike P v v') :
    v'.found.cursor = v.found.cursor ∧ v'.found.length = v.found.length ∧
      v'.found.directive = v.found.directive := by
  obtain ⟨skipped, count, hfound, hfound'⟩ := h.found
  rw [hfound, hfound']
  exact ⟨rfl, rfl, h.alike.directive⟩

theorem Move.Alike.eq {v v' : Move κ} (h : Move.Alike Eq v v') : v' = v := by
  obtain ⟨hcursor, hrule, -, skipped, count, hfound, hfound'⟩ := h
  cases v
  cases v'
  simp_all

theorem Move.eq_of_forall₂ {moves moves' : List (Move κ)}
    (h : List.Forall₂ (Move.Alike Eq) moves moves') : moves' = moves := by
  have heq : List.Forall₂ Eq moves moves' := h.imp fun _ _ hv => hv.eq.symm
  rw [List.forall₂_eq_eq_eq] at heq
  exact heq.symm

/-- Further rules do not change which rule is selected. -/
theorem select?_of_prefix {rules rules' : List (Rule κ)} {c : Cursor} {p : Rule κ × Match κ}
    (h : rules <+: rules') (hselected : select? rules c = .ok (some p)) :
    select? rules' c = .ok (some p) := by
  obtain ⟨more, rfl⟩ := h
  rw [select?_eq, Except.ok.injEq] at hselected ⊢
  rw [List.findSome?_append, hselected, Option.some_or]

/-- Of rules that are alike, none or those at the same place are selected. -/
theorem select?_of_forall₂ (hP : ∀ r r', P r r' → r.Alike r') {rules : List (Rule κ)}
    {rules' : List (Rule κ')} (h : List.Forall₂ P rules rules') (c : Cursor) :
    (select? rules c = .ok none ∧ select? rules' c = .ok none) ∨
      ∃ rule rule' skipped count, P rule rule' ∧
        select? rules c = .ok (some (rule, rule.matchAt c skipped count)) ∧
        select? rules' c = .ok (some (rule', rule'.matchAt c skipped count)) := by
  induction h with
  | nil => exact .inl ⟨rfl, rfl⟩
  | @cons r r' rules rules' hr _ ih =>
    have hpattern := (hP r r' hr).pattern
    cases hfind : r.pattern.find? c.rest with
    | none =>
      simp only [select?, Rule.apply_eq, hpattern, hfind, Option.map_none]
      exact ih
    | some p =>
      refine .inr ⟨r, r', p.1, p.2, hr, ?_, ?_⟩
      · simp only [select?, Rule.apply_eq, hfind, Option.map_some]
      · simp only [select?, Rule.apply_eq, hpattern, hfind, Option.map_some]

/-! ## Machines -/

/-- A fault for want of a rule or of a state with rules. -/
def ScanFault.lacksRules : ScanFault → Bool
  | noRule .. | noSuchState .. => true
  | _ => false

theorem Rulebook.get?_eq_none_iff {state : String} :
    book.get? state = none ↔ book.contains state = false := by
  simp [contains]

namespace Machine

/-- Two machines that stand at the same place, in the same states, after as many matches of length
zero. -/
structure Abreast (m : Machine κ) (m' : Machine κ') : Prop where
  cursor : m'.cursor = m.cursor
  nesting : m'.nesting = m.nesting
  stalled : m'.stalled = m.stalled

namespace Abreast

variable {m t : Machine κ} {m' : Machine κ'} {rule : Rule κ} {found : Match κ} {found' : Match κ'}
  {stalled : Nat} {d : Directive} {events : List ScanEvent} {f : ScanFault} (h : m.Abreast m')

include h

theorem countStalls?_eq (hlength : found'.length = found.length)
    (hdirective : found'.directive = found.directive) :
    m'.countStalls? found' = m.countStalls? found := by
  have hlimit : m'.stallLimit = m.stallLimit := by rw [stallLimit, stallLimit, h.nesting]
  rw [countStalls?, countStalls?, hlimit, hlength, hdirective, h.stalled]

/-- Where the one machine selects a rule, the other one selects a rule like it. -/
theorem selected (hP : ∀ r r', P r r' → r.Alike r') (hrules : Begins P m.rules m'.rules)
    (hselected : select? m.rules m.cursor = .ok (some (rule, found))) :
    ∃ rule' found', select? m'.rules m'.cursor = .ok (some (rule', found')) ∧
      Move.Alike P ⟨m.cursor, rule, found⟩ ⟨m'.cursor, rule', found'⟩ := by
  obtain ⟨front, hprefix, hfront⟩ := hrules
  obtain ⟨hnone, -⟩ | ⟨r, r', skipped, count, hr, hr₁, hr₂⟩ := select?_of_forall₂ hP hfront m.cursor
  · cases hselected.symm.trans hnone
  · cases hselected.symm.trans hr₁
    have hr' := select?_of_prefix hprefix hr₂
    rw [← h.cursor] at hr'
    exact ⟨r', _, hr', h.cursor, hr, hP _ _ hr, skipped, count, rfl, by rw [h.cursor]⟩

theorem applies (hP : ∀ r r', P r r' → r.Alike r') (hrules : Begins P m.rules m'.rules)
    (happlies : m.Applies rule found stalled) :
    ∃ rule' found', m'.Applies rule' found' stalled ∧
      Move.Alike P ⟨m.cursor, rule, found⟩ ⟨m'.cursor, rule', found'⟩ ∧
      (m.moveOn rule found stalled).Abreast (m'.moveOn rule' found' stalled) := by
  obtain ⟨rule', found', hselected, hmove⟩ := h.selected hP hrules happlies.selected
  obtain ⟨hcursor, hlength, hdirective⟩ := hmove.found_eq
  refine ⟨rule', found', ⟨?_, hselected, ?_⟩, hmove, ⟨hcursor, h.nesting, rfl⟩⟩
  · rw [h.cursor, happlies.more]
  · exact (h.countStalls?_eq hlength hdirective).trans happlies.counted

/-- Where a directive leads the one machine, it leads the other one, if there are rules for the
state that is active then. -/
theorem follows {rules' : List (Rule κ')} (hfollows : Follows book m d t)
    (hrules : book'.get? t.nesting.active = some rules') :
    ∃ t', Follows book' m' d t' ∧ t.Abreast t' := by
  cases hfollows with
  | stay => exact ⟨m', .stay, h⟩
  | leave hup _ =>
    exact ⟨_, .leave (h.nesting ▸ hup) hrules, h.cursor, by rw [h.nesting], h.stalled⟩
  | enter _ hroom =>
    exact ⟨_, .enter hrules (h.nesting ▸ hroom), h.cursor, by rw [h.nesting], h.stalled⟩

/-- What blocks the one machine blocks the other one. A lack of rules does so only if the other one
has rules for no other states. -/
theorem blocked (hcontains : ∀ state, book.contains state = true → book'.contains state = true)
    (hlacks : f.lacksRules = true → ∀ state, book'.contains state = book.contains state)
    (hblocked : Blocked book m d events f) : ∃ events', Blocked book' m' d events' f := by
  cases hblocked with
  | outermost hup =>
    rw [← h.cursor, ← h.nesting]
    exact ⟨_, .outermost (h.nesting ▸ hup)⟩
  | nowhere hup hnone =>
    rw [← h.cursor]
    rw [Rulebook.get?_eq_none_iff, ← hlacks rfl, ← Rulebook.get?_eq_none_iff] at hnone
    exact ⟨_, .nowhere (h.nesting ▸ hup) hnone⟩
  | noSuchState hnone =>
    rw [← h.cursor]
    rw [Rulebook.get?_eq_none_iff, ← hlacks rfl, ← Rulebook.get?_eq_none_iff] at hnone
    exact ⟨_, .noSuchState hnone⟩
  | tooDeep hrules hroom =>
    obtain ⟨rules', hrules'⟩ :=
      Rulebook.contains_iff.1 (hcontains _ (Rulebook.contains_iff.2 ⟨_, hrules⟩))
    rw [← h.cursor, ← h.nesting]
    exact ⟨_, .tooDeep hrules' (h.nesting ▸ hroom)⟩

end Abreast

end Machine

/-! ## Rulebooks -/

namespace Rulebook

/-- A second rulebook has rules for all states of a first one. Wherever the scan with the first one
comes, those for the active state begin with rules related to the rules of the first. -/
structure Suffices (P : Rule κ → Rule κ' → Prop) (book : Rulebook κ) (book' : Rulebook κ')
    (settings : ScanSettings) (text : List Char) : Prop where
  alike : ∀ r r', P r r' → r.Alike r'
  contains : ∀ state, book.contains state = true → book'.contains state = true
  rules : ∀ moves m, Reached book settings text moves m →
    ∃ rules', book'.get? m.nesting.active = some rules' ∧ Begins P m.rules rules'

/-- A second rulebook has rules for the states of a first one only. Wherever the scan with the first
one comes, those for the active state are related to the rules of the first. -/
structure Mirrors (P : Rule κ → Rule κ' → Prop) (book : Rulebook κ) (book' : Rulebook κ')
    (settings : ScanSettings) (text : List Char) : Prop where
  alike : ∀ r r', P r r' → r.Alike r'
  contains : ∀ state, book'.contains state = book.contains state
  rules : ∀ moves m, Reached book settings text moves m →
    ∃ rules', book'.get? m.nesting.active = some rules' ∧ List.Forall₂ P m.rules rules'

theorem Mirrors.suffices (h : Mirrors P book book' settings text) :
    Suffices P book book' settings text where
  alike := h.alike
  contains state hstate := (h.contains state).trans hstate
  rules moves m hm := by
    obtain ⟨rules', hget, hrules⟩ := h.rules moves m hm
    exact ⟨rules', hget, rules', List.prefix_rfl, hrules⟩

section

variable {moves : List (Move κ)} {moves' : List (Move κ')} {m : Machine κ} {m' : Machine κ'}
  {events : List ScanEvent} {f : ScanFault}

theorem rules_of_abreast {rules' : List (Rule κ')} (habreast : m.Abreast m')
    (hm' : Reached book' settings text moves' m')
    (hget : book'.get? m.nesting.active = some rules') : m'.rules = rules' := by
  have hrules := hm'.consistent.rules
  rw [habreast.nesting, hget] at hrules
  exact (Option.some.inj hrules).symm

theorem Suffices.begins (h : Suffices P book book' settings text)
    (hm : Reached book settings text moves m) (hm' : Reached book' settings text moves' m')
    (habreast : m.Abreast m') : Begins P m.rules m'.rules := by
  obtain ⟨rules', hget, hbegins⟩ := h.rules moves m hm
  rwa [rules_of_abreast habreast hm' hget]

/-- The second scan makes the moves of the first one. -/
theorem Suffices.reached (h : Suffices P book book' settings text)
    (hm : Reached book settings text moves m) :
    ∃ moves' m', Reached book' settings text moves' m' ∧ m.Abreast m' ∧
      List.Forall₂ (Move.Alike P) moves moves' := by
  induction hm with
  | @start m hstart =>
    obtain ⟨rules', hget, -⟩ := h.rules [] m (.start hstart)
    obtain ⟨rules, -, rfl⟩ := Machine.eq_initial_of_start hstart
    exact ⟨[], _, .start (Machine.start_eq_initial hget), ⟨rfl, rfl, rfl⟩, .nil⟩
  | @next moves m t rule found stalled hm happlies hfollows ih =>
    obtain ⟨moves', m', hm', habreast, hmoves⟩ := ih
    obtain ⟨rule', found', happlies', hmove, hmoved⟩ :=
      habreast.applies h.alike (h.begins hm hm' habreast) happlies
    obtain ⟨rules', hget, -⟩ := h.rules _ t (hm.next happlies hfollows)
    obtain ⟨t', hfollows', ht⟩ := hmoved.follows hfollows hget
    have hdirective : found.directive = found'.directive := hmove.found_eq.2.2.symm
    rw [hdirective] at hfollows'
    exact ⟨_, t', hm'.next happlies' hfollows', ht, .cons hmove hmoves⟩

/-- Where no rule of the first rulebook is selected, none of the second one is. -/
theorem Mirrors.select?_eq_none (h : Mirrors P book book' settings text)
    (hm : Reached book settings text moves m) (hm' : Reached book' settings text moves' m')
    (habreast : m.Abreast m') (hnone : select? m.rules m.cursor = .ok none) :
    select? m'.rules m'.cursor = .ok none := by
  obtain ⟨rules', hget, hrules⟩ := h.rules moves m hm
  rw [rules_of_abreast habreast hm' hget, habreast.cursor]
  obtain ⟨-, hnone'⟩ | ⟨_, _, _, _, -, hsome, -⟩ := select?_of_forall₂ h.alike hrules m.cursor
  · exact hnone'
  · cases hnone.symm.trans hsome

/-- Where the first scan fails, the second one fails too. For a lack of rules it does so only if the
second rulebook has no others. -/
theorem Suffices.fails (h : Suffices P book book' settings text)
    (hlacks : f.lacksRules = true → Mirrors P book book' settings text)
    (hm : Reached book settings text moves m) (hm' : Reached book' settings text moves' m')
    (habreast : m.Abreast m') (hfails : m.Fails book settings events f) :
    ∃ events', m'.Fails book' settings events' f := by
  have hrules := h.begins hm hm' habreast
  cases hfails with
  | noRule hmore hnone =>
    have hnone' := (hlacks rfl).select?_eq_none hm hm' habreast hnone
    rw [← habreast.cursor] at hmore ⊢
    rw [← habreast.nesting]
    exact ⟨_, .noRule hmore hnone'⟩
  | standstill hmore hselected hcount =>
    obtain ⟨rule', found', hselected', hmove⟩ := habreast.selected h.alike hrules hselected
    obtain ⟨-, hlength, hdirective⟩ := hmove.found_eq
    have hcount' := (habreast.countStalls?_eq hlength hdirective).trans hcount
    rw [← habreast.cursor] at hmore ⊢
    rw [← habreast.nesting, ← hmove.alike.source]
    exact ⟨_, .standstill hmore hselected' hcount'⟩
  | blocked happlies hblocked =>
    obtain ⟨rule', found', happlies', hmove, hmoved⟩ := habreast.applies h.alike hrules happlies
    rw [← hmove.found_eq.2.2] at hblocked
    obtain ⟨events', hblocked'⟩ :=
      hmoved.blocked h.contains (fun hf => (hlacks hf).contains) hblocked
    exact ⟨events', .blocked happlies' hblocked'⟩
  | unclosed hend hstrict hdepth =>
    rw [← habreast.cursor] at hend ⊢
    rw [← habreast.nesting] at hdepth ⊢
    exact ⟨_, .unclosed hend hstrict hdepth⟩

end

end Rulebook

/-! ## Results -/

/-- The results of two scans, which fail with the same fault or succeed by moves that are alike. -/
inductive ResultsAlike (P : Rule κ → Rule κ' → Prop) :
    Except ScanFault (Scanned κ) → Except ScanFault (Scanned κ') → Prop where
  | error (f : ScanFault) : ResultsAlike P (.error f) (.error f)
  | ok {moves : List (Move κ)} {moves' : List (Move κ')} {length : Nat} {state : String}
      (hmoves : List.Forall₂ (Move.Alike P) moves moves') :
      ResultsAlike P (.ok ⟨moves.filterMap Move.token?, length, state⟩)
        (.ok ⟨moves'.filterMap Move.token?, length, state⟩)

theorem ResultsAlike.eq {result result' : Except ScanFault (Scanned κ)}
    (h : ResultsAlike Eq result result') : result' = result := by
  cases h with
  | error f => rfl
  | ok hmoves => rw [Move.eq_of_forall₂ hmoves]

/-- Both scans come to the same result, unless the first one lacks rules that the second one may
have. -/
theorem Rulebook.Suffices.resultsAlike (h : Suffices P book book' settings text)
    (hlacks : ∀ f, (scan book settings text).result = .error f → f.lacksRules = true →
      Mirrors P book book' settings text) :
    ResultsAlike P (scan book settings text).result (scan book' settings text).result := by
  obtain ⟨moves, last, hlast, hstep⟩ | ⟨hstart, hscan⟩ := scan_cases book settings text
  · obtain ⟨moves', last', hlast', habreast, hmoves⟩ := h.reached hlast
    obtain ⟨hend, hopen, hscan⟩ | ⟨events, f, hfails, hscan⟩ :=
      Machine.finished_or_fails_of_step hstep
    · have hhalt : last'.step book' settings = .halt last'.finished :=
        Machine.step_eq_finished (habreast.cursor ▸ hend) (habreast.nesting ▸ hopen)
      rw [hscan, hlast'.scan_eq, Machine.run_of_halt hhalt]
      simp only [Machine.finished, hlast.tokens_eq, hlast'.tokens_eq, ← List.filterMap_reverse,
        habreast.cursor, habreast.nesting]
      exact .ok (List.rel_reverse hmoves)
    · rw [hscan] at hlacks ⊢
      obtain ⟨events', hfails'⟩ := h.fails (hlacks f rfl) hlast hlast' habreast hfails
      rw [hlast'.result_eq_of_fails hfails']
      exact .error f
  · rw [hscan] at hlacks ⊢
    rw [get?_eq_none_iff, ← (hlacks _ rfl rfl).contains, ← get?_eq_none_iff] at hstart
    rw [scan_of_get?_eq_none hstart]
    exact .error _

end PushdownLexer
