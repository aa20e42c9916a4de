import PushdownLexer.Proofs.Assembly.Lexeme
import PushdownLexer.Proofs.Scan.Reached

/-!
# Steps of a scan of the dialect

A scan of the dialect is always in one of two modes, and its step is told by the lexeme at the
cursor: the step moves past the lexeme, and the double quote enters or leaves a quoted text. No step
stands still. States are nested at most once.

## Main definitions

* `Assembly.InMode`: a machine is in a mode of the dialect.

## Main statements

* `Assembly.inMode_of_reached`: every machine that a scan comes to is in a mode.
* `Assembly.InMode.applies`, `Assembly.InMode.exists_front?`: a step moves past a lexeme.
* `Assembly.InMode.fault_of_fails`, `Assembly.StepFault.exists_fails`: the faults that a step can
  end with.
-/

namespace PushdownLexer.Assembly

open Machine

variable {settings : ScanSettings} {text : List Char} {m m' t : Machine Kind} {mode : Mode}
  {l : Lexeme} {rule : Rule Kind} {found : Match Kind} {stalled : Nat} {d : Directive}
  {state : String} {rules : List (Rule Kind)} {f : ScanFault} {events : List ScanEvent}

/-! ## Modes -/

theorem get?_state (mode : Mode) : dialect.get? mode.state = some mode.rules := by
  cases mode <;> rfl

theorem get?_eq_some_iff :
    dialect.get? state = some rules ↔ ∃ mode : Mode, state = mode.state ∧ rules = mode.rules := by
  constructor
  · intro h
    simp only [Rulebook.get?, dialect, List.lookup_cons, List.lookup_nil] at h
    split at h
    · rename_i hstate
      cases h
      exact ⟨.quotation, eq_of_beq hstate, rfl⟩
    · split at h
      · rename_i hstate
        cases h
        exact ⟨.instructions, eq_of_beq hstate, rfl⟩
      · cases h
  · rintro ⟨mode, rfl, rfl⟩
    exact get?_state mode

/-- A machine is in a mode of the dialect: it has the rules of the mode, and at most the state of
instructions is around its state. -/
structure InMode (m : Machine Kind) (mode : Mode) : Prop where
  active : m.nesting.active = mode.state
  rules : m.rules = mode.rules
  around : m.nesting.around = [] ∨ mode = .quotation ∧ m.nesting.around = ["root"]

theorem inMode_initial (h : dialect.get? settings.startState = some rules) :
    ∃ mode : Mode, settings.startState = mode.state ∧
      InMode (initial dialect settings text rules) mode := by
  obtain ⟨mode, hstate, hrules⟩ := get?_eq_some_iff.1 h
  exact ⟨mode, hstate, hstate, hrules, .inl rfl⟩

/-- A lexeme does nothing to the states, or it is the double quote. -/
theorem directive_of_front? (h : front? mode text = some l) :
    l.directive = .stay ∨ ['"'] <+: text ∧ l = ⟨1, none, mode.turn⟩ := by
  by_cases hquote : ['"'] <+: text
  · rw [front?_quote mode hquote] at h
    exact .inr ⟨hquote, (Option.some.inj h).symm⟩
  · exact .inl ((begins_of_front? h).stay hquote)

theorem length_matchAt_ne_zero {c : Cursor} (h : front? mode c.rest = some l) :
    (l.matchAt c).length ≠ 0 := by
  intro hzero
  have hl := begins_of_front? h
  have hlength : (c.rest.take l.length).length = 0 := by
    rw [byteLength_eq_zero.1 hzero, List.length_nil]
  rw [List.length_take] at hlength
  have := hl.pos
  have := hl.le
  omega

theorem place_matchAt_quote {c : Cursor} (mode : Mode) (h : ['"'] <+: c.rest) :
    ((⟨1, none, mode.turn⟩ : Lexeme).matchAt c).cursor.place = c.place.after '"' := by
  obtain ⟨rest, hrest⟩ := h
  simp [Lexeme.matchAt, Lexeme.stop, ← hrest]

namespace InMode

variable (hm : InMode m mode)

include hm

theorem get?_active : dialect.get? m.nesting.active = some m.rules := by
  rw [hm.active, hm.rules, get?_state]

/-- States are nested at most once. -/
theorem depth_le : m.nesting.depth ≤ 2 := by
  obtain hup | ⟨-, hup⟩ := hm.around <;> simp [Nesting.depth, hup]

omit hm in
theorem depth_eq_one (hm : InMode m .instructions) : m.nesting.depth = 1 := by
  obtain hup | ⟨hmode, -⟩ := hm.around
  · simp [Nesting.depth, hup]
  · cases hmode

theorem around_eq (houter : m.nesting.toList.head? = some "root") (hmode : mode = .quotation) :
    m.nesting.around = ["root"] := by
  obtain hup | ⟨-, hup⟩ := hm.around
  · simp [Nesting.toList, hup, hm.active, hmode, Mode.state] at houter
  · exact hup

/-! ## Matches -/

theorem select?_eq_none_iff :
    select? m.rules m.cursor = .ok none ↔ front? mode m.cursor.rest = none := by
  have hselect := select?_eq_front? mode m.cursor
  rw [← hm.rules] at hselect
  obtain hnone | ⟨rule, found, hsome⟩ := select?_cases m.rules m.cursor
  · rw [hnone] at hselect ⊢
    cases hfront : front? mode m.cursor.rest <;> simp_all [Except.map]
  · rw [hsome] at hselect ⊢
    cases hfront : front? mode m.cursor.rest <;> simp_all [Except.map]

/-- What is selected is the match of the lexeme at the cursor. -/
theorem exists_front?_of_select? (h : select? m.rules m.cursor = .ok (some (rule, found))) :
    ∃ l, front? mode m.cursor.rest = some l ∧ found = l.matchAt m.cursor := by
  have hselect := select?_eq_front? mode m.cursor
  rw [← hm.rules, h] at hselect
  obtain ⟨l, hl, hfound⟩ := Option.map_eq_some_iff.1 (Except.ok.inj hselect).symm
  exact ⟨l, hl, hfound.symm⟩

theorem applies (h : front? mode m.cursor.rest = some l) :
    ∃ rule, m.Applies rule (l.matchAt m.cursor) 0 := by
  obtain hnone | ⟨rule, found, hsome⟩ := select?_cases m.rules m.cursor
  · rw [hm.select?_eq_none_iff.1 hnone] at h
    cases h
  · obtain ⟨l', hl', rfl⟩ := hm.exists_front?_of_select? hsome
    cases hl'.symm.trans h
    refine ⟨rule, ?_, hsome, ?_⟩
    · rw [Cursor.atEnd_eq_false_iff]
      intro hrest
      rw [hrest, front?_nil] at h
      cases h
    · rw [countStalls?, if_neg (length_matchAt_ne_zero h)]

theorem exists_front? (h : m.Applies rule found stalled) :
    ∃ l, front? mode m.cursor.rest = some l ∧ found = l.matchAt m.cursor ∧ stalled = 0 := by
  obtain ⟨l, hl, rfl⟩ := hm.exists_front?_of_select? h.selected
  exact ⟨l, hl, rfl, h.moving (length_matchAt_ne_zero hl)⟩

/-! ## Directives -/

theorem next (happlies : m.Applies rule found stalled)
    (hfollows : Follows dialect (m.moveOn rule found stalled) found.directive t) :
    InMode t (mode.after found.directive) := by
  obtain ⟨l, hl, rfl, -⟩ := hm.exists_front? happlies
  obtain hstay | ⟨-, rfl⟩ := directive_of_front? hl
  · rw [Lexeme.matchAt, hstay] at hfollows ⊢
    cases hfollows
    exact ⟨hm.active, hm.rules, hm.around⟩
  · cases mode with
    | instructions =>
      cases hfollows with
      | enter hrules hroom =>
        cases (get?_state .quotation).symm.trans hrules
        have hup : m.nesting.active :: m.nesting.around = ["root"] := by
          rw [hm.active, hm.around.resolve_right (by simp), Mode.state]
        exact ⟨rfl, rfl, .inr ⟨rfl, hup⟩⟩
    | quotation =>
      cases hfollows with
      | leave hup hrules =>
        obtain h | ⟨-, h⟩ := hm.around
        · cases hup.symm.trans h
        · cases hup.symm.trans h
          cases (get?_state .instructions).symm.trans hrules
          exact ⟨rfl, rfl, .inl rfl⟩

/-- Only the double quote is blocked: where there is no state to leave, or no room for another. -/
theorem fault_of_blocked (happlies : m.Applies rule found stalled)
    (h : Blocked dialect (m.moveOn rule found stalled) found.directive events f) :
    ['"'] <+: m.cursor.rest ∧
      (mode = .quotation ∧ m.nesting.around = [] ∧
          f = .outermost (m.cursor.place.after '"') "string" ∨
        mode = .instructions ∧ m.nesting.limit ≤ m.nesting.depth ∧
          f = .tooDeep (m.cursor.place.after '"') "string" m.nesting.limit) := by
  obtain ⟨l, hl, rfl, -⟩ := hm.exists_front? happlies
  obtain hstay | ⟨hquote, rfl⟩ := directive_of_front? hl
  · rw [Lexeme.matchAt, hstay] at h
    cases h
  · refine ⟨hquote, ?_⟩
    rw [← place_matchAt_quote mode hquote]
    cases mode with
    | instructions =>
      cases h with
      | noSuchState hrules => cases (get?_state .quotation).symm.trans hrules
      | tooDeep hrules hroom => exact .inr ⟨rfl, hroom, rfl⟩
    | quotation =>
      cases h with
      | outermost hup => exact .inl ⟨rfl, hup, congrArg (ScanFault.outermost _) hm.active⟩
      | nowhere hup hrules =>
        obtain h | ⟨-, h⟩ := hm.around
        · cases hup.symm.trans h
        · cases hup.symm.trans h
          cases (get?_state .instructions).symm.trans hrules

theorem of_eq (hnesting : m'.nesting = m.nesting) (hrules : m'.rules = m.rules) : InMode m' mode :=
  ⟨hnesting ▸ hm.active, hrules ▸ hm.rules, hnesting ▸ hm.around⟩

/-- A machine in the same states at a text that begins with the same lexeme makes the same step. -/
theorem exists_same_step (hnesting : m'.nesting = m.nesting) (hrules : m'.rules = m.rules)
    (hfront : front? mode m'.cursor.rest = some l)
    (hfollows : Follows dialect (m.moveOn rule (l.matchAt m.cursor) stalled) l.directive t) :
    ∃ rule' t', m'.Applies rule' (l.matchAt m'.cursor) 0 ∧
      Follows dialect (m'.moveOn rule' (l.matchAt m'.cursor) 0) l.directive t' ∧
      t'.nesting = t.nesting ∧ t'.rules = t.rules := by
  obtain ⟨rule', happlies'⟩ := (hm.of_eq hnesting hrules).applies hfront
  obtain ⟨t', hfollows', hstates⟩ :=
    hfollows.exists_of_eq (n := m'.moveOn rule' (l.matchAt m'.cursor) 0) hnesting hrules
  exact ⟨rule', t', happlies', hfollows', hstates⟩

/-- Where instructions are the outermost state and there is room for another one, a step that passes
a lexeme leads on. -/
theorem exists_follows (houter : m.nesting.toList.head? = some "root")
    (hroom : ['"'] <+: m.cursor.rest → 2 ≤ m.nesting.limit)
    (happlies : m.Applies rule found stalled) :
    ∃ t, Follows dialect (m.moveOn rule found stalled) found.directive t := by
  obtain hfollows | ⟨events, f, hblocked⟩ :=
    follows_or_blocked dialect (m.moveOn rule found stalled) found.directive
  · exact hfollows
  · obtain ⟨hquote, ⟨rfl, hup, -⟩ | ⟨rfl, hdepth, -⟩⟩ := hm.fault_of_blocked happlies hblocked
    · cases hup.symm.trans (hm.around_eq houter rfl)
    · have := hroom hquote
      have := hm.depth_eq_one
      omega

end InMode

/-! ## Faults -/

/-- The faults of a step of the dialect. -/
inductive StepFault (settings : ScanSettings) (m : Machine Kind) : Mode → ScanFault → Prop where
  | noRule (hmore : m.cursor.rest ≠ []) (hfront : front? .instructions m.cursor.rest = none) :
      StepFault settings m .instructions
        (.noRule m.cursor.place "root" (m.cursor.preview settings.previewLength))
  | outermost (hup : m.nesting.around = []) (hquote : ['"'] <+: m.cursor.rest) :
      StepFault settings m .quotation (.outermost (m.cursor.place.after '"') "string")
  | tooDeep (hroom : m.nesting.limit ≤ m.nesting.depth) (hquote : ['"'] <+: m.cursor.rest) :
      StepFault settings m .instructions
        (.tooDeep (m.cursor.place.after '"') "string" m.nesting.limit)
  | unclosed (hend : m.cursor.rest = []) (hstrict : settings.strict = true)
      (hup : m.nesting.around = ["root"]) :
      StepFault settings m .quotation (.unclosed m.cursor.place "string" 2)

/-- Inside a quoted text every character begins a lexeme. -/
theorem exists_front?_quotation (h : text ≠ []) : ∃ l, front? .quotation text = some l := by
  cases text with
  | nil => exact absurd rfl h
  | cons c text =>
    by_cases hquote : c = '"'
    · exact ⟨_, front?_quote .quotation ⟨text, by rw [hquote]; rfl⟩⟩
    · simp [front?, quoted?, hquote]

theorem InMode.fault_of_fails (hm : InMode m mode) (h : Fails dialect settings m events f) :
    StepFault settings m mode f := by
  cases h with
  | noRule hmore hnone =>
    have hrest := Cursor.atEnd_eq_false_iff.1 hmore
    have hfront := hm.select?_eq_none_iff.1 hnone
    cases mode with
    | instructions =>
      rw [hm.active]
      exact .noRule hrest hfront
    | quotation =>
      obtain ⟨l, hl⟩ := exists_front?_quotation hrest
      cases hfront.symm.trans hl
  | standstill hmore hselected hcount =>
    obtain ⟨l, hl, rfl⟩ := hm.exists_front?_of_select? hselected
    exact absurd (countStalls?_eq_none_iff.1 hcount).1 (length_matchAt_ne_zero hl)
  | blocked happlies hblocked =>
    obtain ⟨hquote, ⟨rfl, hup, rfl⟩ | ⟨rfl, hroom, rfl⟩⟩ := hm.fault_of_blocked happlies hblocked
    · exact .outermost hup hquote
    · exact .tooDeep hroom hquote
  | unclosed hend hstrict hdepth =>
    obtain hup | ⟨rfl, hup⟩ := hm.around
    · simp [Nesting.depth, hup] at hdepth
    · have := StepFault.unclosed (Cursor.atEnd_iff.1 hend) hstrict hup
      rwa [hm.active, Nesting.depth, hup]

/-- Where a step can have a fault, it fails with it. -/
theorem StepFault.exists_fails (hm : InMode m mode) (h : StepFault settings m mode f) :
    ∃ events, m.Fails dialect settings events f := by
  have hactive := hm.active
  cases h with
  | noRule hmore hfront =>
    rw [Mode.state] at hactive
    rw [← hactive]
    exact ⟨_, .noRule (Cursor.atEnd_eq_false_iff.2 hmore) (hm.select?_eq_none_iff.2 hfront)⟩
  | outermost hup hquote =>
    obtain ⟨rule, happlies⟩ := hm.applies (front?_quote .quotation hquote)
    rw [Mode.state] at hactive
    rw [← place_matchAt_quote .quotation hquote, ← hactive]
    exact ⟨_, .blocked happlies (.outermost hup)⟩
  | tooDeep hroom hquote =>
    obtain ⟨rule, happlies⟩ := hm.applies (front?_quote .instructions hquote)
    rw [← place_matchAt_quote .instructions hquote]
    exact ⟨_, .blocked happlies (.tooDeep (get?_state .quotation) hroom)⟩
  | unclosed hend hstrict hup =>
    have hdepth : m.nesting.depth = 2 := by simp [Nesting.depth, hup]
    rw [Mode.state] at hactive
    rw [← hactive, ← hdepth]
    exact ⟨_, .unclosed (Cursor.atEnd_iff.2 hend) hstrict (by omega)⟩

/-! ## The way of a scan -/

/-- Every machine that a scan of the dialect comes to is in a mode. -/
theorem inMode_of_reached {moves : List (Move Kind)} (h : Reached dialect settings text moves m) :
    ∃ mode, InMode m mode := by
  induction h with
  | start hstart =>
    obtain ⟨rules, hrules, rfl⟩ := eq_initial_of_start hstart
    obtain ⟨mode, -, hm⟩ := inMode_initial hrules
    exact ⟨mode, hm⟩
  | next _ happlies hfollows ih =>
    obtain ⟨mode, hm⟩ := ih
    exact ⟨_, hm.next happlies hfollows⟩

/-- Every move of a scan of the dialect passes some text. -/
theorem length_ne_zero_of_mem {moves : List (Move Kind)}
    (h : Reached dialect settings text moves m) :
    ∀ v ∈ moves, v.length ≠ 0 := by
  induction h with
  | start _ => simp
  | next hm happlies _ ih =>
    obtain ⟨mode, hmode⟩ := inMode_of_reached hm
    obtain ⟨l, hl, rfl, -⟩ := hmode.exists_front? happlies
    exact List.forall_mem_cons.2 ⟨length_matchAt_ne_zero hl, ih⟩

end PushdownLexer.Assembly
