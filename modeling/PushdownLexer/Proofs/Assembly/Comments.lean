import Mathlib.Data.List.Forall2
import PushdownLexer.Proofs.Assembly.Pieces
import PushdownLexer.Proofs.Assembly.Spelling
import PushdownLexer.Proofs.Scan.Omission
import PushdownLexer.Proofs.Text.Lines

/-!
# Texts without their comments

The comments that a scan comes to can be deleted from its text, and what is left is scanned in the
same way. A comment goes on to the end of its line, so what comes after it is a line end or nothing,
and no lexeme in front of it reaches over it, whether the comment is there or not. So the scan of
what is left makes the same steps but for those that pass a comment. The machines are in the same
line all the time. Their columns differ behind a comment, up to the line end, which is the next
lexeme.

Comment signs in quoted texts begin no comments, and double quotes in comments begin no quoted
texts: the comments are those that the scan of the whole text finds.

## Main definitions

* `Assembly.uncommented`: a text without the comments that its scan comes to.
* `Assembly.Uncommented`: what deleting comments does to the rest of a text.
* `Assembly.Beside`: a machine in a text and one in the text without comments.

## Main statements

* `Assembly.InMode.comment_iff`: where a scan comes to a comment.
* `Assembly.Beside.next`, `Assembly.Beside.pass_comment`: what a step in a text is without comments.
* `Assembly.uncommented_uncommented`: no comments are left.
* `Assembly.scan_of_uncommented`: a text without its comments is scanned as the text is.
-/

namespace PushdownLexer.Assembly

open Machine

/-- The pattern of comments. -/
def commentPattern : String := ";[^\\n]*"

/-- A text without the comments that its scan comes to. -/
def uncommented (settings : ScanSettings) (source : List Char) : List Char :=
  cutOut (matchRanges commentPattern (scanSource settings source).events) 0 source

variable {settings : ScanSettings} {mode : Mode} {m m' t : Machine Kind} {rule : Rule Kind}
  {found : Match Kind} {stalled : Nat} {l : Lexeme} {rest rest' text : List Char}
  {f : ScanFault}

/-! ## The rule for comments -/

theorem stays_comment : Stays dialect commentPattern := by
  intro state rules hrules
  obtain ⟨mode, -, rfl⟩ := get?_eq_some_iff.1 hrules
  cases mode <;> decide

/-- A rule for comments is found only at a comment sign. -/
theorem prefix_of_find? : ∀ r ∈ instructionTable, r.source = commentPattern →
    (r.pattern.find? text).isSome → [';'] <+: text := by
  have hcomment : ((atCursor (.cat (.literal [';']) (.optionalRun (allBut '\n')))).find?
      text).isSome → [';'] <+: text := by
    rw [find?_literal_optionalRun (contains_allBut '\n') rfl]
    split_ifs with hsign <;> simp [hsign]
  simpa [instructionTable, rule, commentPattern] using hcomment

/-- No rule before the one for comments is found at a comment sign. -/
theorem source_of_select? {c : Cursor} (hsign : [';'] <+: c.rest)
    (h : select? instructionTable c = .ok (some (rule, found))) : rule.source = commentPattern := by
  obtain ⟨body, hbody⟩ := hsign
  have hblank : isBlank ';' = false := rfl
  rw [select?_eq, ← hbody] at h
  simp [instructionTable, Assembly.rule, find?_literal, find?_run contains_blanks,
    find?_literal_optionalRun (contains_allBut '\n') rfl, List.cons_prefix_cons, hblank] at h
  rw [← h.1, commentPattern]

/-- The rule for comments is applied where instructions begin with a comment sign. -/
theorem InMode.comment_iff (hm : InMode m mode) (happlies : m.Applies rule found stalled) :
    rule.source = commentPattern ↔ mode = .instructions ∧ [';'] <+: m.cursor.rest := by
  have hselected := happlies.selected
  rw [hm.rules] at hselected
  constructor
  · intro hsource
    obtain ⟨happly, before, after, hrules, -⟩ := select?_eq_some_iff.1 hselected
    have hmem : rule ∈ mode.rules := by simp [hrules]
    obtain ⟨skipped, count, hfind, -⟩ := Rule.apply_eq_some_iff.1 happly
    cases mode with
    | instructions => exact ⟨rfl, prefix_of_find? rule hmem hsource (by rw [hfind]; rfl)⟩
    | quotation =>
      have hother : ∀ r ∈ quotationTable, r.source ≠ commentPattern := by decide
      exact absurd hsource (hother rule hmem)
  · rintro ⟨rfl, hsign⟩
    exact source_of_select? hsign hselected

/-- A comment is passed to the end of its line, without a token. -/
theorem InMode.pass_comment (hm : InMode m mode) (happlies : m.Applies rule found stalled)
    (hfollows : Follows dialect (m.moveOn rule found stalled) found.directive t)
    (hrule : rule.source = commentPattern) :
    mode = .instructions ∧ InMode t .instructions ∧ ∃ body, '\n' ∉ body ∧
      m.cursor.rest = ';' :: body ++ t.cursor.rest ∧
      (t.cursor.rest = [] ∨ ['\n'] <+: t.cursor.rest) ∧
      t.cursor.place = m.cursor.place.afterAll (';' :: body) ∧
      t.nesting = m.nesting ∧ t.rules = m.rules ∧ t.tokens = m.tokens := by
  obtain ⟨rfl, others, hothers⟩ := (hm.comment_iff happlies).1 hrule
  have hnext := hm.next happlies hfollows
  obtain ⟨l, hl, rfl, rfl⟩ := hm.exists_front? happlies
  rw [← hothers] at hl
  cases (instruction?_comment others).symm.trans hl
  cases hfollows
  have hlength : 1 + (others.takeWhile (· != '\n')).length =
      (others.takeWhile (· != '\n')).length + 1 := Nat.add_comm _ _
  have hdrop : m.cursor.rest.drop (1 + (others.takeWhile (· != '\n')).length) =
      others.dropWhile (· != '\n') := by
    rw [← hothers, hlength, List.singleton_append, List.drop_succ_cons, drop_takeWhile]
  have htake : m.cursor.rest.take (1 + (others.takeWhile (· != '\n')).length) =
      ';' :: others.takeWhile (· != '\n') := by
    rw [← hothers, hlength, List.singleton_append, List.take_succ_cons, take_takeWhile]
  refine ⟨rfl, hnext, others.takeWhile (· != '\n'), ?_, ?_, ?_, ?_, rfl, rfl, rfl⟩
  · exact fun hmem => by simpa using forall_mem_takeWhile _ _ _ hmem
  · change m.cursor.rest = ';' :: _ ++ m.cursor.rest.drop _
    rw [hdrop, List.cons_append, List.takeWhile_append_dropWhile, ← hothers, List.singleton_append]
  · change m.cursor.rest.drop _ = [] ∨ ['\n'] <+: m.cursor.rest.drop _
    rw [hdrop]
    exact dropWhile_line others
  · exact congrArg m.cursor.place.afterAll htake

/-! ## Lines without comments -/

/-- What is left of the rest of a text without comments. -/
inductive Uncommented (mode : Mode) : List Char → List Char → Prop where
  | all (rest : List Char) : Uncommented mode rest rest
  | upTo {before comment after : List Char} (hquote : mode = .quotation → '"' ∈ before)
      (hafter : ∀ c ∈ after.head?, c = '\n') :
      Uncommented mode (before ++ ';' :: comment) (before ++ after)

/-- At the end of a line nothing is left out before the line end. -/
theorem Uncommented.head?_eq (h : Uncommented mode rest rest')
    (hend : rest = [] ∨ ['\n'] <+: rest) : ∀ c ∈ rest'.head?, c = '\n' := by
  cases h with
  | all =>
    obtain rfl | ⟨others, rfl⟩ := hend
    · simp
    · simp
  | @upTo before comment after hquote hafter =>
    cases before with
    | nil => simpa using hafter
    | cons c before => simpa [List.cons_prefix_cons, eq_comm] using hend

/-- What a step passes that is no comment is the text of the lexeme. -/
theorem InMode.pass_lexeme (hm : InMode m mode) (happlies : m.Applies rule found stalled)
    (hfollows : Follows dialect (m.moveOn rule found stalled) found.directive t)
    {passed : List Char} (hpassed : m.cursor.rest = passed ++ t.cursor.rest) :
    ∃ l, front? mode m.cursor.rest = some l ∧ found = l.matchAt m.cursor ∧
      passed = m.cursor.rest.take l.length := by
  obtain ⟨l, hl, rfl, -⟩ := hm.exists_front? happlies
  obtain ⟨hcursor, -, -, -⟩ := hfollows.frame
  have hdrop : t.cursor.rest = m.cursor.rest.drop l.length := by rw [hcursor]; rfl
  refine ⟨l, hl, rfl, ?_⟩
  have htake := List.take_append_drop l.length m.cursor.rest
  rw [← hdrop] at htake
  exact (List.append_cancel_right (htake.trans hpassed)).symm

theorem Uncommented.of_keeps (hm : InMode m mode)
    (h : m.Keeps dialect settings commentPattern text) : Uncommented mode m.cursor.rest text := by
  induction h generalizing mode with
  | halt hstep => exact .all _
  | @leaveOut m t rule found stalled text happlies hfollows hrule ht ih =>
    obtain ⟨rfl, hnext, body, -, hrest, hend, -⟩ := hm.pass_comment happlies hfollows hrule
    have hkept : Uncommented .instructions ([] ++ ';' :: (body ++ t.cursor.rest)) ([] ++ text) :=
      .upTo (by simp) ((ih hnext).head?_eq hend)
    rw [hrest]
    exact hkept
  | @keep m t rule found stalled passed text happlies hfollows hrule hpassed ht ih =>
    have hlater := ih (hm.next happlies hfollows)
    obtain ⟨l, hl, rfl, htake⟩ := hm.pass_lexeme happlies hfollows hpassed
    rw [hpassed]
    generalize t.cursor.rest = rest at hlater
    cases hlater with
    | all => exact .all _
    | @upTo before comment after hquote hafter =>
      rw [← List.append_assoc, ← List.append_assoc]
      refine .upTo (fun hmode => List.mem_append.2 ?_) hafter
      obtain hstay | ⟨hsign, rfl⟩ := directive_of_front? hl
      · refine .inr (hquote ?_)
        change mode.after l.directive = _
        rw [hstay]
        exact hmode
      · refine .inl ?_
        have hquotation : m.cursor.rest.take 1 = ['"'] := take_of_prefix hsign rfl
        rw [htake, hquotation]
        exact List.mem_singleton_self _

/-- Whether a comment comes later in a text does not change the lexeme that it begins with. -/
theorem Uncommented.front?_eq (h : Uncommented mode rest rest')
    (hcomment : ¬ (mode = .instructions ∧ [';'] <+: rest)) :
    front? mode rest' = front? mode rest := by
  cases h with
  | all => rfl
  | @upTo before comment after hquote hafter =>
    cases mode with
    | quotation =>
      exact (quoted?_append (hquote rfl)).trans (quoted?_append (hquote rfl)).symm
    | instructions =>
      have hsign : ¬ [';'] <+: before ++ ';' :: comment := fun h => hcomment ⟨rfl, h⟩
      have hne : before ≠ [] := by
        rintro rfl
        exact hsign ⟨comment, rfl⟩
      have hnone : ¬ [';'] <+: before := fun h => hsign (h.trans (List.prefix_append _ _))
      rw [front?, front?, instruction?_append_of_head? hne hnone fun c hc => .inl (hafter c hc),
        instruction?_append_of_head? hne hnone (by simp)]

/-! ## The scan of the text without comments -/

/-- Tokens of a text and of the same text without comments. A line end comes earlier in its line if
there was a comment before it. -/
structure TokensAlike (token token' : Token Kind) : Prop where
  kind : token'.kind = token.kind
  startLine : token'.span.start.line = token.span.start.line
  startColumn : token.kind ≠ .newline → token'.span.start.column = token.span.start.column
  stopLine : token'.span.stop.line = token.span.stop.line
  stopColumn : token'.span.stop.column = token.span.stop.column

/-- A machine in a text, in some mode, and one in the same text without comments, which has come to
none. The columns differ only behind a comment. -/
structure Beside (mode : Mode) (m m' : Machine Kind) : Prop where
  nesting : m'.nesting = m.nesting
  rules : m'.rules = m.rules
  line : m'.cursor.place.line = m.cursor.place.line
  column : m'.cursor.place.column = m.cursor.place.column ∨
    mode = .instructions ∧ (m.cursor.rest = [] ∨ ['\n'] <+: m.cursor.rest)
  tokens : List.Forall₂ TokensAlike m.tokens m'.tokens
  events : matchRanges commentPattern m'.events = []

namespace Beside

variable (h : Beside mode m m')

include h

/-- Columns that differ are those before a line end. -/
theorem column_eq (hl : front? mode m.cursor.rest = some l) :
    m'.cursor.place.column = m.cursor.place.column ∨
      l = ⟨1, some .newline, .stay⟩ ∧ ['\n'] <+: m.cursor.rest := by
  obtain hcolumn | ⟨rfl, hend | ⟨others, hothers⟩⟩ := h.column
  · exact .inl hcolumn
  · rw [hend] at hl
    cases hl
  · rw [← hothers] at hl ⊢
    cases (instruction?_newline others).symm.trans hl
    exact .inr ⟨rfl, List.prefix_append _ _⟩

/-- Where a lexeme ends, columns do not differ any more. -/
theorem stop_alike (hl : front? mode m.cursor.rest = some l)
    (htake : m'.cursor.rest.take l.length = m.cursor.rest.take l.length) :
    (l.stop m'.cursor.place m'.cursor.rest).line = (l.stop m.cursor.place m.cursor.rest).line ∧
      (l.stop m'.cursor.place m'.cursor.rest).column =
        (l.stop m.cursor.place m.cursor.rest).column := by
  rw [Lexeme.stop, Lexeme.stop, htake]
  obtain hcolumn | ⟨rfl, hend⟩ := h.column_eq hl
  · exact Position.afterAll_congr h.line hcolumn _
  · have hfeed : m.cursor.rest.take (⟨1, some .newline, .stay⟩ : Lexeme).length = ['\n'] :=
      take_of_prefix hend rfl
    rw [hfeed, Position.afterAll_of_getLast? rfl, Position.afterAll_of_getLast? rfl]
    exact ⟨congrArg (· + _) h.line, rfl⟩

theorem token_alike (hl : front? mode m.cursor.rest = some l)
    (htake : m'.cursor.rest.take l.length = m.cursor.rest.take l.length) :
    List.Forall₂ TokensAlike (l.token? m.cursor.place m.cursor.rest).toList
      (l.token? m'.cursor.place m'.cursor.rest).toList := by
  obtain ⟨hline, hcolumn⟩ := h.stop_alike hl htake
  cases hkind : l.kind? with
  | none => simp [Lexeme.token?, hkind]
  | some k =>
    simp only [Lexeme.token?, hkind, Option.map_some, Option.toList_some,
      List.forall₂_cons, List.Forall₂.nil, and_true]
    refine ⟨rfl, h.line, fun hk => ?_, hline, hcolumn⟩
    obtain hstart | ⟨rfl, -⟩ := h.column_eq hl
    · exact hstart
    · exact absurd (Option.some.inj hkind).symm hk

/-- A step that passes no comment is one in both texts. -/
theorem next (hm : InMode m mode)
    (hfront : front? mode m'.cursor.rest = front? mode m.cursor.rest)
    (happlies : m.Applies rule found stalled)
    (hfollows : Follows dialect (m.moveOn rule found stalled) found.directive t)
    (hrule : rule.source ≠ commentPattern)
    {passed text : List Char} (hpassed : m.cursor.rest = passed ++ t.cursor.rest)
    (hpassed' : m'.cursor.rest = passed ++ text) :
    ∃ t', m'.step dialect settings = .goOn t' ∧ Beside (mode.after found.directive) t t' ∧
      t'.cursor.rest = text := by
  obtain ⟨l, hl, rfl, htake⟩ := hm.pass_lexeme happlies hfollows hpassed
  have hlength : passed.length = l.length := by
    rw [htake, List.length_take_of_le (begins_of_front? hl).le]
  have htakes : m'.cursor.rest.take l.length = m.cursor.rest.take l.length := by
    rw [← htake, hpassed', ← hlength, List.take_left]
  obtain ⟨rule', t', happlies', hfollows', hnesting, hrules⟩ :=
    hm.exists_same_step h.nesting h.rules (hfront.trans hl) hfollows
  obtain ⟨hcursor, -, htokens, -⟩ := hfollows.frame
  obtain ⟨hcursor', -, htokens', -⟩ := hfollows'.frame
  obtain ⟨hline, hcolumn⟩ := h.stop_alike hl htakes
  have hrule' : rule'.source ≠ commentPattern := by
    intro hsource
    obtain ⟨hmode, hsign⟩ := ((hm.of_eq h.nesting h.rules).comment_iff happlies').1 hsource
    have hsign : [';'] <+: passed := by
      rw [htake, ← htakes]
      exact List.prefix_take_iff.2 ⟨hsign, (begins_of_front? hl).pos⟩
    exact hrule ((hm.comment_iff happlies).2
      ⟨hmode, hsign.trans (hpassed ▸ List.prefix_append _ _)⟩)
  refine ⟨t', happlies'.step_eq.trans hfollows'.follow_eq,
    ⟨hnesting, hrules, ?_, .inl ?_, ?_, ?_⟩, ?_⟩
  · rw [hcursor, hcursor']
    exact hline
  · rw [hcursor, hcursor']
    exact hcolumn
  · rw [htokens, htokens']
    exact List.rel_append (h.token_alike hl htakes) h.tokens
  · exact (matchRanges_of_follows hfollows' hrule').trans h.events
  · rw [hcursor']
    change m'.cursor.rest.drop l.length = text
    rw [hpassed', ← hlength, List.drop_left]

/-- A step that passes a comment is none in the text without it. -/
theorem pass_comment (hm : InMode m mode) (happlies : m.Applies rule found stalled)
    (hfollows : Follows dialect (m.moveOn rule found stalled) found.directive t)
    (hrule : rule.source = commentPattern) : Beside .instructions t m' := by
  obtain ⟨rfl, -, body, hbody, -, hend, hplace, hnesting, hrules, htokens⟩ :=
    hm.pass_comment happlies hfollows hrule
  have hcount : (';' :: body).count '\n' = 0 := List.count_eq_zero_of_not_mem (by simp [hbody])
  refine ⟨hnesting ▸ h.nesting, hrules ▸ h.rules, ?_, .inr ⟨rfl, hend⟩, htokens ▸ h.tokens,
    h.events⟩
  rw [hplace, Position.line_afterAll, hcount]
  exact h.line

end Beside

/-- Results of a text and of the same text without comments. -/
inductive ResultsBeside :
    Except ScanFault (Scanned Kind) → Except ScanFault (Scanned Kind) → Prop where
  | ok {out out' : Scanned Kind} (htokens : List.Forall₂ TokensAlike out.tokens out'.tokens)
      (hstate : out'.state = out.state) : ResultsBeside (.ok out) (.ok out')
  | error {f f' : ScanFault} (hkind : f'.kind = f.kind) (hstate : f'.state? = f.state?)
      (hline : f'.line? = f.line?) (hcolumn : f'.column? = f.column?) :
      ResultsBeside (.error f) (.error f')

/-- A fault of a step in a text is one of the step in the text without comments, in the same line
and column. -/
theorem Beside.exists_stepFault (h : Beside mode m m') (hrest : m'.cursor.rest = m.cursor.rest)
    (hf : StepFault settings m mode f) :
    ∃ f', StepFault settings m' mode f' ∧
      ResultsBeside (.error f) (.error f') := by
  cases hf with
  | noRule hmore hfront =>
    have hcolumn := h.column.resolve_right fun hend => by
      obtain ⟨-, hend | ⟨others, hothers⟩⟩ := hend
      · exact hmore hend
      · rw [← hothers, front?] at hfront
        cases (instruction?_newline others).symm.trans hfront
    exact ⟨_, .noRule (hrest ▸ hmore) (hrest ▸ hfront), .error rfl rfl (congrArg some h.line)
      (congrArg some hcolumn)⟩
  | outermost hup hquote =>
    have hcolumn := h.column.resolve_right (by simp)
    obtain ⟨hline, hcolumn⟩ := Position.afterAll_congr h.line hcolumn ['"']
    exact ⟨_, .outermost (h.nesting ▸ hup) (hrest ▸ hquote), .error rfl rfl
      (congrArg some hline) (congrArg some hcolumn)⟩
  | tooDeep hroom hquote =>
    have hcolumn := h.column.resolve_right fun hend => by
      obtain ⟨-, hend | ⟨others, hothers⟩⟩ := hend
      · simp [hend] at hquote
      · simp [← hothers, List.cons_prefix_cons] at hquote
    obtain ⟨hline, hcolumn⟩ := Position.afterAll_congr h.line hcolumn ['"']
    exact ⟨_, .tooDeep (h.nesting ▸ hroom) (hrest ▸ hquote), .error rfl rfl
      (congrArg some hline) (congrArg some hcolumn)⟩
  | unclosed hend hstrict hup =>
    have hcolumn := h.column.resolve_right (by simp)
    exact ⟨_, .unclosed (hrest.trans hend) hstrict (h.nesting ▸ hup), .error rfl rfl
      (congrArg some h.line) (congrArg some hcolumn)⟩

/-- The last step in both texts. -/
theorem Beside.exists_halt {o : ScanOutcome Kind} (h : Beside mode m m') (hm : InMode m mode)
    (hrest : m'.cursor.rest = m.cursor.rest) (hstep : m.step dialect settings = .halt o) :
    ∃ o', m'.step dialect settings = .halt o' ∧ ResultsBeside o.result o'.result := by
  obtain ⟨hend, hopen, rfl⟩ | ⟨events, f, hfails, rfl⟩ := finished_or_fails_of_step hstep
  · have hend' : m'.cursor.atEnd = true :=
      Cursor.atEnd_iff.2 (hrest.trans (Cursor.atEnd_iff.1 hend))
    exact ⟨_, step_eq_finished hend' (h.nesting ▸ hopen),
      .ok (List.rel_reverse h.tokens) (congrArg Nesting.active h.nesting)⟩
  · obtain ⟨f', hf', hbeside⟩ := h.exists_stepFault hrest (hm.fault_of_fails hfails)
    obtain ⟨events', hfails'⟩ := hf'.exists_fails (hm.of_eq h.nesting h.rules)
    exact ⟨_, hfails'.step_eq, hbeside⟩

/-- Runs in a text and in the same text without comments have the same results but for columns, and
the second one comes to no comment. -/
theorem Beside.run (h : Beside mode m m') (hm : InMode m mode)
    (hkeeps : m.Keeps dialect settings commentPattern m'.cursor.rest) :
    ResultsBeside (m.run dialect settings).result (m'.run dialect settings).result ∧
      matchRanges commentPattern (m'.run dialect settings).events = [] := by
  generalize htext : m'.cursor.rest = text at hkeeps
  induction hkeeps generalizing mode m' with
  | halt hstep =>
    obtain ⟨o', hstep', hbeside⟩ := h.exists_halt hm htext hstep
    have hrules := (hm.of_eq h.nesting h.rules).get?_active
    rw [run_of_halt hstep, run_of_halt hstep']
    refine ⟨hbeside, ?_⟩
    rw [matchRanges_of_halt stays_comment hrules hstep', h.events, List.reverse_nil]
  | @leaveOut m t rule found stalled text happlies hfollows hrule ht ih =>
    obtain ⟨-, hnext, -⟩ := hm.pass_comment happlies hfollows hrule
    rw [run_of_goOn (happlies.step_eq.trans hfollows.follow_eq)]
    exact ih (h.pass_comment hm happlies hfollows hrule) hnext htext
  | @keep m t rule found stalled passed text happlies hfollows hrule hpassed ht ih =>
    have huncommented : Uncommented mode m.cursor.rest m'.cursor.rest :=
      htext ▸ .of_keeps hm (.keep happlies hfollows hrule hpassed ht)
    have hfront := huncommented.front?_eq fun hsign => hrule ((hm.comment_iff happlies).2 hsign)
    obtain ⟨t', hstep', hbeside, hrest⟩ := h.next hm hfront happlies hfollows hrule hpassed htext
    rw [run_of_goOn (happlies.step_eq.trans hfollows.follow_eq), run_of_goOn hstep']
    exact ih hbeside (hm.next happlies hfollows) hrest

theorem beside_uncommented (settings : ScanSettings) (source : List Char) :
    ResultsBeside (scanSource settings source).result
        (scanSource settings (uncommented settings source)).result ∧
      matchRanges commentPattern (scanSource settings (uncommented settings source)).events =
        [] := by
  rw [uncommented, scanSource_eq, scanSource_eq]
  cases hrules : dialect.get? settings.startState with
  | none =>
    rw [scan_of_get?_eq_none hrules, scan_of_get?_eq_none hrules]
    exact ⟨.error rfl rfl rfl rfl, rfl⟩
  | some rules =>
    have hkeeps := keeps_of_scan stays_comment hrules source
    generalize cutOut _ 0 source = text at hkeeps ⊢
    have start : Reached dialect settings source [] _ := .start (start_eq_initial hrules)
    have start' : Reached dialect settings text [] _ := .start (start_eq_initial hrules)
    obtain ⟨mode, -, hm⟩ : ∃ mode : Mode, settings.startState = mode.state ∧
        InMode (initial dialect settings source rules) mode := inMode_initial hrules
    have hbeside : Beside mode (initial dialect settings source rules)
        (initial dialect settings text rules) := ⟨rfl, rfl, rfl, .inl rfl, .nil, rfl⟩
    rw [start.scan_eq, start'.scan_eq]
    exact hbeside.run hm hkeeps

/-- No comments are left in a text without its comments. -/
theorem uncommented_uncommented (settings : ScanSettings) (source : List Char) :
    uncommented settings (uncommented settings source) = uncommented settings source := by
  have hnone := (beside_uncommented settings source).2
  rw [uncommented, hnone]
  exact cutOut_eq_self (by simp)

/-- A text without its comments is scanned as the text is, under all settings. It succeeds if and
only if the text does, with tokens of the same kinds in the same lines and columns, but that line
ends may start in other columns. If it fails, it does so in the same way, in the same line and
column. -/
theorem scan_of_uncommented (settings : ScanSettings) (source : List Char) :
    ((∃ out, (scanSource settings source).result = .ok out) ↔
        ∃ out, (scanSource settings (uncommented settings source)).result = .ok out) ∧
      (∀ out out', (scanSource settings source).result = .ok out →
        (scanSource settings (uncommented settings source)).result = .ok out' →
          out'.tokens.map Token.kind = out.tokens.map Token.kind ∧ out'.state = out.state ∧
            List.Forall₂ TokensAlike out.tokens out'.tokens) ∧
      ∀ f f', (scanSource settings source).result = .error f →
        (scanSource settings (uncommented settings source)).result = .error f' →
          f'.kind = f.kind ∧ f'.state? = f.state? ∧ f'.line? = f.line? ∧
            f'.column? = f.column? := by
  obtain ⟨hbeside, -⟩ := beside_uncommented settings source
  generalize (scanSource settings source).result = result at hbeside ⊢
  generalize (scanSource settings (uncommented settings source)).result = result' at hbeside ⊢
  cases hbeside with
  | ok htokens hstate =>
    refine ⟨by simp, ?_, by simp⟩
    rintro out out' ⟨⟩ ⟨⟩
    refine ⟨?_, hstate, htokens⟩
    rw [eq_comm, ← List.forall₂_eq_eq_eq, List.forall₂_map_left_iff, List.forall₂_map_right_iff]
    exact htokens.imp fun _ _ halike => halike.kind.symm
  | error hkind hstate hline hcolumn =>
    refine ⟨by simp, by simp, ?_⟩
    rintro f f' ⟨⟩ ⟨⟩
    exact ⟨hkind, hstate, hline, hcolumn⟩

/-- A comment with a double quote in it, and a quoted text with a comment sign in it. Only the
comment is left out, and the line end comes earlier. -/
theorem scan_of_uncommented_quotes :
    uncommented {} ['a', ';', '"', '\n', '"', ';', '"'] = ['a', '\n', '"', ';', '"'] ∧
      ∃ out out', (scanSource {} ['a', ';', '"', '\n', '"', ';', '"']).result = .ok out ∧
        (scanSource {} ['a', '\n', '"', ';', '"']).result = .ok out' ∧
        out'.tokens.map Token.kind = [.symbol "a", .newline, .text ";"] ∧
        List.Forall₂ TokensAlike out.tokens out'.tokens := by
  have start : Reached dialect {} ['a', ';', '"', '\n', '"', ';', '"'] [] _ := .start rfl
  have hscan := (scanSource_eq {} _).trans (start.scan_eq.trans (run_of_iterate (n := 7) rfl))
  have htext : uncommented {} ['a', ';', '"', '\n', '"', ';', '"'] =
      ['a', '\n', '"', ';', '"'] := by
    rw [uncommented, hscan]
    decide
  have hout : (scanSource {} ['a', ';', '"', '\n', '"', ';', '"']).result =
      .ok ⟨[⟨.symbol "a", ⟨⟨1, 1, 0⟩, ⟨1, 2, 1⟩⟩⟩, ⟨.newline, ⟨⟨1, 4, 3⟩, ⟨2, 1, 4⟩⟩⟩,
        ⟨.text ";", ⟨⟨2, 2, 5⟩, ⟨2, 3, 6⟩⟩⟩], 7, "root"⟩ := by
    rw [hscan]
    rfl
  have hout' : (scanSource {} ['a', '\n', '"', ';', '"']).result =
      .ok ⟨[⟨.symbol "a", ⟨⟨1, 1, 0⟩, ⟨1, 2, 1⟩⟩⟩, ⟨.newline, ⟨⟨1, 2, 1⟩, ⟨2, 1, 2⟩⟩⟩,
        ⟨.text ";", ⟨⟨2, 2, 3⟩, ⟨2, 3, 4⟩⟩⟩], 5, "root"⟩ := by
    rw [scanSource_eq]
    exact result_of_iterate (n := 6) rfl rfl
  obtain ⟨hkinds, -, halike⟩ :=
    (scan_of_uncommented {} _).2.1 _ _ hout (by rw [htext]; exact hout')
  exact ⟨htext, _, _, hout, hout', hkinds, halike⟩

end PushdownLexer.Assembly
