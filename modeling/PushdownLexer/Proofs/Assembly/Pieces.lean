import Mathlib.Data.List.TakeWhile
import PushdownLexer.Proofs.Assembly.Step
import PushdownLexer.Proofs.Scan.Restart

/-!
# Texts of the dialect in pieces

A text of the dialect can be cut after a line end that is not inside a quoted text, and both pieces
can be scanned on their own. No lexeme before the cut would be another one if more text came: a
lexeme of instructions stops at a line end at the latest, and a quoted text that has been closed
before the cut stops at its double quote.

## Main definitions

* `Assembly.Extends`: a machine in a text and one in a longer text.

## Main statements

* `Assembly.front?_append`: what a lexeme is does not depend on what comes after a line end.
* `Assembly.scanSource_append`: a scan of two pieces is made of the scans of both.
-/

namespace PushdownLexer.Assembly

open Machine

variable {text more : List Char} {mode : Mode}

section Append

variable {p : Char → Bool} {c : Char} {cs : List Char}

/-- A run ends with a text if the character after the text is not one of the run. -/
theorem takeWhile_append_of_head? (hmore : ∀ c ∈ more.head?, p c = false) :
    (text ++ more).takeWhile p = text.takeWhile p := by
  have hnone : more.takeWhile p = [] := by cases more <;> simp_all
  rw [List.takeWhile_append, hnone]
  split_ifs with h
  · rw [List.append_nil, (List.takeWhile_prefix p).eq_of_length h]
  · rfl

theorem dropWhile_append_of_head? (hmore : ∀ c ∈ more.head?, p c = false) :
    (text ++ more).dropWhile p = text.dropWhile p ++ more := by
  have hall : more.dropWhile p = more := by cases more <;> simp_all
  rw [List.dropWhile_append, hall]
  split_ifs with h
  · rw [List.isEmpty_iff.1 h, List.nil_append]
  · rfl

theorem takeWhile_append_of_mem (hc : c ∈ text) (hp : p c = false) :
    (text ++ more).takeWhile p = text.takeWhile p := by
  rw [List.takeWhile_append, if_neg]
  intro hlength
  have hall := List.all_takeWhile (p := p) (l := text)
  rw [(List.takeWhile_prefix p).eq_of_length hlength] at hall
  simpa [hp] using List.all_eq_true.1 hall c hc

theorem singleton_prefix_append_iff (h : text ≠ []) : [c] <+: text ++ more ↔ [c] <+: text := by
  cases text <;> simp_all

/-- A mark ends with a text if the character after the text is not one of the mark. -/
theorem prefix_append_iff_of_head? (hmore : ∀ c ∈ more.head?, c ∉ cs) :
    cs <+: text ++ more ↔ cs <+: text := by
  refine ⟨fun h => ?_, fun h => h.trans (List.prefix_append _ _)⟩
  obtain hcs | ⟨others, rfl⟩ := List.prefix_or_prefix_of_prefix h (List.prefix_append _ _)
  · exact hcs
  · rw [List.prefix_append_right_inj] at h
    cases others with
    | nil => simp
    | cons c others =>
      obtain ⟨rest, rfl⟩ := h
      simp at hmore

/-- A run after a mark ends with the text, too. -/
theorem takeWhile_drop_append_of_head? (text cs : List Char) (hmore : ∀ c ∈ more.head?, p c = false)
    (h : cs <+: text) :
    ((text ++ more).drop cs.length).takeWhile p = (text.drop cs.length).takeWhile p := by
  rw [List.drop_append_of_le_length h.length_le, takeWhile_append_of_head? hmore]

end Append

/-- No lexeme of instructions but a comment reaches beyond a line end or a comment sign. -/
theorem instruction?_append_of_head? (hne : text ≠ []) (hcomment : ¬ [';'] <+: text)
    (hmore : ∀ c ∈ more.head?, c = '\n' ∨ c = ';') :
    instruction? (text ++ more) = instruction? text := by
  have hstop (p : Char → Bool) (hp : p '\n' = false) (hp' : p ';' = false) :
      ∀ c ∈ more.head?, p c = false := fun c hc => by obtain rfl | rfl := hmore c hc <;> assumption
  have hmark (cs : List Char) (hcs : '\n' ∉ cs) (hcs' : ';' ∉ cs) : ∀ c ∈ more.head?, c ∉ cs :=
    fun c hc => by obtain rfl | rfl := hmore c hc <;> assumption
  have hletter := hstop isLetter rfl rfl
  have hhex := takeWhile_drop_append_of_head? text ['0', 'x'] (hstop isHexDigit rfl rfl)
  have hbits := takeWhile_drop_append_of_head? text ['0', 'b'] (hstop isBit rfl rfl)
  have hname := takeWhile_drop_append_of_head? text ['@'] hletter
  simp only [List.length_cons, List.length_nil, Nat.reduceAdd] at hhex hbits hname
  unfold instruction?
  -- What does not depend on a mark in front of it is the same in both texts.
  simp only [takeWhile_append_of_head? (hstop isBlank rfl rfl),
    takeWhile_append_of_head? (hstop Char.isDigit rfl rfl), takeWhile_append_of_head? hletter,
    dropWhile_append_of_head? hletter, singleton_prefix_append_iff hne, hcomment, if_false,
    prefix_append_iff_of_head? (hmark ['0', 'x'] (by decide) (by decide)),
    prefix_append_iff_of_head? (hmark ['0', 'b'] (by decide) (by decide)),
    prefix_append_iff_of_head? (hmark ['-', '>'] (by decide) (by decide)),
    prefix_append_iff_of_head? (hmark [':'] (by decide) (by decide))]
  -- The line end, blanks, numbers with a mark.
  refine ite_congr rfl (fun _ => rfl) fun _ => ?_
  refine ite_congr rfl (fun _ => rfl) fun _ => ?_
  refine ite_congr (propext (and_congr_right fun h => by rw [hhex h]))
    (fun h => by rw [hhex h.1]) fun _ => ?_
  refine ite_congr (propext (and_congr_right fun h => by rw [hbits h]))
    (fun h => by rw [hbits h.1]) fun _ => ?_
  -- Plain numbers, the arrow, the double quote, words, macros.
  refine ite_congr rfl (fun _ => rfl) fun _ => ?_
  refine ite_congr rfl (fun _ => rfl) fun _ => ?_
  refine ite_congr rfl (fun _ => rfl) fun _ => ?_
  refine ite_congr rfl (fun _ => rfl) fun _ => ?_
  exact ite_congr (propext (and_congr_right fun h => by rw [hname h]))
    (fun h => by rw [hname h.1]) fun _ => rfl

theorem instruction?_newline (text : List Char) :
    instruction? ('\n' :: text) = some ⟨1, some .newline, .stay⟩ := by
  simp [instruction?, List.cons_prefix_cons]

/-- A comment goes on to the end of its line. -/
theorem instruction?_comment (text : List Char) :
    instruction? (';' :: text) =
      some ⟨1 + (text.takeWhile (· != '\n')).length, none, .stay⟩ := by
  have hblank : isBlank ';' = false := rfl
  simp [instruction?, List.cons_prefix_cons, hblank]

/-- No lexeme of instructions changes by what comes after a line end. -/
theorem instruction?_append (more : List Char) (hend : '\n' ∈ text) :
    instruction? (text ++ more) = instruction? text := by
  obtain ⟨line, others, rfl, -⟩ := List.eq_append_cons_of_mem hend
  cases line with
  | nil => rw [List.nil_append, List.cons_append, instruction?_newline, instruction?_newline]
  | cons c line =>
    by_cases hcomment : c = ';'
    · subst hcomment
      have hbody : '\n' ∈ line ++ '\n' :: others := by simp
      rw [List.cons_append, List.cons_append, instruction?_comment, instruction?_comment,
        takeWhile_append_of_mem hbody rfl]
    · have hnone : ¬ [';'] <+: c :: line := by
        simpa [List.cons_prefix_cons, eq_comm] using hcomment
      rw [List.append_assoc, instruction?_append_of_head? (List.cons_ne_nil _ _) hnone (by simp),
        instruction?_append_of_head? (List.cons_ne_nil _ _) hnone (by simp)]

theorem quoted?_append (hquote : '"' ∈ text) : quoted? (text ++ more) = quoted? text := by
  unfold quoted?
  simp only [takeWhile_append_of_mem hquote (p := (· != '"')) rfl,
    singleton_prefix_append_iff (List.ne_nil_of_mem hquote)]

theorem front?_append (more : List Char) (hend : '\n' ∈ text)
    (hquote : mode = .quotation → '"' ∈ text) :
    front? mode (text ++ more) = front? mode text := by
  cases mode with
  | instructions => exact instruction?_append more hend
  | quotation => exact quoted?_append (hquote rfl)

/-! ## The first piece -/

variable {settings : ScanSettings} {a : List Char} {m n t : Machine Kind} {rule : Rule Kind}
  {found : Match Kind} {stalled : Nat} {out : Scanned Kind} {moves : List (Move Kind)}

/-- The machine `m` is where `n` is, in a text that `more` comes after. -/
structure Extends (more : List Char) (m n : Machine Kind) : Prop where
  rest : m.cursor.rest = n.cursor.rest ++ more
  place : m.cursor.place = n.cursor.place
  nesting : m.nesting = n.nesting
  rules : m.rules = n.rules
  tokens : m.tokens = n.tokens

theorem Extends.next (h : Extends more m n) (hn : InMode n mode)
    (hfront : front? mode (n.cursor.rest ++ more) = front? mode n.cursor.rest)
    (happlies : n.Applies rule found stalled)
    (hfollows : Follows dialect (n.moveOn rule found stalled) found.directive t) :
    ∃ rule' found' t', m.Applies rule' found' 0 ∧
      Follows dialect (m.moveOn rule' found' 0) found'.directive t' ∧ Extends more t' t := by
  obtain ⟨l, hl, rfl, rfl⟩ := hn.exists_front? happlies
  have hle := (begins_of_front? hl).le
  obtain ⟨rule', t', happlies', hfollows', hnesting, hrules⟩ :=
    hn.exists_same_step h.nesting h.rules (by rw [h.rest, hfront, hl]) hfollows
  obtain ⟨hcursor, -, htokens, -⟩ := hfollows.frame
  obtain ⟨hcursor', -, htokens', -⟩ := hfollows'.frame
  have hstop : l.stop n.cursor.place m.cursor.rest = l.stop n.cursor.place n.cursor.rest := by
    rw [Lexeme.stop, Lexeme.stop, h.rest, List.take_append_of_le_length hle]
  refine ⟨rule', _, t', happlies', hfollows', ?_, ?_, hnesting, hrules, ?_⟩
  · rw [hcursor, hcursor']
    exact (congrArg (List.drop l.length) h.rest).trans (List.drop_append_of_le_length hle)
  · rw [hcursor, hcursor']
    exact (congrArg (l.stop · m.cursor.rest) h.place).trans hstop
  · rw [htokens, htokens']
    simp only [moveOn, Lexeme.matchAt, Lexeme.token?, h.place, hstop, h.tokens]

/-- A scan that ends at once ends in its active state. -/
theorem state_of_run (hend : m.cursor.rest = []) (h : (m.run dialect settings).result = .ok out) :
    out.state = m.nesting.active := by
  by_cases hopen : settings.strict = true ∧ 1 < m.nesting.depth
  · have hfails : m.Fails dialect settings m.events _ :=
      .unclosed (Cursor.atEnd_iff.2 hend) hopen.1 hopen.2
    rw [run_of_halt hfails.step_eq] at h
    cases h
  · rw [run_of_halt (step_eq_finished (Cursor.atEnd_iff.2 hend) hopen)] at h
    cases h
    rfl

/-- A quoted text is closed if the scan does not end inside it. -/
theorem quote_mem_of_run (hm : InMode m .quotation) (h : (m.run dialect settings).result = .ok out)
    (hroot : out.state = "root") : '"' ∈ m.cursor.rest := by
  by_contra hmem
  have hstring : m.nesting.active ≠ "root" := by
    rw [hm.active]
    decide
  by_cases hrest : m.cursor.rest = []
  · exact hstring ((state_of_run hrest h).symm.trans hroot)
  · have hbody : m.cursor.rest.takeWhile (· != '"') = m.cursor.rest :=
      List.takeWhile_eq_self_iff.2 (by grind)
    have hl : front? .quotation m.cursor.rest =
        some ⟨m.cursor.rest.length, some (.text (String.ofList m.cursor.rest)), .stay⟩ := by
      simp only [front?, quoted?, hbody, if_pos hrest]
    obtain ⟨rule, happlies⟩ := hm.applies hl
    rw [run_of_goOn (happlies.step_eq.trans Follows.stay.follow_eq)] at h
    exact hstring ((state_of_run (List.drop_length) h).symm.trans hroot)

/-- A scan whose first piece ends in the state of instructions goes the same way through it,
whatever comes after it. -/
theorem exists_extends (more : List Char) (hend : a.getLast? = some '\n')
    (ha : (scan dialect settings a).result = .ok out) (hroot : out.state = "root")
    (h : Reached dialect settings a moves n) :
    ∃ moves' m, Reached dialect settings (a ++ more) moves' m ∧ Extends more m n := by
  induction h with
  | start hstart =>
    obtain ⟨rules, hrules, rfl⟩ := eq_initial_of_start hstart
    exact ⟨[], _, .start (start_eq_initial hrules), rfl, rfl, rfl, rfl, rfl⟩
  | @next moves n t rule found stalled hn happlies hfollows ih =>
    -- What is left has a line end, and a double quote if a quoted text is open, so the lexeme at the
    -- cursor is the same in both texts.
    obtain ⟨moves', m, hm, hextends⟩ := ih
    obtain ⟨mode, hmode⟩ := inMode_of_reached hn
    have hrun : (n.run dialect settings).result = .ok out := hn.scan_eq ▸ ha
    have hline : '\n' ∈ n.cursor.rest := by
      obtain ⟨passed, hpassed, -⟩ := hn.consistent.cursor.passed
      have hrest := Cursor.atEnd_eq_false_iff.1 happlies.more
      rw [hpassed, List.getLast?_append_of_ne_nil _ hrest] at hend
      exact List.mem_of_getLast? hend
    have hfront := front?_append more hline fun hquotation : mode = .quotation =>
      quote_mem_of_run (hquotation ▸ hmode) hrun hroot
    obtain ⟨rule', found', t', happlies', hfollows', ht⟩ :=
      hextends.next hmode hfront happlies hfollows
    exact ⟨_, t', hm.next happlies' hfollows', ht⟩

/-- Such a scan comes to the cut, where only the start state is active. -/
theorem exists_reached_cut (b : List Char) (hend : a.getLast? = some '\n')
    (ha : (scan dialect settings a).result = .ok out) (hroot : out.state = "root") :
    ∃ v moves m, Reached dialect settings (a ++ b) (v :: moves) m ∧ m.cursor.rest = b ∧
      m.cursor.place = Position.origin.afterAll a ∧ m.nesting.toList = [settings.startState] ∧
      m.tokens.reverse = out.tokens := by
  obtain ⟨moves, last, hlast, -, hatEnd, -, rfl⟩ := exists_finished_of_scan ha
  obtain ⟨moves', m, hm, hextends⟩ := exists_extends b hend ha hroot hlast
  have hlastRest := Cursor.atEnd_iff.1 hatEnd
  have hrest : m.cursor.rest = b := by rw [hextends.rest, hlastRest, List.nil_append]
  have hplace : m.cursor.place = Position.origin.afterAll a := by
    obtain ⟨passed, hpassed, hplace⟩ := hlast.consistent.cursor.passed
    rw [hlastRest, List.append_nil] at hpassed
    rw [hextends.place, hplace, hpassed]
  have hstart : m.nesting.toList = [settings.startState] := by
    rw [hextends.nesting]
    obtain ⟨mode, hmode⟩ := inMode_of_reached hlast
    refine hlast.consistent.toList_eq (hmode.around.resolve_right ?_)
    rintro ⟨rfl, -⟩
    exact absurd (hmode.active.symm.trans hroot) (by decide)
  cases moves' with
  | nil =>
    -- The first machine is not at the cut, since the first piece has a line end.
    cases hm with
    | start hgo =>
      obtain ⟨rules, -, rfl⟩ := eq_initial_of_start hgo
      have ha : a = [] := List.append_left_eq_self.1 hrest
      simp [ha] at hend
  | cons v moves' => exact ⟨v, moves', m, hm, hrest, hplace, hstart, congrArg _ hextends.tokens⟩

/-- A scan of two pieces, of which the first ends with a line end and outside a quoted text, is made
of the scans of both. -/
theorem scanSource_append (settings : ScanSettings) {a : List Char} {out : Scanned Kind}
    (hend : a.getLast? = some '\n') (ha : (scanSource settings a).result = .ok out)
    (hroot : out.state = "root") (b : List Char) :
    (scanSource settings (a ++ b)).result =
        continued ⟨1 + a.count '\n', 1, byteLength a⟩ out.tokens (scanSource settings b).result ∧
      ∀ p, Position.shift ⟨1 + a.count '\n', 1, byteLength a⟩ p =
        ⟨p.line + a.count '\n', p.column, p.offset + byteLength a⟩ := by
  refine ⟨?_, Position.shift_lineStart _ _⟩
  simp only [scanSource_eq] at ha ⊢
  obtain ⟨v, moves, m, hm, rfl, hplace, hstart, htokens⟩ := exists_reached_cut b hend ha hroot
  have hmoved := length_ne_zero_of_mem hm v List.mem_cons_self
  rw [hm.result_eq_continued hmoved hstart, hplace, htokens, Position.afterAll_of_getLast? hend]
  simp [Position.origin]

/-- The tokens of a word on a line of its own. -/
def wordLine : List (Token Kind) :=
  [⟨.symbol "a", ⟨⟨1, 1, 0⟩, ⟨1, 2, 1⟩⟩⟩, ⟨.newline, ⟨⟨1, 2, 1⟩, ⟨2, 1, 2⟩⟩⟩]

/-- The word on the next line is scanned on its own. -/
theorem scanSource_append_words :
    (scanSource {} ['a', '\n']).result = .ok ⟨wordLine, 2, "root"⟩ ∧
      (scanSource {} ['a', '\n', 'b']).result =
        continued ⟨2, 1, 2⟩ wordLine (scanSource {} ['b']).result := by
  have ha : (scanSource {} ['a', '\n']).result = .ok ⟨wordLine, 2, "root"⟩ := by
    have start : Reached dialect {} ['a', '\n'] [] _ := .start rfl
    rw [scanSource_eq, start.scan_eq, run_of_iterate (n := 3) rfl]
    rfl
  exact ⟨ha, (scanSource_append {} rfl ha rfl ['b']).1⟩

end PushdownLexer.Assembly
