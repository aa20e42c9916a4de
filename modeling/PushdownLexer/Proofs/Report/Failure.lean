import PushdownLexer.Proofs.Assembly.Step
import PushdownLexer.Proofs.Report.Context
import PushdownLexer.Proofs.Report.Tokenization

/-!
# Failures are pointed at

A tokenization that fails has a place to tell. A scan of the dialect fails where it starts, at a
character that no lexeme begins with, after a double quote or at the end of its source. None of
these is between the carriage return and the line feed of a line end, where the line of a place and
the lines that are shown would not agree. So the source around the place of a failure can always be
shown, and the caret in it is under the character at the place, or after the line if there is none.

## Main definitions

* `Assembly.Located`: where a scan of the dialect can fail.

## Main statements

* `Assembly.located_of_result_error`: the faults of scans of the dialect are located.
* `failure_pointed_at`: the source around the place of a failure points at it.
-/

namespace PushdownLexer

variable {source passed rest : List Char} {settings : ScanSettings} {f : ScanFault} {c : Char}

namespace Assembly

/-- Rules of the dialect of which none matches a beginning of `rest`. -/
def Unmatched (state : String) (rest : List Char) : Prop :=
  ∃ book rules, rulebook = .ok book ∧ book.get? state = some rules ∧
    ∀ rule ∈ rules, rule.pattern.find? rest = none

/-- A fault lies between `passed` and `rest`. -/
structure Located (settings : ScanSettings) (passed rest : List Char) (f : ScanFault) : Prop where
  place?_eq : f.place? = some (Position.origin.afterAll passed)
  /-- The place is not inside of a line end. -/
  whole : ¬ (passed.getLast? = some '\r' ∧ ['\n'] <+: rest)
  unmatched {p : Position} {state ahead : String} (hf : f = .noRule p state ahead) :
    (∃ c more, rest = c :: more ∧ c ≠ '\r' ∧ c ≠ '\n') ∧ Unmatched state rest ∧
      ahead = String.ofList (rest.take settings.previewLength)

theorem ne_of_front?_eq_none (h : front? .instructions (c :: rest) = none) :
    c ≠ '\r' ∧ c ≠ '\n' := by
  constructor
  · rintro rfl
    have hblank : isBlank '\r' = true := rfl
    simp [front?, instruction?, hblank] at h
  · rintro rfl
    simp [front?, instruction?] at h

/-- After a double quote no line end has begun. -/
theorem located_after_quote {p : Position} (hsource : source = passed ++ rest)
    (hplace : p = Position.origin.afterAll passed) (hquote : ['"'] <+: rest)
    (hf : f.place? = some (p.after '"')) (hother : ∀ p state ahead, f ≠ .noRule p state ahead) :
    ∃ passed rest, source = passed ++ rest ∧ Located settings passed rest f := by
  obtain ⟨rest, rfl⟩ := hquote
  refine ⟨passed ++ ['"'], rest, by rw [hsource, List.append_assoc], ?_, ?_, ?_⟩
  · rw [hf, hplace, Position.afterAll_append, Position.afterAll_cons, Position.afterAll_nil]
  · simp
  · exact fun hnoRule => absurd hnoRule (hother _ _ _)

theorem located_of_stepFault {moves : List (Move Kind)} {m : Machine Kind} {mode : Mode}
    (hm : Reached dialect settings source moves m) (hmode : InMode m mode)
    (h : StepFault settings m mode f) :
    ∃ passed rest, source = passed ++ rest ∧ Located settings passed rest f := by
  obtain ⟨passed, hsource, hplace⟩ := hm.consistent.cursor.passed
  cases h with
  | noRule hmore hfront =>
    obtain ⟨c, more, hrest⟩ := List.exists_cons_of_ne_nil hmore
    obtain ⟨hreturn, hfeed⟩ := ne_of_front?_eq_none (hrest ▸ hfront)
    refine ⟨passed, m.cursor.rest, hsource, congrArg some hplace, ?_, ?_⟩
    · rw [hrest]
      exact fun hcut => hfeed (List.cons_prefix_cons.1 hcut.2).1.symm
    · intro p state ahead hf
      cases hf
      have hrules := hm.consistent.rules
      rw [hmode.active] at hrules
      exact ⟨⟨c, more, hrest, hreturn, hfeed⟩, ⟨dialect, m.rules, rulebook_eq, hrules,
        select?_eq_none_iff.1 (hmode.select?_eq_none_iff.2 hfront)⟩, rfl⟩
  | outermost hup hquote => exact located_after_quote hsource hplace hquote rfl nofun
  | tooDeep hroom hquote => exact located_after_quote hsource hplace hquote rfl nofun
  | unclosed hend hstrict hup =>
    refine ⟨passed, m.cursor.rest, hsource, congrArg some hplace, ?_, nofun⟩
    rw [hend]
    simp

/-- The faults of scans of the dialect are located, also under settings that name a state that the
dialect does not have. -/
theorem located_of_result_error (h : (scan dialect settings source).result = .error f) :
    ∃ passed rest, source = passed ++ rest ∧ Located settings passed rest f := by
  obtain ⟨-, rfl⟩ | ⟨moves, last, events, hlast, -, hfails⟩ := exists_fails_of_scan h
  · exact ⟨[], source, rfl, rfl, by simp, nofun⟩
  · obtain ⟨mode, hmode⟩ := inMode_of_reached hlast
    exact located_of_stepFault hlast hmode (hmode.fault_of_fails hfails)

end Assembly

/-- If a tokenization fails, its failure has a line and a column, and the source around them can be
shown: the line with the number of the failure, and right after it the only line with a caret. The
caret is under the character of the line that is at the place of the failure, or right after the
line if there is none. If no rule matches, there is one, and what is left begins with it. -/
theorem failure_pointed_at (run : RunSettings) (source : List Char) (e : Failure)
    (h : (tokenizeSource run source).result = .error e) :
    ∃ fault place before text after width above below,
      e = .scan fault ∧ fault.place? = some place ∧
        e.line? = some place.line ∧ e.column? = some place.column ∧
        IsLine source place.line before text after ∧
        sourceContext? source place.line place.column =
          some (above ++ numberedLine width place.line text ::
            caretLine width place.column :: below).flatten ∧
        PointsAt place before text width above below ∧
        ∀ p state ahead, fault = .noRule p state ahead →
          ∃ part c more, text = part ++ c :: more ∧
            place.offset = byteLength (before ++ part) ∧
            Assembly.Unmatched state (c :: more ++ after) ∧
            ahead = String.ofList ((c :: more ++ after).take run.scan.previewLength) := by
  rw [result_tokenizeSource, Assembly.scanSource_eq, mapError_eq_error_iff] at h
  obtain ⟨f, hf, rfl⟩ := h
  obtain ⟨passed, rest, rfl, hlocated⟩ := Assembly.located_of_result_error hf
  obtain ⟨before, part, more, after, rfl, rfl, hline, hcolumn⟩ := exists_isLine hlocated.whole
  have hoffset := Position.offset_afterAll_origin (before ++ part)
  obtain ⟨width, above, below, hcontext, hpoints⟩ := hline.exists_pointsAt hoffset hcolumn
  refine ⟨f, _, before, part ++ more, after, width, above, below, rfl, hlocated.place?_eq, ?_, ?_,
    hline, hcontext, hpoints, ?_⟩
  · simp [Failure.line?, Failure.scanFault?, ScanFault.line?, hlocated.place?_eq]
  · simp [Failure.column?, Failure.scanFault?, ScanFault.column?, hlocated.place?_eq]
  · intro p state ahead hnoRule
    obtain ⟨⟨c, rest, hrest, hreturn, hfeed⟩, hunmatched, hahead⟩ := hlocated.unmatched hnoRule
    cases more with
    | nil =>
      -- The line ends at the place, so what is left would begin with a line end.
      obtain rfl : after = c :: rest := hrest
      exact absurd hline.ends.eq_of_cons (not_or.2 ⟨hreturn, hfeed⟩)
    | cons d more => exact ⟨part, d, more, rfl, hoffset, hunmatched, hahead⟩

/-- A dollar sign that begins the second line has the caret under it. -/
theorem dollar_pointed_at :
    (tokenizeSource {} ['a', '\r', '\n', '$']).result =
        .error (.scan (.noRule ⟨2, 1, 3⟩ "root" "$")) ∧
      ∃ text width above below lead more,
        sourceContext? ['a', '\r', '\n', '$'] 2 1 =
            some (above ++ numberedLine width 2 text :: caretLine width 1 :: below).flatten ∧
          numberedLine width 2 text = lead ++ '$' :: more ++ ['\n'] ∧
          (caretLine width 1).idxOf '^' = lead.length := by
  have hresult : (tokenizeSource {} ['a', '\r', '\n', '$']).result =
      .error (.scan (.noRule ⟨2, 1, 3⟩ "root" "$")) := by
    have start : Reached Assembly.dialect {} ['a', '\r', '\n', '$'] [] _ := .start rfl
    rw [result_tokenizeSource, Assembly.scanSource_eq, start.scan_eq,
      Machine.run_of_iterate (n := 4) rfl]
    rfl
  obtain ⟨fault, place, before, text, after, width, above, below, he, hplace, -, -, hline, hcontext,
    hpoints, hnoRule⟩ := failure_pointed_at {} _ _ hresult
  cases he
  cases hplace
  obtain ⟨part, c, more, rfl, hoffset, -, -⟩ := hnoRule _ _ _ rfl
  have hsource : before ++ part ++ (c :: more ++ after) = ['a', '\r', '\n'] ++ ['$'] := by
    simpa using hline.source_eq.symm
  obtain ⟨-, hrest⟩ := append_inj_of_byteLength hsource hoffset.symm
  obtain ⟨rfl, -⟩ := List.cons.inj hrest
  obtain ⟨lead, hlead, hcaret⟩ := hpoints.under rfl hoffset
  exact ⟨hresult, _, width, above, below, lead, more, hcontext, hlead, hcaret⟩

end PushdownLexer
