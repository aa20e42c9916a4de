import Mathlib.Data.List.TakeWhile
import PushdownLexer.Proofs.Assembly.Step
import PushdownLexer.Proofs.Scan.Limit

/-!
# The dialect under other settings

With the settings by default a scan of the dialect starts with instructions, has room for quoted
texts and may end inside one. A scan with other settings that starts with instructions goes the same
way as long as it has room; only where it has none, and at the end of the text, does it differ. A
scan that starts inside a quoted text comes to its double quote at most, since there is nothing to
leave to.

## Main definitions

* `Assembly.Restated`: what the result of a scan becomes under other settings.
* `Assembly.FirstQuote`: where a scan comes to its first double quote.
* `Assembly.quotedResult`: the result of a scan from inside a quoted text.

## Main statements

* `Assembly.reached_of_default`: the way of a scan under other settings.
* `Assembly.result_under_settings`: the result of a scan under any settings.
-/

namespace PushdownLexer.Assembly

open Machine

variable {settings : ScanSettings} {source : List Char} {moves : List (Move Kind)}
  {m : Machine Kind} {f : ScanFault}

/-! ## Starting with instructions -/

/-- What the result of a scan of `source` with the settings by default becomes under `settings`. -/
inductive Restated (settings : ScanSettings) (source : List Char) :
    Except ScanFault (Scanned Kind) → Except ScanFault (Scanned Kind) → Prop where
  | ok {out : Scanned Kind} (h : ¬ (settings.strict = true ∧ out.state = "string")) :
      Restated settings source (.ok out) (.ok out)
  | unclosed {out : Scanned Kind} (hstrict : settings.strict = true)
      (hstate : out.state = "string") :
      Restated settings source (.ok out)
        (.error (.unclosed (Position.origin.afterAll source) "string" 2))
  /-- Another number of characters is shown. -/
  | noRule {passed rest : List Char} (hsource : source = passed ++ rest) (hrest : rest ≠ []) :
      Restated settings source
        (.error (.noRule (Position.origin.afterAll passed) "root" (String.ofList (rest.take 20))))
        (.error (.noRule (Position.origin.afterAll passed) "root"
          (String.ofList (rest.take settings.previewLength))))

section Root

variable (hroot : settings.startState = "root")

include hroot

/-- As long as there is room, a scan goes the same way as one with the settings by default. -/
theorem reached_of_default (h : Reached dialect {} source moves m)
    (hroom : 2 ≤ settings.maxDepth ∨ ∀ v ∈ moves, ¬ ['"'] <+: v.cursor.rest) :
    Reached dialect settings source moves (m.withLimit (max settings.maxDepth 1)) := by
  induction h with
  | @start m hstart =>
    obtain ⟨rules, hrules, rfl⟩ := eq_initial_of_start hstart
    refine .start ((start_eq_initial (hroot ▸ hrules)).trans ?_)
    rw [initial, hroot]
    rfl
  | @next moves m t rule found stalled hreached happlies hfollows ih =>
    obtain ⟨mode, hm⟩ := inMode_of_reached hreached
    obtain ⟨l, hl, rfl, rfl⟩ := hm.exists_front? happlies
    have hbefore := ih (hroom.imp_right fun h v hv => h v (List.mem_cons_of_mem _ hv))
    -- Only a step that enters a state needs room, and it does so at a double quote.
    refine hbefore.next (happlies.withLimit (length_matchAt_ne_zero hl)) (hfollows.withLimit ?_)
    intro state hstate
    obtain hstay | ⟨hquote, rfl⟩ := directive_of_front? hl
    · cases hstay.symm.trans hstate
    · obtain hroom | hroom := hroom
      · cases mode with
        | instructions => exact hm.depth_eq_one.trans_lt (by omega)
        | quotation => cases hstate
      · exact absurd hquote (hroom _ List.mem_cons_self)

omit hroot in
/-- At the end of the text, the settings tell whether a quoted text may be open. -/
theorem exists_restated_of_end {mode : Mode} {limit : Nat} (hm : InMode m mode)
    (houter : m.nesting.toList.head? = some "root") (hcursor : m.cursor.Within source)
    (hend : m.cursor.atEnd = true) :
    ∃ o, (m.withLimit limit).step dialect settings = .halt o ∧
      Restated settings source m.finished.result o.result := by
  obtain ⟨passed, hsource, hplace⟩ := hcursor.passed
  rw [Cursor.atEnd_iff.1 hend, List.append_nil] at hsource
  by_cases hopen : settings.strict = true ∧ 1 < m.nesting.depth
  · have hfails : (m.withLimit limit).Fails dialect settings m.events _ :=
      .unclosed hend hopen.1 hopen.2
    refine ⟨_, hfails.step_eq, ?_⟩
    cases mode with
    | instructions => exact absurd hopen.2 (by rw [hm.depth_eq_one]; decide)
    | quotation =>
      simp only [failAfter, finished, Machine.withLimit, hplace, ← hsource, hm.active,
        Nesting.depth, hm.around_eq houter rfl]
      exact .unclosed hopen.1 rfl
  · refine ⟨_, step_eq_finished hend hopen, .ok fun h => hopen ⟨h.1, ?_⟩⟩
    cases mode with
    | instructions => simp [hm.active, Mode.state] at h
    | quotation => simp [Nesting.depth, hm.around_eq houter rfl]

omit hroot in
/-- With the settings by default, a step fails only where no lexeme begins. -/
theorem exists_restated_of_fails {mode : Mode} {limit : Nat} {events : List ScanEvent}
    (hm : InMode m mode) (houter : m.nesting.toList.head? = some "root")
    (hlimit : 2 ≤ m.nesting.limit) (hcursor : m.cursor.Within source)
    (hfails : m.Fails dialect {} events f) :
    ∃ o, (m.withLimit limit).step dialect settings = .halt o ∧
      Restated settings source (.error f) o.result := by
  obtain ⟨passed, hsource, hplace⟩ := hcursor.passed
  -- The other faults need a quoted text that is not nested, a full nesting, or strict settings.
  cases hm.fault_of_fails hfails with
  | noRule hmore hfront =>
    have hfails : (m.withLimit limit).Fails dialect settings m.events _ :=
      .noRule (Cursor.atEnd_eq_false_iff.2 hmore) (hm.select?_eq_none_iff.2 hfront)
    refine ⟨_, hfails.step_eq, ?_⟩
    simp only [failAfter, Machine.withLimit, hplace, hm.active]
    exact .noRule hsource hmore
  | outermost hup hquote => cases hup.symm.trans (hm.around_eq houter rfl)
  | tooDeep hdepth hquote =>
    rw [hm.depth_eq_one] at hdepth
    omega
  | unclosed hend hstrict hup => cases hstrict

/-- A scan with the settings by default comes to its first double quote, with instructions at hand,
at the cursor `c`. -/
def FirstQuote (source : List Char) (c : Cursor) : Prop :=
  ∃ moves m, Reached dialect {} source moves m ∧ m.cursor = c ∧ InMode m .instructions ∧
    ['"'] <+: c.rest ∧ ∀ v ∈ moves, ¬ ['"'] <+: v.cursor.rest

omit hroot in
/-- A scan that comes to a double quote comes to a first one. -/
theorem exists_firstQuote (h : Reached dialect {} source moves m)
    (hquote : ['"'] <+: m.cursor.rest) :
    ∃ c, FirstQuote source c := by
  obtain ⟨moves', m', hreached, hquote', hfirst⟩ :=
    h.exists_first (p := fun c => ['"'] <+: c.rest) (.inl hquote)
  refine ⟨m'.cursor, moves', m', hreached, rfl, ?_, hquote', hfirst⟩
  obtain ⟨mode, hm⟩ := inMode_of_reached hreached
  cases mode with
  | instructions => exact hm
  | quotation =>
    -- The scan could have gone the same way without room for a quoted text.
    have hshort : Reached dialect { maxDepth := 1 } source moves' _ :=
      reached_of_default rfl hreached (.inr hfirst)
    have hdepth : m'.nesting.depth ≤ 1 := hshort.consistent.depth_le
    rw [Nesting.depth, hm.around_eq hreached.consistent.outermost rfl] at hdepth
    exact absurd hdepth (by decide)

/-- A scan that has room for all states ends as one with the settings by default, up to what the
settings say about the end of the text and about failures. -/
theorem restated_result
    (hroom : 2 ≤ settings.maxDepth ∨ ¬ ∃ c, FirstQuote source c) :
    Restated settings source (scan dialect {} source).result
      (scan dialect settings source).result := by
  obtain ⟨moves, last, hlast, hstep⟩ | ⟨hrules, -⟩ := scan_cases dialect {} source
  · have hreached := reached_of_default hroot hlast <| hroom.imp_right fun h v hv => by
      obtain ⟨moves', m', hm', hcursor⟩ := hlast.exists_of_mem hv
      rw [hcursor]
      exact fun hquote => h (exists_firstQuote hm' hquote)
    obtain ⟨mode, hm⟩ := inMode_of_reached hlast
    have hconsistent := hlast.consistent
    have houter : last.nesting.toList.head? = some "root" := hconsistent.outermost
    rw [hreached.scan_eq]
    obtain ⟨hend, -, hscan⟩ | ⟨events, f, hfails, hscan⟩ := finished_or_fails_of_step hstep
    · obtain ⟨o, hstep', hrestated⟩ := exists_restated_of_end hm houter hconsistent.cursor hend
      rwa [hscan, run_of_halt hstep']
    · have hlimit : 2 ≤ last.nesting.limit := by rw [hconsistent.limit]; decide
      obtain ⟨o, hstep', hrestated⟩ :=
        exists_restated_of_fails hm houter hlimit hconsistent.cursor hfails
      rwa [hscan, run_of_halt hstep']
  · cases hrules

/-- Without room for another state, a scan fails after the first double quote. -/
theorem result_of_first_quote (hshallow : settings.maxDepth ≤ 1) {c : Cursor}
    (h : FirstQuote source c) :
    (scan dialect settings source).result = .error (.tooDeep (c.place.after '"') "string" 1) := by
  obtain ⟨moves, m, hreached, rfl, hm, hquote, hfirst⟩ := h
  have hlimit : max settings.maxDepth 1 = 1 := by omega
  obtain ⟨rule, happlies⟩ := hm.applies (front?_quote .instructions hquote)
  have hfails : (m.withLimit 1).Fails dialect settings _ _ :=
    .blocked (happlies.withLimit (length_matchAt_ne_zero (front?_quote .instructions hquote)))
      (.tooDeep (get?_state .quotation) hm.depth_eq_one.ge)
  have hshort := hlimit ▸ reached_of_default hroot hreached (.inr hfirst)
  rw [hshort.result_eq_of_fails hfails, ← place_matchAt_quote .instructions hquote]
  rfl

end Root

/-! ## Starting inside a quoted text -/

/-- The tokens of the inside of a quoted text that a source begins with. -/
def textTokens (body : List Char) : List (Token Kind) :=
  if body = [] then []
  else [⟨.text (String.ofList body), ⟨.origin, Position.origin.afterAll body⟩⟩]

theorem reverse_textTokens (body : List Char) : (textTokens body).reverse = textTokens body := by
  unfold textTokens
  split <;> rfl

/-- The result of a scan of `source` from inside a quoted text. -/
def quotedResult (source : List Char) : Except ScanFault (Scanned Kind) :=
  if '"' ∈ source then
    .error (.outermost
      ((Position.origin.afterAll (source.takeWhile (· != '"'))).after '"') "string")
  else .ok ⟨textTokens source, byteLength source, "string"⟩

/-- A scan from inside a quoted text comes to the first double quote, or to the end. -/
theorem exists_reached_quotation (source : List Char) (hstart : settings.startState = "string") :
    ∃ moves m, Reached dialect settings source moves m ∧ InMode m .quotation ∧
      m.nesting.around = [] ∧ m.cursor.rest = source.dropWhile (· != '"') ∧
      m.cursor.place = Position.origin.afterAll (source.takeWhile (· != '"')) ∧
      m.tokens = textTokens (source.takeWhile (· != '"')) := by
  have hrules : dialect.get? settings.startState = some quotationTable := by
    rw [hstart]
    exact get?_state .quotation
  have hinitial : Reached dialect settings source [] _ := .start (start_eq_initial hrules)
  have hm : InMode (initial dialect settings source quotationTable) .quotation :=
    ⟨hstart, rfl, .inl rfl⟩
  by_cases hbody : source.takeWhile (· != '"') = []
  · have hrest := List.takeWhile_append_dropWhile (p := (· != '"')) (l := source)
    rw [hbody, List.nil_append] at hrest
    rw [hbody]
    exact ⟨_, _, hinitial, hm, rfl, hrest.symm, rfl, rfl⟩
  · let body := source.takeWhile (· != '"')
    have hl : front? .quotation source =
        some ⟨body.length, some (.text (String.ofList body)), .stay⟩ := if_pos hbody
    obtain ⟨rule, happlies⟩ := hm.applies hl
    refine ⟨_, _, hinitial.next happlies .stay, hm.next happlies .stay, rfl,
      drop_takeWhile _ _, ?_, ?_⟩
    · exact congrArg _ (take_takeWhile _ _)
    · rw [textTokens, if_neg hbody]
      exact congrArg (fun stop => [(⟨_, ⟨_, Position.origin.afterAll stop⟩⟩ : Token Kind)])
        (take_takeWhile _ _)

theorem quote_prefix_dropWhile (h : '"' ∈ source) : ['"'] <+: source.dropWhile (· != '"') := by
  induction source with
  | nil => cases h
  | cons c source ih =>
    by_cases hc : c = '"'
    · subst hc
      exact ⟨source, rfl⟩
    · rw [List.dropWhile_cons_of_pos (by simpa using hc)]
      exact ih ((List.mem_cons.1 h).resolve_left (Ne.symm hc))

/-- What a scan from inside a quoted text gives. -/
theorem result_of_quotation (hstart : settings.startState = "string") :
    (scan dialect settings source).result = quotedResult source := by
  obtain ⟨moves, m, hreached, hm, hup, hrest, hplace, htokens⟩ :=
    exists_reached_quotation source hstart
  by_cases hmem : '"' ∈ source
  · have hquote : ['"'] <+: m.cursor.rest := hrest ▸ quote_prefix_dropWhile hmem
    obtain ⟨rule, happlies⟩ := hm.applies (front?_quote .quotation hquote)
    have hfails : m.Fails dialect settings _ _ := .blocked happlies (.outermost hup)
    rw [hreached.result_eq_of_fails hfails, quotedResult, if_pos hmem, ← hplace,
      ← place_matchAt_quote .quotation hquote]
    exact congrArg (fun state => Except.error (ScanFault.outermost _ state)) hm.active
  · have hbody : ∀ c ∈ source, (c != '"') = true := by grind
    rw [List.takeWhile_eq_self_iff.2 hbody] at hplace htokens
    rw [List.dropWhile_eq_nil_iff.2 hbody] at hrest
    have hstep : m.step dialect settings = .halt m.finished :=
      step_eq_finished (Cursor.atEnd_iff.2 hrest) (by simp [Nesting.depth, hup])
    rw [hreached.scan_eq, run_of_halt hstep, quotedResult, if_neg hmem, finished, htokens,
      reverse_textTokens, Cursor.offset, hplace, Position.offset_afterAll, hm.active]
    simp [Position.origin, Mode.state]

/-! ## All settings -/

theorem get?_eq_none {state : String} (hroot : state ≠ "root") (hstring : state ≠ "string") :
    dialect.get? state = none := by
  rw [Option.eq_none_iff_forall_ne_some]
  intro rules hrules
  obtain ⟨mode, rfl, -⟩ := get?_eq_some_iff.1 hrules
  cases mode with
  | instructions => exact hroot rfl
  | quotation => exact hstring rfl

/-- No scan stands still, leaves its text or is given an invalid pattern. -/
theorem kind_of_result_error (h : (scan dialect settings source).result = .error f) :
    f.kind ∉ ["EmptyMatch", "OutOfRange", "InvalidPattern"] := by
  obtain ⟨-, rfl⟩ | ⟨moves, last, events, hlast, -, hfails⟩ := exists_fails_of_scan h
  · simp [ScanFault.kind]
  · obtain ⟨mode, hm⟩ := inMode_of_reached hlast
    cases hm.fault_of_fails hfails <;> simp [ScanFault.kind]

/-- The result of a scan of the dialect under any settings. -/
theorem result_under_settings (settings : ScanSettings) (source : List Char) :
    rulebook = .ok dialect ∧
      (settings.startState ≠ "root" → settings.startState ≠ "string" →
        (scanSource settings source).result =
          .error (.noSuchState ⟨1, 1, 0⟩ settings.startState)) ∧
      (settings.startState = "string" →
        (scanSource settings source).result = quotedResult source) ∧
      (settings.startState = "root" →
        (∀ c, settings.maxDepth ≤ 1 → FirstQuote source c →
          (scanSource settings source).result =
            .error (.tooDeep (c.place.after '"') "string" 1)) ∧
        (2 ≤ settings.maxDepth ∨ (¬ ∃ c, FirstQuote source c) →
          Restated settings source (scanSource {} source).result
            (scanSource settings source).result)) ∧
      (∀ f, (scanSource settings source).result = .error f →
        f.kind ∉ ["EmptyMatch", "OutOfRange", "InvalidPattern"]) ∧
      ∀ moves m, Reached dialect settings source moves m → m.nesting.depth ≤ 2 := by
  simp only [scanSource_eq]
  refine ⟨rulebook_eq, fun hroot hstring => ?_, result_of_quotation, fun hroot => ⟨?_, ?_⟩, ?_, ?_⟩
  · obtain ⟨rules, hrules, -⟩ | ⟨-, hstart⟩ := start_cases dialect settings source
    · cases (get?_eq_none hroot hstring).symm.trans hrules
    · rw [scan, hstart]
      rfl
  · exact fun c hshallow => result_of_first_quote hroot hshallow
  · exact restated_result hroot
  · exact fun f => kind_of_result_error
  · intro moves m hm
    obtain ⟨mode, hmode⟩ := inMode_of_reached hm
    exact hmode.depth_le

/-- A double quote without room for a quoted text, and with room for it but not closed; the inside
of a quoted text; a state that the dialect does not have. -/
theorem result_of_quote_under_settings :
    (scanSource { maxDepth := 1 } ['"']).result = .error (.tooDeep ⟨1, 2, 1⟩ "string" 1) ∧
      Restated { strict := true } ['"'] (scanSource {} ['"']).result
        (scanSource { strict := true } ['"']).result ∧
      (scanSource { startState := "string" } ['a', '"']).result =
        .error (.outermost ⟨1, 3, 2⟩ "string") ∧
      (scanSource { startState := "word" } []).result = .error (.noSuchState ⟨1, 1, 0⟩ "word") ∧
      ∀ f, (scanSource { maxDepth := 1 } ['"']).result = .error f →
        f.kind ∉ ["EmptyMatch", "OutOfRange", "InvalidPattern"] := by
  obtain ⟨-, -, -, hroot, hkind, -⟩ := result_under_settings { maxDepth := 1 } ['"']
  obtain ⟨-, -, -, hstrict, -⟩ := result_under_settings { strict := true } ['"']
  obtain ⟨-, -, hquoted, -⟩ := result_under_settings { startState := "string" } ['a', '"']
  obtain ⟨-, hother, -⟩ := result_under_settings { startState := "word" } []
  have hquote : FirstQuote ['"'] (Cursor.ofText ['"']) :=
    ⟨[], _, .start rfl, rfl, ⟨rfl, rfl, .inl rfl⟩, List.prefix_rfl, by simp⟩
  exact ⟨(hroot rfl).1 _ (by decide) hquote, (hstrict rfl).2 (.inl (by decide)), hquoted rfl,
    hother (by decide) (by decide), hkind⟩

end PushdownLexer.Assembly
