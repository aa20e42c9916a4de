import PushdownLexer.Proofs.Assembly.Table
import PushdownLexer.Proofs.Scan.Replay
import PushdownLexer.Proofs.Scan.Strictness
import PushdownLexer.Report.Tokenization

/-!
# Tokenizing a source is scanning it

A tokenization gives the result of a scan with the rules of the dialect, and its log is that of the
scan between two entries of its own. So what holds of the results and of the events of all scans
holds of tokenizations too.

## Main statements

* `result_tokenizeSource`, `log_tokenizeSource`: the result and the log of a tokenization.
* `events_faithful`: the events of a scan can be followed, and so can the log of a tokenization.
* `results_tightened`: strict settings only take results away.
-/

namespace PushdownLexer

variable {κ ε ε' α : Type} {x : Except ε α}

theorem mapError_eq_ok_iff {wrap : ε → ε'} {a : α} : x.mapError wrap = .ok a ↔ x = .ok a := by
  cases x <;> simp [Except.mapError]

theorem mapError_eq_error_iff {wrap : ε → ε'} {e' : ε'} :
    x.mapError wrap = .error e' ↔ ∃ e, x = .error e ∧ e' = wrap e := by
  cases x <;> simp [Except.mapError, eq_comm]

theorem result_tokenizeSource (run : RunSettings) (source : List Char) :
    (tokenizeSource run source).result =
      (Assembly.scanSource run.scan source).result.mapError .scan := by
  simp only [tokenizeSource]
  cases (Assembly.scanSource run.scan source).result <;> rfl

theorem log_tokenizeSource (run : RunSettings) (source : List Char) :
    (tokenizeSource run source).log =
      .tokenizationStarted (byteLength source) ::
        ((Assembly.scanSource run.scan source).events.map .scan ++
          match (tokenizeSource run source).result with
          | .ok out => [.tokenizationCompleted out.tokens.length out.length]
          | .error _ => []) := by
  simp only [tokenizeSource]
  cases (Assembly.scanSource run.scan source).result <;> simp

/-! ## Logs -/

/-- The events of every scan can be followed from the start state to where the scan ends, which is
told by the last of them. The log of a tokenization is that of the scan, after an entry that it has
started and, if it succeeds, before one that it is completed. -/
theorem events_faithful (book : Rulebook κ) (settings : ScanSettings) (text : List Char)
    (run : RunSettings) (source : List Char) :
    Faithful book settings text (scan book settings text) ∧
      ∃ dialect, Assembly.rulebook = .ok dialect ∧
        Faithful dialect run.scan source (Assembly.scanSource run.scan source) ∧
        (tokenizeSource run source).result =
          (Assembly.scanSource run.scan source).result.mapError .scan ∧
        (tokenizeSource run source).log =
          .tokenizationStarted (byteLength source) ::
            ((Assembly.scanSource run.scan source).events.map .scan ++
              match (tokenizeSource run source).result with
              | .ok out => [.tokenizationCompleted out.tokens.length out.length]
              | .error _ => []) := by
  refine ⟨faithful_scan book settings text, Assembly.dialect, Assembly.rulebook_eq, ?_,
    result_tokenizeSource run source, log_tokenizeSource run source⟩
  rw [Assembly.scanSource_eq]
  exact faithful_scan Assembly.dialect run.scan source

/-- Rules for parentheses, which are nested in the state that they are in. -/
def parentheses : Rulebook String where
  entries := [
    ("root", [
      ⟨"\\(", atCursor (.literal ['(']), .enter "root", fun _ => none⟩,
      ⟨"\\)", atCursor (.literal [')']), .leave, fun _ => none⟩])]

/-- The events of a scan of two parentheses lead to the end of the text and to the start state. -/
theorem parentheses_faithful :
    ∃ steps last r,
      (scan parentheses {} ['(', ')']).events = .started 2 "root" 1 :: (steps ++ [last]) ∧
        (Replay.start {}).followAll? steps = some r ∧ r.offset = 2 ∧
        r.states.head? = some "root" ∧
        (scan parentheses {} ['(', ')']).events.getLast? = some (.finished 0 2 "root") := by
  have hscan : (scan parentheses {} ['(', ')']).result = .ok ⟨[], 2, "root"⟩ := by
    have start : Reached parentheses {} ['(', ')'] [] _ := .start rfl
    rw [start.scan_eq, Machine.run_of_iterate (n := 3) rfl]
    rfl
  obtain ⟨hfaithful, -⟩ := events_faithful parentheses {} ['(', ')'] {} []
  obtain ⟨steps, last, r, hevents, hsteps, hreplay⟩ := hfaithful.followed
  obtain ⟨hoffset, hstate⟩ := hreplay _ hscan
  exact ⟨steps, last, r, hevents, hsteps, hoffset, hstate, (hfaithful.succeeds _ hscan).2.1⟩

/-! ## Strict settings -/

/-- Faults can be given as parts of other failures. -/
theorem Tightened.mapError {book : Rulebook κ} {settings : ScanSettings} {text : List Char}
    {lax strict : Except ScanFault (Scanned κ)} (h : Tightened id book settings text lax strict)
    (wrap : ScanFault → ε) :
    Tightened wrap book settings text (lax.mapError wrap) (strict.mapError wrap) where
  error e he := by
    obtain ⟨f, hf, rfl⟩ := mapError_eq_error_iff.1 he
    rw [h.error f hf]
    rfl
  ok out hout := by
    obtain ⟨moves, last, hlast, hstep, hstate, hiff, hclosed, hopen⟩ :=
      h.ok out (mapError_eq_ok_iff.1 hout)
    refine ⟨moves, last, hlast, hstep, hstate, mapError_eq_ok_iff.trans hiff, hclosed, ?_⟩
    intro hdepth
    obtain ⟨hle, hstrict⟩ := hopen hdepth
    exact ⟨hle, by rw [hstrict]; rfl⟩

/-- Under strict settings a scan fails as it does without, and where it succeeds without, it does so
too exactly if one state is left at the end; that is the start state. If more are left, the last of
them is told with their number, at the end of the text. The same holds of tokenizations. -/
theorem results_tightened (book : Rulebook κ) (settings : ScanSettings) (text : List Char)
    (run : RunSettings) (source : List Char) :
    Tightened id book { settings with strict := false } text
        (scan book { settings with strict := false } text).result
        (scan book { settings with strict := true } text).result ∧
      ∃ dialect, Assembly.rulebook = .ok dialect ∧
        Tightened Failure.scan dialect run.scan source (tokenizeSource run source).result
          (tokenizeSource run.strict source).result := by
  refine ⟨tightened_scan book { settings with strict := false } text, Assembly.dialect,
    Assembly.rulebook_eq, ?_⟩
  rw [result_tokenizeSource, result_tokenizeSource, Assembly.scanSource_eq, Assembly.scanSource_eq]
  exact (tightened_scan Assembly.dialect run.scan source).mapError Failure.scan

/-- After an opening parenthesis the active state is the start state again, and yet a state was
entered and not left. -/
theorem parentheses_tightened :
    (scan parentheses { strict := false } ['(']).result = .ok ⟨[], 1, "root"⟩ ∧
      ∃ moves last, Reached parentheses { strict := false } ['('] moves last ∧
        2 ≤ last.nesting.depth ∧
        (scan parentheses { strict := true } ['(']).result =
          .error (.unclosed ⟨1, 2, 1⟩ "root" last.nesting.depth) := by
  have start (strict : Bool) : Reached parentheses { strict } ['('] [] _ := .start rfl
  have hlax : (scan parentheses { strict := false } ['(']).result = .ok ⟨[], 1, "root"⟩ := by
    rw [(start false).scan_eq, Machine.run_of_iterate (n := 2) rfl]
    rfl
  have hstrict : (scan parentheses { strict := true } ['(']).result ≠ .ok ⟨[], 1, "root"⟩ := by
    rw [(start true).scan_eq, Machine.run_of_iterate (n := 2) rfl]
    exact nofun
  obtain ⟨htightened, -⟩ := results_tightened parentheses {} ['('] {} []
  obtain ⟨moves, last, hlast, -, hstate, hiff, -, hopen⟩ := htightened.ok _ hlax
  obtain ⟨hdepth, hresult⟩ := hopen fun hdepth => hstrict (hiff.2 hdepth)
  rw [← hstate] at hresult
  exact ⟨hlax, moves, last, hlast, hdepth, hresult⟩

end PushdownLexer
