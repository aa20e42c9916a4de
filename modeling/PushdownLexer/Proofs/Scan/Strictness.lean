import PushdownLexer.Proofs.Scan.Reached

/-!
# Strict settings only take results away

Whether a text may end in a nested state is asked once, when all of the text is scanned. So a scan
under strict settings goes the same way as one without, and fails where that one fails. Only where
that one succeeds may it differ, and then the number of states that are left at the end decides: the
outermost state is never left, so a single state is the start state. The name of the active state
would not do, since a state can be nested in itself.

## Main definitions

* `Tightened`: how the result under strict settings comes from the one under other settings.

## Main statements

* `tightened_scan`: the results of a scan are so related.
-/

namespace PushdownLexer

variable {κ ε : Type} {book : Rulebook κ} {settings : ScanSettings} {text : List Char}
  {moves : List (Move κ)} {m : Machine κ} {events : List ScanEvent} {f : ScanFault}

/-- How the result `strict` under strict settings comes from the result `lax` of a scan: a failure
stays, and a success stays if no state is left at the end that was entered. The faults of a scan are
given as `wrap` makes them. -/
structure Tightened (wrap : ScanFault → ε) (book : Rulebook κ) (settings : ScanSettings)
    (text : List Char) (lax strict : Except ε (Scanned κ)) : Prop where
  error : ∀ e, lax = .error e → strict = .error e
  ok : ∀ out, lax = .ok out → ∃ moves last, Reached book settings text moves last ∧
    last.step book settings = .halt (scan book settings text) ∧
    out.state = last.nesting.active ∧
    (strict = .ok out ↔ last.nesting.depth = 1) ∧
    (last.nesting.depth = 1 → out.state = settings.startState) ∧
    (last.nesting.depth ≠ 1 → 2 ≤ last.nesting.depth ∧
      strict = .error (wrap (.unclosed (Position.ofOffset text (byteLength text))
        last.nesting.active last.nesting.depth)))

/-- The settings under which a text may not end in a nested state. -/
def ScanSettings.tighten (settings : ScanSettings) : ScanSettings := { settings with strict := true }

/-- A scan goes the same way, whether the settings are strict or not. -/
theorem Reached.tighten (h : Reached book settings text moves m) :
    Reached book settings.tighten text moves m := by
  induction h with
  | start hstart => exact .start hstart
  | next _ happlies hfollows ih => exact ih.next happlies hfollows

/-- What fails under other settings fails under strict ones. -/
theorem Machine.Fails.tighten (h : m.Fails book settings events f) :
    m.Fails book settings.tighten events f := by
  cases h with
  | noRule hmore hnone => exact .noRule hmore hnone
  | standstill hmore hselected hcount => exact .standstill hmore hselected hcount
  | blocked happlies hblocked => exact .blocked happlies hblocked
  | unclosed hend _ hdepth => exact .unclosed hend rfl hdepth

/-- At the end of the text the number of states decides. -/
theorem Reached.result_tighten (h : Reached book settings text moves m)
    (hend : m.cursor.atEnd = true) :
    (scan book settings.tighten text).result =
      if m.nesting.depth = 1 then m.finished.result
      else .error (.unclosed (Position.ofOffset text (byteLength text)) m.nesting.active
        m.nesting.depth) := by
  have hm := h.consistent.cursor
  split
  · rename_i hdepth
    rw [h.tighten.scan_eq, Machine.run_of_halt (Machine.step_eq_finished hend (by omega))]
  · rename_i hdepth
    have hopen : 1 < m.nesting.depth := by
      have : 1 ≤ m.nesting.depth := Nat.le_add_left 1 _
      omega
    rw [h.tighten.result_eq_of_fails (.unclosed hend rfl hopen), hm.place_eq_ofOffset,
      hm.offset_eq_iff_atEnd.2 hend]

theorem tightened_scan (book : Rulebook κ) (settings : ScanSettings) (text : List Char) :
    Tightened id book settings text (scan book settings text).result
      (scan book settings.tighten text).result where
  error f hf := by
    obtain ⟨hrules, rfl⟩ | ⟨moves, last, events, hlast, -, hfails⟩ := exists_fails_of_scan hf
    · have hscan : scan book settings.tighten text = _ := scan_of_get?_eq_none hrules
      rw [hscan]
      rfl
    · exact hlast.tighten.result_eq_of_fails hfails.tighten
  ok out hout := by
    obtain ⟨moves, last, hlast, hstep, hend, -, rfl⟩ := exists_finished_of_scan hout
    have hresult := hlast.result_tighten hend
    refine ⟨moves, last, hlast, hstep, rfl, ?_, fun hdepth => ?_, fun hdepth => ⟨?_, ?_⟩⟩
    · rw [hresult]
      split <;> simp_all [Machine.finished]
    · have hup : last.nesting.around = [] := by simpa [Nesting.depth] using hdepth
      exact (Nesting.toList_eq_singleton_iff.1 (hlast.consistent.toList_eq hup)).2
    · have : 1 ≤ last.nesting.depth := Nat.le_add_left 1 _
      omega
    · rw [hresult, if_neg hdepth]
      rfl

end PushdownLexer
