import PushdownLexer.Proofs.Scan.Reached

/-!
# A scan passes over all of its text

The moves of a scan join: the first one starts where the text starts, each other one where the one
before it stopped, and a scan that succeeds stops where the text ends. Its tokens are those of the
moves, so they come in the order of the text and do not overlap.

## Main definitions

* `Contiguous`: moves that join.

## Main statements

* `Reached.contiguous`, `Reached.tokens_eq`: what holds of the moves on the way.
* `scan_covers`: what holds of the moves of a scan that succeeds.
-/

namespace PushdownLexer

variable {κ : Type} {book : Rulebook κ} {settings : ScanSettings} {text : List Char}

/-- Moves that join, from one offset to another one: each starts where the one before it stopped,
and stops behind as many bytes as it is long. -/
inductive Contiguous : Nat → List (Move κ) → Nat → Prop where
  | nil (offset : Nat) : Contiguous offset [] offset
  | cons {v : Move κ} {moves : List (Move κ)} {stop : Nat} (hlength : v.stop = v.start + v.length)
      (hmoves : Contiguous v.stop moves stop) : Contiguous v.start (v :: moves) stop

namespace Contiguous

variable {moves : List (Move κ)} {start stop : Nat}

theorem snoc {v : Move κ} (h : Contiguous start moves v.start)
    (hlength : v.stop = v.start + v.length) : Contiguous start (moves ++ [v]) v.stop := by
  generalize hend : v.start = stop at h
  induction h with
  | nil offset =>
    subst hend
    exact .cons hlength (.nil _)
  | cons hw _ ih => exact .cons hw (ih hend)

/-- Moves that join pass over the bytes between both ends. -/
theorem sum_length (h : Contiguous start moves stop) :
    start + (moves.map Move.length).sum = stop := by
  induction h with
  | nil offset => simp
  | cons hlength _ ih =>
    rw [List.map_cons, List.sum_cons]
    omega

/-- Moves that join lie between both ends. -/
theorem bounds (h : Contiguous start moves stop) :
    ∀ v ∈ moves, start ≤ v.start ∧ v.start ≤ v.stop ∧ v.stop ≤ stop := by
  induction h with
  | nil offset => simp
  | cons hlength hmoves ih =>
    have hsum := hmoves.sum_length
    intro w hw
    rcases List.mem_cons.1 hw with rfl | hw
    · omega
    · have := ih w hw
      omega

/-- Of two moves that are made one after the other, the first one stops before the second one
starts. -/
theorem pairwise (h : Contiguous start moves stop) :
    moves.Pairwise fun v w => v.stop ≤ w.start := by
  induction h with
  | nil offset => exact .nil
  | cons _ hmoves ih => exact .cons (fun w hw => (hmoves.bounds w hw).1) ih

end Contiguous

namespace Reached

variable {moves : List (Move κ)} {m : Machine κ} (h : Reached book settings text moves m)

include h

/-- Each move was made by its rule, from a cursor in the text. -/
theorem moves_applied :
    ∀ v ∈ moves, v.cursor.Within text ∧ v.rule.apply v.cursor = .ok (some v.found) := by
  induction h with
  | start _ => simp
  | next hm happlies _ ih =>
    have happly := (select?_eq_some_iff.1 happlies.selected).1
    exact List.forall_mem_cons.2 ⟨⟨hm.consistent.cursor, happly⟩, ih⟩

theorem contiguous : Contiguous 0 moves.reverse m.cursor.offset := by
  induction h with
  | start hstart =>
    obtain ⟨rules, -, rfl⟩ := Machine.eq_initial_of_start hstart
    exact .nil 0
  | next _ happlies hfollows ih =>
    rw [List.reverse_cons, hfollows.frame.1]
    exact Contiguous.snoc ih (Cursor.offset_of_moveBy happlies.moveBy)

/-- The tokens at hand are those of the moves. -/
theorem tokens_eq : m.tokens = moves.filterMap Move.token? := by
  induction h with
  | start hstart =>
    obtain ⟨rules, -, rfl⟩ := Machine.eq_initial_of_start hstart
    rfl
  | @next moves m t rule found _ _ _ hfollows ih =>
    rw [hfollows.frame.2.2.1, List.filterMap_cons]
    cases htoken : found.token <;> simp [Machine.moveOn, Move.token?, htoken, ih]

/-- The token of a move reaches from the place where it started to the place where it stopped. -/
theorem span_of_token {v : Move κ} (hv : v ∈ moves) {token : Token κ}
    (ht : v.token? = some token) :
    token.span = ⟨Position.ofOffset text v.start, Position.ofOffset text v.stop⟩ ∧
      token.span.start.offset = v.start ∧ token.span.stop.offset = v.stop := by
  obtain ⟨hwithin, happly⟩ := h.moves_applied v hv
  have hmoved : v.found.cursor.Within text := hwithin.moveBy (Rule.moveBy_of_apply happly)
  have hspan := Rule.span_of_apply happly ht
  refine ⟨?_, by rw [hspan]; rfl, by rw [hspan]; rfl⟩
  rw [hspan, hwithin.place_eq_ofOffset, hmoved.place_eq_ofOffset]
  rfl

end Reached

/-- The moves of a scan that succeeds, in the order in which they were made, join from the start of
the text to its end, which is the length that the scan gives. The tokens of the scan are those of
the moves, in this order, and each one reaches from the place where its move started to the place
where it stopped. So tokens come in the order of the text and do not overlap. -/
theorem scan_covers {out : Scanned κ} (h : (scan book settings text).result = .ok out) :
    ∃ moves last, Reached book settings text (List.reverse moves) last ∧
      last.step book settings = .halt (scan book settings text) ∧
      Contiguous 0 moves (byteLength text) ∧
      (moves.map Move.length).sum = out.length ∧ out.length = byteLength text ∧
      out.tokens = moves.filterMap Move.token? ∧
      (∀ v ∈ moves, ∀ token, v.token? = some token →
        token.span = ⟨Position.ofOffset text v.start, Position.ofOffset text v.stop⟩ ∧
          token.span.start.offset = v.start ∧ token.span.stop.offset = v.stop) ∧
      (∀ token ∈ out.tokens, token.span.start.offset ≤ token.span.stop.offset) ∧
      out.tokens.Pairwise fun s t => s.span.stop.offset ≤ t.span.start.offset := by
  obtain ⟨moves, last, hlast, hstep, hend, -, rfl⟩ := exists_finished_of_scan h
  have hjoin : Contiguous 0 moves.reverse last.cursor.offset := hlast.contiguous
  have hlength : last.cursor.offset = byteLength text :=
    hlast.consistent.cursor.offset_eq_iff_atEnd.2 hend
  have hsum := hjoin.sum_length
  have htokens : last.tokens.reverse = moves.reverse.filterMap Move.token? := by
    rw [hlast.tokens_eq, List.filterMap_reverse]
  have hspan : ∀ v ∈ moves.reverse, ∀ token, v.token? = some token →
      token.span = ⟨Position.ofOffset text v.start, Position.ofOffset text v.stop⟩ ∧
        token.span.start.offset = v.start ∧ token.span.stop.offset = v.stop :=
    fun v hv token ht => hlast.span_of_token (List.mem_reverse.1 hv) ht
  refine ⟨moves.reverse, last, by rwa [List.reverse_reverse], hstep, hlength ▸ hjoin,
    by simpa using hsum, hlength, htokens, hspan, ?_, ?_⟩
  · intro token htoken
    dsimp only at htoken
    rw [htokens] at htoken
    obtain ⟨v, hv, ht⟩ := List.mem_filterMap.1 htoken
    obtain ⟨-, hstart, hstop⟩ := hspan v hv token ht
    rw [hstart, hstop]
    exact (hjoin.bounds v hv).2.1
  · dsimp only
    rw [htokens, List.pairwise_filterMap]
    -- The members are kept, since the spans are known of the moves of this scan only.
    refine hjoin.pairwise.imp_of_mem ?_
    intro v w hv hw hvw s hs t ht
    rw [(hspan v hv s hs).2.2, (hspan w hw t ht).2.1]
    exact hvw

/-- A word after two brackets is the only token of its text, at the end of it. -/
theorem brackets_covered :
    ∃ moves last, Reached brackets {} ['(', '(', 'a'] (List.reverse moves) last ∧
      (scan brackets {} ['(', '(', 'a']).result =
        .ok ⟨[⟨"a", ⟨⟨1, 3, 2⟩, ⟨1, 4, 3⟩⟩⟩], 3, "word"⟩ ∧
      Contiguous 0 moves 3 ∧ (moves.map Move.length).sum = 3 ∧
      [⟨"a", ⟨⟨1, 3, 2⟩, ⟨1, 4, 3⟩⟩⟩] = moves.filterMap Move.token? := by
  have hscan : (scan brackets {} ['(', '(', 'a']).result =
      .ok ⟨[⟨"a", ⟨⟨1, 3, 2⟩, ⟨1, 4, 3⟩⟩⟩], 3, "word"⟩ := by
    have start : Reached brackets {} ['(', '(', 'a'] [] _ := .start rfl
    rw [start.scan_eq, Machine.run_of_iterate (n := 7) rfl]
    rfl
  obtain ⟨moves, last, hlast, -, hjoin, hsum, -, htokens, -⟩ := scan_covers hscan
  exact ⟨moves, last, hlast, hscan, hjoin, hsum, htokens⟩

end PushdownLexer
