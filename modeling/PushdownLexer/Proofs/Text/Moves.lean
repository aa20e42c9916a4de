import PushdownLexer.Proofs.Text.Locate

/-!
# Cursors that are moved several times

A cursor can be moved to any place between two characters of its text, in as many moves as one
likes. Where it comes to depends only on how many bytes it has been moved in all: each move counts
on from where the one before it stopped, and what is left there has the places that the text has.

## Main definitions

* `Cursor.moveAll`: move a cursor several times.

## Main statements

* `Cursor.Within.exists_moveBy_iff`: how far a cursor can be moved.
* `Cursor.Within.moveBy_add`: two moves are one move by both numbers of bytes.
* `Cursor.moveAll_ofText`: where moves from the start of a text lead, and how they fail.
-/

namespace PushdownLexer.Cursor

variable {text : List Char} {c d e : Cursor} {m n : Nat} {counts : List Nat} {f : ScanFault}

/-- Move a cursor by several numbers of bytes, one after the other. -/
def moveAll (c : Cursor) (counts : List Nat) : Except ScanFault Cursor := counts.foldlM moveBy c

/-! ## One move -/

theorem eq_outOfText_of_moveBy (h : c.moveBy n = .error f) :
    f = .outOfText c.place n (byteLength c.rest) := by
  unfold moveBy at h
  split at h <;> cases h
  rfl

theorem exists_moveBy_iff : (∃ d, c.moveBy n = .ok d) ↔ IsBoundary c.rest n := by
  rw [isBoundary_iff, moveBy]
  cases splitAtByte? n c.rest <;> simp

namespace Within

/-- The places in what is left are the places of the text that come after the cursor. -/
theorem isBoundary_rest_iff (hc : Within text c) :
    IsBoundary c.rest n ↔ n ≤ byteLength c.rest ∧ IsBoundary text (c.offset + n) := by
  obtain ⟨passed, htext, hoffset⟩ := hc.boundary
  constructor
  · intro h
    obtain ⟨before, after, hrest, hn⟩ := id h
    refine ⟨h.le, passed ++ before, after, ?_, ?_⟩
    · rw [List.append_assoc, ← hrest, htext]
    · rw [byteLength_append, hn, hoffset]
  · rintro ⟨-, before, after, hbefore, hn⟩
    have hle : byteLength passed ≤ byteLength before := by omega
    obtain ⟨part, rfl⟩ := prefix_of_byteLength_le ⟨c.rest, htext.symm⟩ ⟨after, hbefore.symm⟩ hle
    rw [List.append_assoc] at hbefore
    rw [byteLength_append] at hn
    exact ⟨part, after, List.append_cancel_left (htext.symm.trans hbefore), by omega⟩

/-- A cursor can be moved by as many bytes as are left, if a character ends there. -/
theorem exists_moveBy_iff (hc : Within text c) :
    (∃ d, c.moveBy n = .ok d) ↔ n ≤ byteLength c.rest ∧ IsBoundary text (c.offset + n) := by
  rw [Cursor.exists_moveBy_iff, hc.isBoundary_rest_iff]

/-- A cursor in a text is known by its offset. -/
theorem eq_of_offset_eq (hc : Within text c) (hd : Within text d) (h : c.offset = d.offset) :
    c = d := by
  obtain ⟨passed, htext, hoffset⟩ := hd.boundary
  have hrest : c.rest = d.rest := hc.rest_eq htext (h.trans hoffset)
  have hplace : c.place = d.place := by rw [hc.place_eq_ofOffset, hd.place_eq_ofOffset, h]
  have hsame : c.text = d.text := hc.text_eq.trans hd.text_eq.symm
  cases c
  cases d
  simp_all

/-- What is left is the text from the offset on. -/
theorem slice?_eq (hc : Within text c) :
    slice? text c.offset (byteLength text) = some c.rest := by
  obtain ⟨passed, htext, hoffset⟩ := hc.boundary
  have hslice := slice?_append passed c.rest []
  rwa [List.append_nil, ← htext, ← hoffset, hc.offset_add] at hslice

/-- What a cursor is moved over can be cut out of the text. -/
theorem slice?_of_moveBy (hc : Within text c) (h : c.moveBy n = .ok d) :
    ∃ passed, slice? text c.offset d.offset = some passed ∧ byteLength passed = n := by
  obtain ⟨before, hbefore, hoffset⟩ := hc.boundary
  obtain ⟨passed, hlength, hrest, -⟩ := rest_of_moveBy h
  refine ⟨passed, ?_, hlength⟩
  rw [hbefore, hrest, ← List.append_assoc, offset_of_moveBy h, hoffset, ← hlength]
  exact slice?_append before passed d.rest

/-- Two moves are one move by both numbers of bytes. -/
theorem moveBy_add (hc : Within text c) (h : c.moveBy m = .ok d) :
    d.moveBy n = .ok e ↔ c.moveBy (m + n) = .ok e := by
  have hd := hc.moveBy h
  have hoffset : d.offset = c.offset + m := offset_of_moveBy h
  constructor
  · intro hn
    obtain ⟨-, hboundary⟩ := hd.exists_moveBy_iff.1 ⟨e, hn⟩
    have hsum : c.offset + (m + n) = d.offset + n := by omega
    have hle : m + n ≤ byteLength c.rest := by
      have := hc.offset_add
      have := hboundary.le
      omega
    obtain ⟨e', he'⟩ := hc.exists_moveBy_iff.2 ⟨hle, hsum ▸ hboundary⟩
    have hsame : e' = e := (hc.moveBy he').eq_of_offset_eq (hd.moveBy hn) (by
      rw [offset_of_moveBy he', offset_of_moveBy hn, hsum])
    rw [he', hsame]
  · intro hmn
    obtain ⟨-, hboundary⟩ := hc.exists_moveBy_iff.1 ⟨e, hmn⟩
    have hsum : d.offset + n = c.offset + (m + n) := by omega
    have hle : n ≤ byteLength d.rest := by
      have := hd.offset_add
      have := hboundary.le
      omega
    obtain ⟨e', he'⟩ := hd.exists_moveBy_iff.2 ⟨hle, hsum ▸ hboundary⟩
    have hsame : e' = e := (hd.moveBy he').eq_of_offset_eq (hc.moveBy hmn) (by
      rw [offset_of_moveBy he', offset_of_moveBy hmn, hsum])
    rw [he', hsame]

end Within

/-! ## Several moves -/

theorem moveAll_cons_eq_ok_iff :
    c.moveAll (n :: counts) = .ok e ↔ ∃ d, c.moveBy n = .ok d ∧ d.moveAll counts = .ok e := by
  rw [moveAll, List.foldlM_cons]
  cases c.moveBy n <;> simp [bind, Except.bind, moveAll]

theorem Within.moveAll (hc : Within text c) (h : c.moveAll counts = .ok d) : Within text d := by
  induction counts generalizing c with
  | nil =>
    cases h
    exact hc
  | cons n counts ih =>
    obtain ⟨e, hn, hcounts⟩ := moveAll_cons_eq_ok_iff.1 h
    exact ih (hc.moveBy hn) hcounts

theorem offset_of_moveAll (h : c.moveAll counts = .ok d) : d.offset = c.offset + counts.sum := by
  induction counts generalizing c with
  | nil =>
    cases h
    rfl
  | cons n counts ih =>
    obtain ⟨e, hn, hcounts⟩ := moveAll_cons_eq_ok_iff.1 h
    rw [ih hcounts, offset_of_moveBy hn, List.sum_cons, Nat.add_assoc]

/-- Moves fail with the first one that does. -/
theorem exists_of_moveAll_eq_error (h : c.moveAll counts = .error f) :
    ∃ done n more d, counts = done ++ n :: more ∧ c.moveAll done = .ok d ∧
      d.moveBy n = .error f := by
  induction counts generalizing c with
  | nil => cases h
  | cons n counts ih =>
    cases hn : c.moveBy n with
    | error g =>
      rw [moveAll, List.foldlM_cons, hn] at h
      cases h
      exact ⟨[], n, counts, c, rfl, rfl, hn⟩
    | ok e =>
      rw [moveAll, List.foldlM_cons, hn] at h
      obtain ⟨done, k, more, d, rfl, hdone, hk⟩ := ih h
      exact ⟨n :: done, k, more, d, rfl, moveAll_cons_eq_ok_iff.2 ⟨e, hn, hdone⟩, hk⟩

/-- Moves from the start of a text. Where they succeed, the cursor has passed all bytes that it was
moved by, what is left is the text from there on, and its place is that of its offset. So other
moves by as many bytes in all lead to the same cursor, and two moves are one move by both numbers of
bytes. From there a move by `n` bytes succeeds if no fewer are left and a character of the text
ends after them. The first move that does not fails with the place, `n` and how many bytes
are left. -/
theorem moveAll_ofText (text : List Char) (counts : List Nat) :
    (∀ c, (ofText text).moveAll counts = .ok c →
      (c.text = text ∧ c.offset = counts.sum ∧
        slice? text c.offset (byteLength text) = some c.rest ∧
        c.place = Position.ofOffset text c.offset) ∧
      (∀ n, ((∃ d, c.moveBy n = .ok d) ↔
          n ≤ byteLength c.rest ∧ IsBoundary text (c.offset + n)) ∧
        ∀ f, c.moveBy n = .error f → f = .outOfText c.place n (byteLength c.rest)) ∧
      (∀ counts' c', counts'.sum = counts.sum → (ofText text).moveAll counts' = .ok c' → c' = c) ∧
      ∀ m n d e, c.moveBy m = .ok d → (d.moveBy n = .ok e ↔ c.moveBy (m + n) = .ok e)) ∧
    ∀ f, (ofText text).moveAll counts = .error f →
      ∃ done n more c, counts = done ++ n :: more ∧ (ofText text).moveAll done = .ok c ∧
        c.moveBy n = .error f ∧ f = .outOfText c.place n (byteLength c.rest) := by
  refine ⟨fun c h => ?_, fun f h => ?failure⟩
  case failure =>
    obtain ⟨done, n, more, c, hcounts, hdone, hn⟩ := exists_of_moveAll_eq_error h
    exact ⟨done, n, more, c, hcounts, hdone, hn, eq_outOfText_of_moveBy hn⟩
  have hc : Within text c := (within_ofText text).moveAll h
  have hoffset : c.offset = counts.sum := (offset_of_moveAll h).trans (Nat.zero_add _)
  refine ⟨⟨hc.text_eq, hoffset, hc.slice?_eq, hc.place_eq_ofOffset⟩, fun n => ?_, ?_, ?_⟩
  · exact ⟨hc.exists_moveBy_iff, fun f hf => eq_outOfText_of_moveBy hf⟩
  · intro counts' c' hsum h'
    have hoffset' : c'.offset = counts'.sum := (offset_of_moveAll h').trans (Nat.zero_add _)
    exact ((within_ofText text).moveAll h').eq_of_offset_eq hc (by omega)
  · exact fun m n d e hm => hc.moveBy_add hm

/-- Two moves to the start of the second line lead where one does. From there no move ends inside of
the next character. -/
theorem moveAll_wideLines :
    ∃ c, (ofText wideLines).moveAll [3, 1] = .ok c ∧ (ofText wideLines).moveAll [4] = .ok c ∧
      c.offset = 4 ∧ c.place = Position.ofOffset wideLines 4 ∧
      (¬ ∃ d, c.moveBy 1 = .ok d) ∧ c.moveBy 1 = .error (.outOfText ⟨2, 1, 4⟩ 1 2) := by
  have hboth : (ofText wideLines).moveAll [3, 1] = .ok ⟨wideLines, ['é'], ⟨2, 1, 4⟩⟩ := by rfl
  have hone : (ofText wideLines).moveAll [4] = .ok ⟨wideLines, ['é'], ⟨2, 1, 4⟩⟩ := by rfl
  obtain ⟨⟨-, hoffset, -, hplace⟩, hmove, hsame, -⟩ :=
    (moveAll_ofText wideLines [3, 1]).1 _ hboth
  have hinside : ¬ IsBoundary wideLines 5 := by decide
  refine ⟨_, hboth, (hsame [4] _ rfl hone) ▸ hone, hoffset, hplace, ?_, by rfl⟩
  exact fun hd => hinside ((hmove 1).1.1 hd).2

end PushdownLexer.Cursor
