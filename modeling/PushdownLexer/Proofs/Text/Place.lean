import Mathlib.Data.List.Basic
import Mathlib.Tactic.NormNum
import PushdownLexer.Scan.Cursor

/-!
# Cursors that stand in a text

A cursor keeps what is left of its text and counts lines, columns and bytes as it goes. Both agree
with the text: what it has passed and what is left make up the text, and its place is the one that
counting from the start of the text gives for its offset.

## Main definitions

* `Cursor.Within`: a cursor stands in a text.

## Main statements

* `Cursor.within_ofText`, `Cursor.Within.moveBy`: cursors stand in their text, wherever they move.
* `Cursor.Within.place_eq_ofOffset`: the place of a cursor is the place of its offset.
-/

namespace PushdownLexer

/-- A beginning of a text is the longest one within its own number of bytes. -/
theorem takeBytes_append (s t : List Char) : takeBytes (byteLength s) (s ++ t) = s := by
  induction s with
  | nil =>
    cases t with
    | nil => rfl
    | cons c t => simp [takeBytes, c.utf8Size_pos.ne']
  | cons c s ih => simp [takeBytes, ih]

theorem Position.offset_afterAll_origin (text : List Char) :
    (Position.origin.afterAll text).offset = byteLength text := by
  simp [Position.offset_afterAll, Position.origin]

/-- The place after a beginning of a text is found again by its offset. -/
theorem Position.ofOffset_append (s t : List Char) :
    Position.ofOffset (s ++ t) (byteLength s) = Position.origin.afterAll s := by
  rw [Position.ofOffset, takeBytes_append]

theorem takeBytes_isPrefix (n : Nat) (text : List Char) : takeBytes n text <+: text := by
  induction text generalizing n with
  | nil => exact List.prefix_rfl
  | cons c text ih =>
    rw [takeBytes]
    split
    · exact List.cons_prefix_cons.2 ⟨rfl, ih _⟩
    · exact List.nil_prefix

/-- A place that an offset has is the place of its own offset. -/
theorem Position.ofOffset_offset (text : List Char) (n : Nat) :
    Position.ofOffset text (Position.ofOffset text n).offset = Position.ofOffset text n := by
  obtain ⟨rest, hrest⟩ := takeBytes_isPrefix n text
  have hoffset : (Position.ofOffset text n).offset = byteLength (takeBytes n text) :=
    Position.offset_afterAll_origin (takeBytes n text)
  calc Position.ofOffset text (Position.ofOffset text n).offset
      = Position.ofOffset (takeBytes n text ++ rest) (byteLength (takeBytes n text)) := by
        rw [hoffset, hrest]
    _ = Position.ofOffset text n := Position.ofOffset_append _ _

/-- A place between two characters of a text cuts it in one way. -/
theorem append_inj_of_byteLength {s s' t t' : List Char} (h : s ++ t = s' ++ t')
    (hlength : byteLength s = byteLength s') : s = s' ∧ t = t' := by
  have hcut := splitAtByte?_append s t
  rw [h, hlength, splitAtByte?_append] at hcut
  simpa [eq_comm] using hcut

/-- The part of a text between two others. -/
theorem slice?_append (s part t : List Char) :
    slice? (s ++ part ++ t) (byteLength s) (byteLength s + byteLength part) = some part := by
  simp [slice?, splitAtByte?_append]

/-- The beginning of a text can be cut out. -/
theorem slice?_take (text : List Char) (n : Nat) :
    slice? text 0 (byteLength (text.take n)) = some (text.take n) := by
  simpa using slice?_append [] (text.take n) (text.drop n)

/-- A part of a text can be cut out. -/
theorem slice?_drop_take (text : List Char) (m n : Nat) :
    slice? text (byteLength (text.take m)) (byteLength (text.take (m + n))) =
      some ((text.drop m).take n) := by
  have hslice := slice?_append (text.take m) ((text.drop m).take n) ((text.drop m).drop n)
  rwa [List.append_assoc, List.take_append_drop, List.take_append_drop, ← byteLength_append,
    ← List.take_add] at hslice

theorem byteLength_eq_zero {text : List Char} : byteLength text = 0 ↔ text = [] := by
  cases text with
  | nil => simp
  | cons c text => simp [c.utf8Size_pos.ne']

namespace Cursor

/-- A cursor stands in `text`: what it has passed and what is left make up the text, and its place
is the one after what it has passed. -/
structure Within (text : List Char) (c : Cursor) : Prop where
  text_eq : c.text = text
  passed : ∃ passed, text = passed ++ c.rest ∧ c.place = Position.origin.afterAll passed

variable {text : List Char} {c d : Cursor} {n : Nat}

theorem within_ofText (text : List Char) : Within text (ofText text) :=
  ⟨rfl, [], rfl, rfl⟩

/-- A move lets `Cursor.text` alone. -/
theorem text_of_moveBy (h : c.moveBy n = .ok d) : d.text = c.text := by
  unfold moveBy at h
  split at h <;> cases h
  rfl

/-- A move by no byte is none. -/
theorem eq_of_moveBy_zero (h : c.moveBy 0 = .ok d) : d = c := by
  simpa [moveBy, splitAtByte?] using h.symm

/-- A cursor can always be moved over some of the characters that are left. -/
theorem moveBy_take (c : Cursor) (n : Nat) :
    c.moveBy (byteLength (c.rest.take n)) =
      .ok ⟨c.text, c.rest.drop n, c.place.afterAll (c.rest.take n)⟩ := by
  have hsplit := splitAtByte?_append (c.rest.take n) (c.rest.drop n)
  rw [List.take_append_drop] at hsplit
  rw [moveBy, hsplit]

theorem offset_of_moveBy (h : c.moveBy n = .ok d) : d.offset = c.offset + n := by
  obtain ⟨passed, hn, -, hplace⟩ := rest_of_moveBy h
  rw [offset, hplace, Position.offset_afterAll, hn, offset]

theorem atEnd_iff : c.atEnd = true ↔ c.rest = [] := by simp [atEnd]

theorem atEnd_eq_false_iff : c.atEnd = false ↔ c.rest ≠ [] := by simp [atEnd]

namespace Within

theorem moveBy (hc : Within text c) (h : c.moveBy n = .ok d) : Within text d := by
  obtain ⟨before, htext, hplace⟩ := hc.passed
  obtain ⟨passed, -, hrest, hmoved⟩ := rest_of_moveBy h
  refine ⟨(text_of_moveBy h).trans hc.text_eq, before ++ passed, ?_, ?_⟩
  · rw [List.append_assoc, ← hrest, ← htext]
  · rw [hmoved, hplace, Position.afterAll_append]

/-- The offset of a cursor is a place between two characters or an end of the text. -/
theorem boundary (hc : Within text c) :
    ∃ passed, text = passed ++ c.rest ∧ c.offset = byteLength passed := by
  obtain ⟨passed, htext, hplace⟩ := hc.passed
  refine ⟨passed, htext, ?_⟩
  rw [offset, hplace, Position.offset_afterAll_origin]

/-- What is left is what comes after the offset. -/
theorem rest_eq (hc : Within text c) {passed rest : List Char} (htext : text = passed ++ rest)
    (hoffset : c.offset = byteLength passed) : c.rest = rest := by
  obtain ⟨before, hbefore, hlength⟩ := hc.boundary
  have hcut : passed ++ rest = before ++ c.rest := htext.symm.trans hbefore
  exact (append_inj_of_byteLength hcut (hoffset.symm.trans hlength)).2.symm

theorem offset_add (hc : Within text c) : c.offset + byteLength c.rest = byteLength text := by
  obtain ⟨passed, htext, hoffset⟩ := hc.boundary
  rw [hoffset, htext, byteLength_append]

theorem offset_le (hc : Within text c) : c.offset ≤ byteLength text := by
  have := hc.offset_add
  omega

/-- The count of lines and columns that a cursor keeps is the one from the start of the text. -/
theorem place_eq_ofOffset (hc : Within text c) : c.place = Position.ofOffset text c.offset := by
  obtain ⟨passed, htext, hplace⟩ := hc.passed
  have hoffset : c.offset = byteLength passed := by
    rw [offset, hplace, Position.offset_afterAll_origin]
  rw [hoffset, htext, Position.ofOffset_append, hplace]

theorem offset_eq_iff_atEnd (hc : Within text c) :
    c.offset = byteLength text ↔ c.atEnd = true := by
  have := hc.offset_add
  rw [atEnd_iff, ← byteLength_eq_zero]
  omega

theorem offset_lt_iff (hc : Within text c) :
    c.offset < byteLength text ↔ c.atEnd = false := by
  rw [← Bool.not_eq_true, ← hc.offset_eq_iff_atEnd]
  have := hc.offset_le
  omega

end Within

end Cursor

end PushdownLexer
