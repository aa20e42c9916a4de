import Mathlib.Data.List.Induction
import PushdownLexer.Proofs.Text.Place
import PushdownLexer.Scan.Token

/-!
# Places in a part of a text

A text can be cut and the part after the cut counted on its own. A place in the part is a place in
the whole text: lines and bytes are counted on from the cut, and so are columns, but only on the
line of the cut.

## Main definitions

* `Position.shift`: the place in the whole text of a place in the part that starts at `base`.
* `Span.shift`, `Token.shift`, `ScanFault.shift`: the same for what carries places.

## Main statements

* `Position.shift_afterAll_origin`: counting from the cut gives the places in the whole text.
* `ScanFault.description_shift`: a shifted fault says the same of another place.
-/

namespace PushdownLexer

namespace Position

/-- The place in a text of the place `p` in the part of the text that starts at `base`. -/
def shift (base p : Position) : Position where
  line := p.line + base.line - 1
  column := if p.line = 1 then p.column + base.column - 1 else p.column
  offset := p.offset + base.offset

@[simp] theorem shift_origin (base : Position) : base.shift origin = base := by
  simp [shift, origin]

/-- Lines and columns are counted from one. -/
theorem one_le_afterAll_origin (text : List Char) :
    1 ≤ (origin.afterAll text).line ∧ 1 ≤ (origin.afterAll text).column := by
  induction text using List.reverseRecOn with
  | nil => decide
  | append_singleton text c ih =>
    rw [afterAll_append, afterAll_cons, afterAll_nil, after]
    split <;> grind

theorem shift_after {base p : Position} (hline : 1 ≤ p.line) (hcolumn : 1 ≤ p.column) (c : Char) :
    base.shift (p.after c) = (base.shift p).after c := by
  unfold after shift
  split <;> grind

/-- Counting from the start of a part and shifting is counting on from where the part starts. -/
theorem shift_afterAll_origin (base : Position) (text : List Char) :
    base.shift (origin.afterAll text) = base.afterAll text := by
  induction text using List.reverseRecOn with
  | nil => exact shift_origin base
  | append_singleton text c ih =>
    obtain ⟨hline, hcolumn⟩ := one_le_afterAll_origin text
    rw [afterAll_append, afterAll_append, ← ih]
    exact shift_after hline hcolumn c

theorem line_afterAll (p : Position) (text : List Char) :
    (p.afterAll text).line = p.line + text.count '\n' := by
  induction text generalizing p with
  | nil => rfl
  | cons c text ih =>
    rw [afterAll_cons, ih, after]
    split <;> grind

/-- After a line end, columns are counted from one. -/
theorem afterAll_of_getLast? {text : List Char} (h : text.getLast? = some '\n') (p : Position) :
    p.afterAll text = ⟨p.line + text.count '\n', 1, p.offset + byteLength text⟩ := by
  have hcolumn : (p.afterAll text).column = 1 := by
    obtain ⟨start, rfl⟩ := List.getLast?_eq_some_iff.1 h
    rw [afterAll_append, afterAll_cons, afterAll_nil, after, if_pos rfl]
  rw [← line_afterAll, ← offset_afterAll, ← hcolumn]

/-- Places after a line end are shifted by whole lines. -/
theorem shift_lineStart (lines bytes : Nat) (p : Position) :
    shift ⟨1 + lines, 1, bytes⟩ p = ⟨p.line + lines, p.column, p.offset + bytes⟩ := by
  simp only [shift, Nat.add_sub_cancel, ite_self, mk.injEq, and_true]
  omega

end Position

/-- The range in the whole text. -/
def Span.shift (base : Position) (s : Span) : Span := ⟨base.shift s.start, base.shift s.stop⟩

/-- The token with its range in the whole text. -/
def Token.shift {κ : Type} (base : Position) (t : Token κ) : Token κ := ⟨t.kind, t.span.shift base⟩

namespace ScanFault

/-- The fault with its place in the whole text. -/
def shift (base : Position) : ScanFault → ScanFault
  | noRule p state ahead => noRule (base.shift p) state ahead
  | noSuchState p state => noSuchState (base.shift p) state
  | outermost p state => outermost (base.shift p) state
  | outOfText p requested remaining => outOfText (base.shift p) requested remaining
  | badPattern pattern reason => badPattern pattern reason
  | standstill p state pattern => standstill (base.shift p) state pattern
  | tooDeep p state depth => tooDeep (base.shift p) state depth
  | unclosed p state depth => unclosed (base.shift p) state depth

theorem place?_shift (f : ScanFault) (base : Position) :
    (f.shift base).place? = f.place?.map base.shift := by cases f <;> rfl

/-- All that a fault says besides its place stays. -/
theorem description_shift (f : ScanFault) (base : Position) :
    (f.shift base).kind = f.kind ∧ (f.shift base).state? = f.state? ∧
      (f.shift base).description = f.description := by
  cases f <;> exact ⟨rfl, rfl, rfl⟩

end ScanFault

end PushdownLexer
