import PushdownLexer.Scan.Fault

/-!
# A cursor in a text

## Main definitions

* `Cursor`: a text, what is left of it after the cursor, and where the cursor stands.
* `Cursor.moveBy`: move the cursor by a number of bytes.
* `Cursor.preview`: the beginning of what is left.
-/

namespace PushdownLexer

/-- A text with a cursor. -/
structure Cursor where
  text : List Char
  /-- What comes after the cursor. -/
  rest : List Char
  /-- Where the cursor stands. -/
  place : Position
  deriving DecidableEq, Repr, Inhabited

namespace Cursor

/-- The cursor at the start of a text. -/
def ofText (text : List Char) : Cursor := ⟨text, text, .origin⟩

/-- The number of bytes before the cursor. -/
def offset (c : Cursor) : Nat := c.place.offset

/-- Whether nothing is left. -/
def atEnd (c : Cursor) : Bool := c.rest.isEmpty

/-- Move the cursor by `n` bytes, if they are there and end a character. -/
def moveBy (c : Cursor) (n : Nat) : Except ScanFault Cursor :=
  match splitAtByte? n c.rest with
  | some (passed, rest) => .ok ⟨c.text, rest, c.place.afterAll passed⟩
  | none => .error (.outOfText c.place n (byteLength c.rest))

/-- The first `n` characters after the cursor, or all if there are fewer. -/
def preview (c : Cursor) (n : Nat) : String := String.ofList (c.rest.take n)

theorem rest_of_moveBy {c d : Cursor} {n : Nat} (h : c.moveBy n = .ok d) :
    ∃ passed, byteLength passed = n ∧ c.rest = passed ++ d.rest ∧
      d.place = c.place.afterAll passed := by
  unfold moveBy at h
  split at h
  · rename_i passed rest hs
    cases h
    exact ⟨passed, byteLength_of_splitAtByte? hs, (append_of_splitAtByte? hs).symm, rfl⟩
  · cases h

/-- Moving the cursor leaves no more than before, and less if it moves by a byte or more. -/
theorem length_rest_of_moveBy {c d : Cursor} {n : Nat} (h : c.moveBy n = .ok d) :
    d.rest.length ≤ c.rest.length ∧ (n ≠ 0 → d.rest.length < c.rest.length) := by
  obtain ⟨passed, hn, hr, -⟩ := rest_of_moveBy h
  rw [hr, List.length_append]
  refine ⟨by omega, fun hz => ?_⟩
  cases passed with
  | nil => exact absurd hn.symm hz
  | cons a passed => simp

end Cursor

end PushdownLexer
