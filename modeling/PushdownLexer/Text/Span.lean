import PushdownLexer.Text.Position

/-!
# Ranges of a text

## Main definitions

* `Span`: a range between two positions.
* `Span.length?`, `Span.text?`: its number of bytes and its text, as far as there are any.
-/

namespace PushdownLexer

/-- A range of a text, from `start` up to `stop`. -/
structure Span where
  start : Position
  stop : Position
  deriving DecidableEq, Repr, Inhabited

namespace Span

/-- The empty range at a position. -/
def point (p : Position) : Span := ⟨p, p⟩

/-- The number of bytes of a range, unless it ends before it starts. -/
def length? (s : Span) : Option Nat :=
  if s.stop.offset < s.start.offset then none else some (s.stop.offset - s.start.offset)

/-- The number of bytes of a range. -/
def length (s : Span) : Nat := s.stop.offset - s.start.offset

/-- The text of a range, unless it lies outside the text or cuts a character. -/
def text? (s : Span) (source : List Char) : Option (List Char) :=
  slice? source s.start.offset s.stop.offset

end Span

end PushdownLexer
