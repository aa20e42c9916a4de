import PushdownLexer.Text.Bytes

/-!
# Positions in a text

A position is a line, a column and an offset. Lines and columns count from one, columns count
characters, and offsets count bytes. Only a line feed ends a line.

## Main definitions

* `Position`: `Position.after` is the position after a character, `Position.afterAll` after a text.
* `Position.ofOffset`: the position of an offset in a text.
* `Position.fits`: all numbers of a position are 64-bit words.
-/

namespace PushdownLexer

/-- The largest 64-bit word. -/
def maxWord : Nat := 0xFFFFFFFFFFFFFFFF

/-- A place in a text. -/
structure Position where
  line : Nat
  column : Nat
  offset : Nat
  deriving DecidableEq, Repr, Inhabited

namespace Position

/-- The first position of every text. -/
def origin : Position := ⟨1, 1, 0⟩

/-- The position after the character `c`. -/
def after (p : Position) (c : Char) : Position :=
  if c = '\n' then ⟨p.line + 1, 1, p.offset + c.utf8Size⟩
  else ⟨p.line, p.column + 1, p.offset + c.utf8Size⟩

/-- The position after a text. -/
def afterAll (p : Position) (text : List Char) : Position := text.foldl after p

/-- The position of a byte in a text: of the end, if the text is shorter, and of the start of the
character, if the byte is inside one. -/
def ofOffset (text : List Char) (offset : Nat) : Position :=
  origin.afterAll (takeBytes offset text)

/-- Whether line, column and offset are 64-bit words. -/
def fits (p : Position) : Bool := p.line ≤ maxWord && p.column ≤ maxWord && p.offset ≤ maxWord

/-- The position after the character `c`, unless one of its numbers is no 64-bit word. -/
def after? (p : Position) (c : Char) : Option Position :=
  if (p.after c).fits then some (p.after c) else none

/-- The position after a text, unless a number on the way is no 64-bit word. -/
def afterAll? (p : Position) (text : List Char) : Option Position := text.foldlM after? p

/-- Line and column with a colon between them. -/
def render (p : Position) : String := toString p.line ++ ":" ++ toString p.column

@[simp] theorem afterAll_nil (p : Position) : p.afterAll [] = p := rfl

@[simp] theorem afterAll_cons (p : Position) (c : Char) (text : List Char) :
    p.afterAll (c :: text) = (p.after c).afterAll text := rfl

theorem afterAll_append (p : Position) (s t : List Char) :
    p.afterAll (s ++ t) = (p.afterAll s).afterAll t := by
  simp [afterAll]

@[simp] theorem offset_after (p : Position) (c : Char) :
    (p.after c).offset = p.offset + c.utf8Size := by
  unfold after; split <;> rfl

theorem offset_afterAll (p : Position) (text : List Char) :
    (p.afterAll text).offset = p.offset + byteLength text := by
  induction text generalizing p with
  | nil => simp
  | cons c text ih => simp [ih]; omega

end Position

end PushdownLexer
