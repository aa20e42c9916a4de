import PushdownLexer.Text.Lines

/-!
# The source around a place

A place is shown with the two lines before and after it, each with its number, and a caret under its
column.

## Main definitions

* `sourceContext?`: the source around a place.
-/

namespace PushdownLexer

/-- How many lines are shown before and after a place. -/
def margin : Nat := 2

/-- Put blanks in front of a text until it has `width` characters. -/
def padLeft (width : Nat) (s : List Char) : List Char :=
  List.replicate (width - s.length) ' ' ++ s

/-- The lines of a text, with an empty one after a line feed at its end and in an empty text. -/
def sourceLines (source : List Char) : List (List Char) :=
  if source.isEmpty || source.getLast? == some '\n' then splitLines source ++ [[]]
  else splitLines source

/-- The line above and below the shown lines. -/
def ruleLine (width : Nat) : List Char := List.replicate (width + 1) '-' ++ "|--\n".toList

/-- A line with its number. -/
def numberedLine (width number : Nat) (line : List Char) : List Char :=
  padLeft width (toString number).toList ++ " | ".toList ++ line ++ ['\n']

/-- The line with the caret. -/
def caretLine (width column : Nat) : List Char :=
  List.replicate width ' ' ++ " | ".toList ++ List.replicate (column - 1) ' ' ++ "^\n".toList

/-- The lines from number `number` on, the one with number `line` followed by the caret. -/
def shownLines (width line column number : Nat) : List (List Char) → List Char
  | [] => []
  | text :: texts =>
    numberedLine width number text ++ (if number = line then caretLine width column else []) ++
      shownLines width line column (number + 1) texts

/-- The source around a place, unless there is no such line. -/
def sourceContext? (source : List Char) (line column : Nat) : Option (List Char) :=
  let lines := sourceLines source
  if line = 0 ∨ lines.length < line then none
  else
    let first := max (line - margin) 1
    let last := min (line + margin) lines.length
    let width := (toString last).length
    let shown := (lines.drop (first - 1)).take (last + 1 - first)
    some (ruleLine width ++ shownLines width line column first shown ++ ruleLine width)

end PushdownLexer
