/-!
# The lines of a text

A line feed ends a line, and a carriage return right before it belongs to the line end. A text that
does not end in a line feed has a last line without a line end.

## Main definitions

* `splitLines`: the lines of a text, without their line ends.
-/

namespace PushdownLexer

/-- The lines of a text, without their line ends. -/
def splitLines : List Char → List (List Char)
  | [] => []
  | '\n' :: text => [] :: splitLines text
  | '\r' :: '\n' :: text => [] :: splitLines text
  | c :: text =>
    match splitLines text with
    | [] => [[c]]
    | line :: lines => (c :: line) :: lines

end PushdownLexer
