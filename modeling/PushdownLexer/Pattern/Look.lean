import PushdownLexer.CharClass.Word

/-!
# Conditions on a place in a text

A place lies between two characters, or before the first or after the last one. A condition holds
at a place or does not, and consumes nothing.

## Main definitions

* `Place`: the characters on both sides.
* `Look`: the conditions; `Look.holds` decides them.
-/

namespace PushdownLexer

/-- A place in a text, given by its neighbours; `none` is an end of the text. -/
structure Place where
  before : Option Char
  after : Option Char
  deriving DecidableEq, Repr

/-- What a condition asks of the two sides of a place, as far as words go. -/
inductive WordEdge where
  /-- Just one of the sides is in a word. -/
  | change
  /-- Both sides are in a word, or neither is. -/
  | same
  /-- A word begins here. -/
  | start
  /-- A word ends here. -/
  | stop
  /-- No word character comes before. -/
  | startHalf
  /-- No word character comes after. -/
  | stopHalf
  deriving DecidableEq, Repr

/-- A condition on a place. -/
inductive Look where
  | textStart
  | textEnd
  /-- A line begins here; with `crlf`, a carriage return ends a line too. -/
  | lineStart (crlf : Bool)
  /-- A line ends here; with `crlf`, at a carriage return too. -/
  | lineEnd (crlf : Bool)
  /-- A condition on words; with `ascii`, only ASCII characters make words. -/
  | word (edge : WordEdge) (ascii : Bool)
  deriving DecidableEq, Repr

namespace Look

/-- Whether a side of a place is in a word. -/
def inWord (ascii : Bool) : Option Char → Bool
  | none => false
  | some c => if ascii then CharClass.isAsciiWord c else CharClass.isWord c

/-- Whether a condition on words holds between two sides. -/
def edgeHolds : WordEdge → Bool → Bool → Bool
  | .change, before, after => before != after
  | .same, before, after => before == after
  | .start, before, after => !before && after
  | .stop, before, after => before && !after
  | .startHalf, before, _ => !before
  | .stopHalf, _, after => !after

/-- Whether a condition holds at a place. Between a carriage return and a line feed no line begins
or ends. -/
def holds : Look → Place → Bool
  | textStart, p => p.before.isNone
  | textEnd, p => p.after.isNone
  | lineStart false, p => p.before.isNone || p.before == some '\n'
  | lineEnd false, p => p.after.isNone || p.after == some '\n'
  | lineStart true, p =>
    p.before.isNone || p.before == some '\n' ||
      (p.before == some '\r' && p.after != some '\n')
  | lineEnd true, p =>
    p.after.isNone || p.after == some '\r' ||
      (p.after == some '\n' && p.before != some '\r')
  | word edge ascii, p => edgeHolds edge (inWord ascii p.before) (inWord ascii p.after)

end Look

end PushdownLexer
