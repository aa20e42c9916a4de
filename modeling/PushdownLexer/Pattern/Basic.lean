import PushdownLexer.Pattern.Automaton
import PushdownLexer.Pattern.Reader.Step

/-!
# Patterns

A `Pattern` is a pattern that has been read and made ready for matching.

## Main definitions

* `Pattern.ofText?`: read a pattern.
* `Pattern.find?`: the leftmost match of a pattern in a text.
-/

namespace PushdownLexer

/-- A pattern that is ready for matching. -/
structure Pattern where
  expr : Expr
  node : Node := expr.toNode
  deriving DecidableEq, Repr, Inhabited

/-- Read a pattern. -/
def Pattern.ofText? (text : List Char) : Except PatternError Pattern :=
  (Expr.ofPattern? text).map fun expr => { expr }

/-- Where the leftmost match in `text` starts, and its length, in characters. -/
def Pattern.find? (p : Pattern) (text : List Char) : Option (Nat × Nat) := p.node.find? text

end PushdownLexer
