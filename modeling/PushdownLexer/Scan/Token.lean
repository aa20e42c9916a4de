import PushdownLexer.Text.Span

/-!
# Tokens

## Main definitions

* `Token`: a kind and the range of the text it was made from.
-/

namespace PushdownLexer

/-- A piece of a text that a rule has given a kind. -/
structure Token (κ : Type) where
  kind : κ
  span : Span
  deriving DecidableEq, Repr, Inhabited

namespace Token

variable {κ κ' : Type}

/-- The token with another kind. -/
def map (f : κ → κ') (t : Token κ) : Token κ' := ⟨f t.kind, t.span⟩

/-- The text of a token, unless it lies outside `source` or cuts a character. -/
def lexeme? (t : Token κ) (source : List Char) : Option (List Char) := t.span.text? source

end Token

end PushdownLexer
