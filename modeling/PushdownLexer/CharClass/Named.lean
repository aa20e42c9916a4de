import PushdownLexer.CharSet

/-!
# Sets of characters with names
-/

namespace PushdownLexer.CharClass

/-- A set of characters with the names that it goes by, in lower case and without separators. -/
structure Named where
  names : List String
  chars : CharSet
  deriving DecidableEq, Repr

/-- The set with a name among those of a list. -/
def find? (sets : List Named) (name : String) : Option CharSet :=
  (sets.find? (·.names.contains name)).map (·.chars)

end PushdownLexer.CharClass
