import PushdownLexer.CharClass.Grapheme
import PushdownLexer.CharClass.Recent

/-!
# Characters that do not show by themselves

`hidden` holds what a quoted text writes by its code point: characters that have no shape of their
own, and those that combine with the one before them.
-/

namespace PushdownLexer.CharClass

/-- Controls, formats, unassigned code points, separators other than the space, characters to be
ignored by default, and those that extend the one before them. -/
def hidden : CharSet :=
  (CharSet.unionAll [other, separator, graphemeExtend, defaultIgnorable]).diff
    (recentVisible.union (CharSet.single ' '))

/-- Whether `c` does not show by itself. -/
def isHidden (c : Char) : Bool := hidden.contains c

end PushdownLexer.CharClass
