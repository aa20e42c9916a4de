import PushdownLexer.CharSet

/-!
# White space

`blank` holds the characters with the Unicode property "white space": the usual blanks and line
ends, and the spaces of other scripts. The zero-width space and the byte order mark are not among
them.
-/

namespace PushdownLexer.CharClass

/-- The characters with the property "white space". -/
def blank : CharSet := ⟨
  [(0x9, 0xD), (0x20, 0x20), (0x85, 0x85), (0xA0, 0xA0), (0x1680, 0x1680), (0x2000, 0x200A),
   (0x2028, 0x2029), (0x202F, 0x202F), (0x205F, 0x205F), (0x3000, 0x3000)]⟩

/-- Whether `c` is white space. -/
def isBlank (c : Char) : Bool := blank.contains c

end PushdownLexer.CharClass
