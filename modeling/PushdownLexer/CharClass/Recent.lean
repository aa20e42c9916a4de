import PushdownLexer.CharClass.Word

/-!
# Characters of the latest edition

Character classes of patterns are those of edition 16 of the Unicode standard. Names and quoted
texts also know the characters that edition 17 added.

## Main definitions

* `recentAlphabetic`, `recentNumeral`, `recentVisible`: what edition 17 added.
* `isAlphabetic`, `isAlphanumeric`: whether a character is alphabetic, or a numeral, in edition 17.
* `isNameStart`, `isNameRest`: whether a character may stand in a name.
-/

namespace PushdownLexer.CharClass

/-- The alphabetic characters that edition 17 added. -/
def recentAlphabetic : CharSet := CharSet.ofText
  "88F C5C CDC A7CE-A7CF A7D2 A7D4 A7F1 10940-10959 10EC5-10EC7 10EFA-10EFB 11B60-11B67
   11DB0-11DDB 16EA0-16EB8 16EBB-16ED3 16FF2-16FF6 187F8-187FF 18D09-18D1E 18D80-18DF2
   1E6C0-1E6DE 1E6E0-1E6F5 1E6FE-1E6FF 2B73A-2B73F 2CEA2-2CEAD 323B0-33479"

/-- The numerals that edition 17 added. -/
def recentNumeral : CharSet := CharSet.ofText "11DE0-11DE9 16FF4-16FF6"

/-- The characters that edition 17 added, except for those that extend the one before
them. -/
def recentVisible : CharSet := CharSet.ofText
  "88F C5C CDC 20C1 2B96 A7CE-A7CF A7D2 A7D4 A7F1 FBC3-FBD2 FD90-FD91 FDC8-FDCE 10940-10959
   10EC5-10EC7 10ED0-10ED8 11B61 11B65 11B67 11DB0-11DDB 11DE0-11DE9 16EA0-16EB8 16EBB-16ED3
   16FF2-16FF6 187F8-187FF 18D09-18D1E 18D80-18DF2 1CCFA-1CCFC 1CEBA-1CED0 1CEE0-1CEF0
   1E6C0-1E6DE 1E6E0-1E6E2 1E6E4-1E6E5 1E6E7-1E6ED 1E6F0-1E6F4 1E6FE-1E6FF 1F6D8 1F777-1F77A
   1F8D0-1F8D8 1FA54-1FA57 1FA8A 1FA8E 1FAC8 1FACD 1FAEA 1FAEF 1FBFA 2B73A-2B73F 2CEA2-2CEAD
   323B0-33479"

/-- Whether `c` is alphabetic. -/
def isAlphabetic (c : Char) : Bool := alphabetic.contains c || recentAlphabetic.contains c

/-- Whether `c` is alphabetic or a numeral. -/
def isAlphanumeric (c : Char) : Bool :=
  isAlphabetic c || numeral.contains c || recentNumeral.contains c

/-- Whether `c` may begin a name: an alphabetic character or the underscore. -/
def isNameStart (c : Char) : Bool := c == '_' || isAlphabetic c

/-- Whether `c` may stand inside a name. -/
def isNameRest (c : Char) : Bool :=
  c == '_' || c == '.' || c == '[' || c == ']' || isAlphanumeric c

end PushdownLexer.CharClass
