/-!
# What makes a pattern invalid

## Main definitions

* `PatternError`: the causes.
* `PatternError.message`: their wording.
-/

namespace PushdownLexer

/-- Why a pattern is invalid. -/
inductive PatternError where
  | unclosedGroup
  | unopenedGroup
  | missingOperand
  | badCount
  | reversedCount
  | lookAround
  | backReference
  | badGroupName
  | duplicateGroupName (name : String)
  | unknownFlag
  | repeatedFlag
  | danglingNegation
  | unfinishedEscape
  | unknownEscape (c : Char)
  | badCodePoint
  | unknownWordEdge
  | unknownProperty
  | unclosedBracket
  | badRange
  | notAllowedInBracket
  | needsUnicode
  | invalidUtf8
  | tooDeep
  | tooLarge
  deriving DecidableEq, Repr, Inhabited

/-- The wording of a cause. -/
def PatternError.message : PatternError → String
  | unclosedGroup => "unclosed group"
  | unopenedGroup => "unopened group"
  | missingOperand => "repetition operator missing expression"
  | badCount => "repetition count is not a decimal number in braces"
  | reversedCount => "repetition count ends before it starts"
  | lookAround => "look-around is not supported"
  | backReference => "back-references are not supported"
  | badGroupName => "invalid group name"
  | duplicateGroupName name => "duplicate group name " ++ name
  | unknownFlag => "unrecognized flag"
  | repeatedFlag => "repeated flag"
  | danglingNegation => "dangling flag negation"
  | unfinishedEscape => "incomplete escape sequence"
  | unknownEscape c => "unrecognized escape sequence " ++ String.ofList ['\\', c]
  | badCodePoint => "escape sequence is not a code point"
  | unknownWordEdge => "unrecognized word edge"
  | unknownProperty => "unknown character property"
  | unclosedBracket => "unclosed bracket"
  | badRange => "invalid character range"
  | notAllowedInBracket => "escape sequence not allowed in brackets"
  | needsUnicode => "not allowed without Unicode support"
  | invalidUtf8 => "may match bytes that are no text"
  | tooDeep => "nested too deeply"
  | tooLarge => "too large"

end PushdownLexer
