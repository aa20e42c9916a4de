/-!
# Settings of a scan

## Main definitions

* `ScanSettings`: what a scan can be told besides its rules.
-/

namespace PushdownLexer

/-- Settings of a scan. -/
structure ScanSettings where
  /-- The state that a scan begins in. -/
  startState : String := "root"
  /-- How many characters of unmatched text a failure shows. -/
  previewLength : Nat := 20
  /-- The largest number of nested states. -/
  maxDepth : Nat := 64
  /-- Whether it is a failure if the text ends in a state that was entered and not left. -/
  strict : Bool := false
  deriving DecidableEq, Repr, Inhabited

end PushdownLexer
