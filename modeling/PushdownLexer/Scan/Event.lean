import PushdownLexer.Scan.Fault

/-!
# What happens in a scan

## Main definitions

* `ScanEvent`: the events of a scan, as they are logged.
-/

namespace PushdownLexer

/-- An event of a scan. -/
inductive ScanEvent where
  /-- A text of `length` bytes is to be scanned from `state`, with rules for so many states. -/
  | started (length : Nat) (state : String) (states : Nat)
  /-- A rule was selected; the cursor is still after `offset` bytes. -/
  | matched (state : String) (offset length : Nat) (pattern : String) (hasToken : Bool)
  /-- State `state` was left, which leads back to `active`. -/
  | left (state active : String)
  /-- State `state` was entered, which makes `depth` states. -/
  | entered (state : String) (depth : Nat)
  /-- The scan failed. -/
  | failed (fault : ScanFault)
  /-- The scan came to the end of the text, after `length` bytes. -/
  | finished (tokens length : Nat) (state : String)
  deriving DecidableEq, Repr, Inhabited

end PushdownLexer
