import PushdownLexer.Text.Position

/-!
# Why a scan fails

## Main definitions

* `ScanFault`: the causes, each with what is known about it.
* `ScanFault.kind`, `ScanFault.place?`, `ScanFault.state?`: what a cause is called, where it lies
  and which state it concerns.
* `ScanFault.message`: its wording.
-/

namespace PushdownLexer

/-- Why a scan fails. -/
inductive ScanFault where
  /-- No rule of the active state matches; `ahead` begins the text that is left. -/
  | noRule (place : Position) (state ahead : String)
  /-- A state without rules was asked for. -/
  | noSuchState (place : Position) (state : String)
  /-- The outermost state was to be left. -/
  | outermost (place : Position) (state : String)
  /-- The cursor was to move out of the text or into a character. -/
  | outOfText (place : Position) (requested remaining : Nat)
  /-- A rule was given an invalid pattern. -/
  | badPattern (pattern reason : String)
  /-- The scan goes on and on without moving. -/
  | standstill (place : Position) (state pattern : String)
  /-- A state was to be entered while as many as allowed were entered and not left. -/
  | tooDeep (place : Position) (state : String) (depth : Nat)
  /-- The text ended in a state that was entered and not left. -/
  | unclosed (place : Position) (state : String) (depth : Nat)
  deriving DecidableEq, Repr, Inhabited

namespace ScanFault

/-- The name of a cause. -/
def kind : ScanFault → String
  | noRule .. => "UnmatchedInput"
  | noSuchState .. => "UnknownState"
  | outermost .. => "EmptyStack"
  | outOfText .. => "OutOfRange"
  | badPattern .. => "InvalidPattern"
  | standstill .. => "EmptyMatch"
  | tooDeep .. => "StackOverflow"
  | unclosed .. => "UnterminatedState"

/-- Where a scan failed. -/
def place? : ScanFault → Option Position
  | noRule p _ _ | noSuchState p _ | outermost p _ | outOfText p _ _ | standstill p _ _
  | tooDeep p _ _ | unclosed p _ _ => some p
  | badPattern _ _ => none

/-- The state that a failure concerns. -/
def state? : ScanFault → Option String
  | noRule _ s _ | noSuchState _ s | outermost _ s | standstill _ s _ | tooDeep _ s _
  | unclosed _ s _ => some s
  | outOfText _ _ _ | badPattern _ _ => none

/-- The line of a failure. -/
def line? (f : ScanFault) : Option Nat := f.place?.map (·.line)

/-- The column of a failure. -/
def column? (f : ScanFault) : Option Nat := f.place?.map (·.column)

/-- What is wrong, without the place. -/
def description : ScanFault → String
  | noRule _ state ahead =>
    "No rule in state '" ++ state ++ "' matched input \"" ++ ahead ++ "\""
  | noSuchState _ state => "Unknown state '" ++ state ++ "'"
  | outermost _ state =>
    "Cannot pop state '" ++ state ++ "': it is the last state on the stack"
  | outOfText _ requested remaining =>
    "Cannot advance by " ++ toString requested ++ " bytes: only " ++ toString remaining ++ " remain"
  | badPattern pattern reason => "Invalid pattern '" ++ pattern ++ "': " ++ reason
  | standstill _ state pattern =>
    "Pattern '" ++ pattern ++ "' in state '" ++ state ++
      "' matched empty input without changing state"
  | tooDeep _ state depth =>
    "Pushing state '" ++ state ++ "' exceeds the maximum stack depth of " ++ toString depth
  | unclosed _ state depth =>
    "Input ended inside state '" ++ state ++ "' (stack depth " ++ toString depth ++ ")"

/-- The wording of a failure: the place, if there is one, and what is wrong there. -/
def message (f : ScanFault) : String :=
  match f.place? with
  | some p => "[" ++ p.render ++ "] " ++ f.description
  | none => f.description

end ScanFault

end PushdownLexer
