import PushdownLexer.Scan.Fault

/-!
# Failures and their reports

## Main definitions

* `ReadFault`: why a file cannot be read.
* `Failure`: what can go wrong in a run of the program.
* `FailureReport`: the report of a failure.
-/

namespace PushdownLexer

/-- Why a file cannot be read. -/
inductive ReadFault where
  | missing
  | directory
  | notDirectory
  | denied
  | longName
  | nulInName
  | notText
  | other (message : String)
  deriving DecidableEq, Repr, Inhabited

/-- The wording of a fault. -/
def ReadFault.message : ReadFault → String
  | missing => "No such file or directory (os error 2)"
  | directory => "Is a directory (os error 21)"
  | notDirectory => "Not a directory (os error 20)"
  | denied => "Permission denied (os error 13)"
  | longName => "File name too long (os error 36)"
  | nulInName => "file name contained an unexpected NUL byte"
  | notText => "stream did not contain valid UTF-8"
  | other message => message

/-- What can go wrong in a run. -/
inductive Failure where
  | scan (fault : ScanFault)
  | io (path message : String)
  | settings (message : String)
  deriving DecidableEq, Repr, Inhabited

/-- The report of a failure. -/
structure FailureReport where
  phase : String
  line? : Option Nat
  column? : Option Nat
  kind : String
  message : String
  state? : Option String
  deriving DecidableEq, Repr, Inhabited

namespace Failure

/-- The part of a run that failed. -/
def phase : Failure → String
  | scan _ => "scanner"
  | io _ _ => "io"
  | settings _ => "config"

/-- The name of a failure. -/
def kind : Failure → String
  | scan f => f.kind
  | io _ _ => "IoError"
  | settings _ => "ConfigError"

/-- The scan fault, if the failure is one. -/
def scanFault? : Failure → Option ScanFault
  | scan f => some f
  | io _ _ | settings _ => none

/-- The line of a failure. -/
def line? (f : Failure) : Option Nat := f.scanFault?.bind (·.line?)

/-- The column of a failure. -/
def column? (f : Failure) : Option Nat := f.scanFault?.bind (·.column?)

/-- The wording of a failure. -/
def message : Failure → String
  | scan f => f.message
  | io path message => "Cannot read '" ++ path ++ "': " ++ message
  | settings message => "Config error: " ++ message

/-- The report of a failure. -/
def report (f : Failure) : FailureReport :=
  ⟨f.phase, f.line?, f.column?, f.kind, f.message, f.scanFault?.bind (·.state?)⟩

end Failure

/-- A report on one line. -/
def FailureReport.render (r : FailureReport) : String := r.phase ++ " error: " ++ r.message

end PushdownLexer
